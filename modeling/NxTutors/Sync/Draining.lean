import NxTutors.Sync.Staging

/-!
# What is applied in the end

A page is listed when fewer than fifty are in front of it. Those in front become fewer, because what
is staged later comes behind, so the page is listed in the end, unless fifty of them are never
applied (`applied_iff`).
-/

namespace NxTutors.Sync

open Effect Store
open MatchAgent (Time)

/-! ## One run and one page -/

section OneRun

variable {sha256 : String → String} {st : StagingState} {e e' : StagedPage} {now : Time}
  {outcome : StageKey → Outcome}

/-- It is listed strictly before. -/
def Precedes (e' e : StagedPage) : Prop := ¬ ListedBefore e e'

instance (e' e : StagedPage) : Decidable (Precedes e' e) := inferInstanceAs (Decidable (¬ _))

theorem Precedes.trans {a b c : StagedPage} (hab : Precedes a b) (hbc : Precedes b c) :
    Precedes a c := by
  unfold Precedes ListedBefore StageKey.LE at *
  omega

theorem Precedes.stamp_le (h : Precedes e' e) : e'.key.stamp ≤ e.key.stamp := by
  unfold Precedes ListedBefore StageKey.LE at h
  omega

theorem Bucket.eq_of_key {b : Bucket} (he : e ∈ b.pages) (he' : e' ∈ b.pages)
    (h : e.key = e'.key) : e = e' := by
  have : Std.Symm fun x y : StagedPage => x.key ≠ y.key := ⟨fun _ _ hne => Ne.symm hne⟩
  by_contra hne
  exact b.distinct.forall he he' hne h

theorem Bucket.nodup (b : Bucket) : b.pages.Nodup :=
  b.distinct.imp fun h heq => h (congrArg StagedPage.key heq)

theorem Bucket.mem_put {b : Bucket} : e' ∈ (b.put e).pages ↔ e' = e ∨ (e' ∈ b.pages ∧ e'.key ≠ e.key) := by
  rw [Bucket.put, List.mem_cons, List.mem_filter]
  simp

theorem Bucket.mem_delete {b : Bucket} {key : StageKey} :
    e' ∈ (b.delete key).pages ↔ e' ∈ b.pages ∧ e'.key ≠ key := by
  rw [Bucket.delete, List.mem_filter]
  simp

/-- **A page is listed when few are in front of it.** -/
theorem Bucket.mem_listing_iff {b : Bucket} :
    e ∈ b.listing ↔ e ∈ b.pages ∧ b.pages.countP (Precedes · e) < MAX_OBJECTS_PER_INGEST :=
  mem_take_ranked_iff fun _ ha _ hb hab hba => b.eq_of_key ha hb (hab.antisymm hba)

/-- Where a page is not listed, fifty that precede it are. -/
theorem Bucket.listing_full {b : Bucket} (he : e ∈ b.pages) (hnot : e ∉ b.listing) :
    b.listing.length = MAX_OBJECTS_PER_INGEST ∧ ∀ e' ∈ b.listing, Precedes e' e := by
  have hsorted : e ∈ b.pages.insertionSort ListedBefore := (List.mem_insertionSort _).mpr he
  have hpairs := List.pairwise_insertionSort ListedBefore b.pages
  rw [← List.take_append_drop MAX_OBJECTS_PER_INGEST (b.pages.insertionSort ListedBefore)]
    at hsorted hpairs
  have hdrop := (List.mem_append.mp hsorted).resolve_left hnot
  constructor
  · have hpos := List.length_pos_of_mem hdrop
    rw [List.length_drop] at hpos
    rw [listing, List.length_take]
    omega
  · intro e' he' hback
    have hfront : ListedBefore e' e := (List.pairwise_append.mp hpairs).2.2 e' he' e hdrop
    have hmem : e' ∈ b.pages := (mem_listing_iff.mp he').1
    rw [b.eq_of_key he hmem (hback.antisymm hfront)] at hnot
    exact hnot he'

/-- A page with fifty in front of it is not listed. -/
theorem not_listed {b : Bucket} {front : List StagedPage} (hnodup : front.Nodup)
    (hlength : front.length = Bucket.MAX_OBJECTS_PER_INGEST)
    (hfront : ∀ e' ∈ front, e' ∈ b.pages ∧ Precedes e' e) : e ∉ b.listing := by
  intro hlisted
  have hcount := (Bucket.mem_listing_iff.mp hlisted).2
  have hsub : front ⊆ b.pages.filter (Precedes · e) := fun e' he' =>
    List.mem_filter.mpr ⟨(hfront e' he').1, decide_eq_true (hfront e' he').2⟩
  have hle := (List.subperm_of_subset hnodup hsub).length_le
  rw [← List.countP_eq_length_filter] at hle
  omega

/-- By the pages of the listing: what is left, and what has been applied. -/
theorem mem_foldl_ingestPage : ∀ {pages : List StagedPage} {st : StagingState},
    (e ∈ (pages.foldl (ingestPage sha256 outcome now) st).bucket.pages ↔
      e ∈ st.bucket.pages ∧ ∀ e' ∈ pages, outcome e'.key = .applied → e.key ≠ e'.key) ∧
    (e ∈ (pages.foldl (ingestPage sha256 outcome now) st).applied ↔
      e ∈ st.applied ∨ (e ∈ pages ∧ outcome e.key = .applied)) := by
  intro pages
  induction pages with
  | nil => simp
  | cons p pages ih =>
    intro st
    have hskip (hne : outcome p.key ≠ .applied) : ingestPage sha256 outcome now st p = st := by
      unfold ingestPage
      cases houtcome : outcome p.key with
      | unreadable => rfl
      | failed => rfl
      | applied => exact absurd houtcome hne
    rw [List.foldl_cons, (@ih (ingestPage sha256 outcome now st p)).1,
      (@ih (ingestPage sha256 outcome now st p)).2]
    by_cases happlied : outcome p.key = .applied
    · have hstep : ingestPage sha256 outcome now st p =
          { bucket := st.bucket.delete p.key
            rows := upsert sha256 st.rows p.tutors now
            applied := st.applied ++ [p] } := by
        rw [ingestPage, happlied]
      rw [hstep]
      dsimp only
      rw [Bucket.mem_delete, List.mem_append, List.mem_singleton]
      constructor
      · simp only [List.forall_mem_cons]
        tauto
      · constructor
        · rintro ((h | rfl) | ⟨h, h'⟩)
          · exact .inl h
          · exact .inr ⟨List.mem_cons_self, happlied⟩
          · exact .inr ⟨List.mem_cons_of_mem _ h, h'⟩
        · rintro (h | ⟨h, h'⟩)
          · exact .inl (.inl h)
          · rcases List.mem_cons.mp h with rfl | h
            · exact .inl (.inr rfl)
            · exact .inr ⟨h, h'⟩
    · rw [hskip happlied]
      constructor
      · simp only [List.forall_mem_cons]
        tauto
      · refine or_congr_right ⟨fun ⟨h, h'⟩ => ⟨List.mem_cons_of_mem _ h, h'⟩, fun ⟨h, h'⟩ => ?_⟩
        rcases List.mem_cons.mp h with rfl | h
        · exact absurd h' happlied
        · exact ⟨h, h'⟩

/-- **What a run of the ingest leaves**: all but what was listed and applied. -/
theorem mem_ingest_bucket :
    e ∈ (step sha256 st (.ingest outcome now)).bucket.pages ↔
      e ∈ st.bucket.pages ∧ ¬ (e ∈ st.bucket.listing ∧ outcome e.key = .applied) := by
  refine mem_foldl_ingestPage.1.trans (and_congr_right fun he => ?_)
  constructor
  · rintro h ⟨hlisted, happlied⟩
    exact h e hlisted happlied rfl
  · intro h e' he' happlied hkey
    obtain rfl := st.bucket.eq_of_key he (Bucket.mem_listing_iff.mp he').1 hkey
    exact h ⟨he', happlied⟩

theorem mem_ingest_applied :
    e ∈ (step sha256 st (.ingest outcome now)).applied ↔
      e ∈ st.applied ∨ (e ∈ st.bucket.listing ∧ outcome e.key = .applied) :=
  mem_foldl_ingestPage.2

/-- Buckets that agree on what precedes a page list the same of it. -/
theorem Bucket.mem_listing_congr {b b' : Bucket}
    (h : ∀ x, Precedes x e → (x ∈ b.pages ↔ x ∈ b'.pages)) (he' : Precedes e' e) :
    e' ∈ b.listing ↔ e' ∈ b'.listing := by
  have hperm : (b.pages.filter (Precedes · e')).Perm (b'.pages.filter (Precedes · e')) := by
    rw [List.perm_ext_iff_of_nodup (b.nodup.filter _) (b'.nodup.filter _)]
    intro x
    rw [List.mem_filter, List.mem_filter]
    exact and_congr_left fun hx => h x ((of_decide_eq_true hx).trans he')
  rw [mem_listing_iff, mem_listing_iff, h e' he', List.countP_eq_length_filter,
    List.countP_eq_length_filter, hperm.length_eq]

theorem Bucket.nodup_listing (b : Bucket) : b.listing.Nodup :=
  ((List.perm_insertionSort ListedBefore b.pages).nodup_iff.mpr b.nodup).sublist
    (List.take_sublist _ _)

/-- What a run of the fetcher does to what is there, or puts. -/
theorem mem_foldl_put {stamp : Nat} : ∀ {pages : List (Nat × List TutorCandidate)} {b : Bucket},
    (e ∈ (pages.foldl (fun b p => b.put ⟨⟨stamp, p.1⟩, p.2⟩) b).pages →
      e ∈ b.pages ∨ (e.key.stamp = stamp ∧ (e.key.page, e.tutors) ∈ pages)) ∧
    (e.key.stamp ≠ stamp → e ∈ b.pages →
      e ∈ (pages.foldl (fun b p => b.put ⟨⟨stamp, p.1⟩, p.2⟩) b).pages) := by
  intro pages
  induction pages with
  | nil => exact ⟨.inl, fun _ h => h⟩
  | cons p pages ih =>
    intro b
    rw [List.foldl_cons]
    constructor
    · intro h
      rcases ih.1 h with h | ⟨hstamp, h⟩
      · rcases Bucket.mem_put.mp h with rfl | ⟨h, -⟩
        · exact .inr ⟨rfl, List.mem_cons_self⟩
        · exact .inl h
      · exact .inr ⟨hstamp, List.mem_cons_of_mem _ h⟩
    · intro hstamp h
      refine ih.2 hstamp (Bucket.mem_put.mpr (.inr ⟨h, ?_⟩))
      intro hkey
      rw [hkey] at hstamp
      exact hstamp rfl

end OneRun

/-! ## Run after run -/

section Further

variable (sha256 : String → String) (start : StagingState) (runs : Nat → Run)

/-- The states that further runs lead to. -/
def states : Nat → StagingState
  | 0 => start
  | n + 1 => step sha256 (states n) (runs n)

/-- **Further runs, as they concern a page.** The jobs run again and again, the fetcher in later
seconds, and the page can be read and applied. -/
structure Further (e : StagedPage) : Prop where
  ingests : Recurs fun n => ∃ outcome now, runs n = .ingest outcome now
  later : ∀ n stamp fetch, runs n = .stage stamp fetch → e.key.stamp < stamp
  applies : ∀ n outcome now, runs n = .ingest outcome now → outcome e.key = .applied

/-- From a moment on a key is never applied. -/
def Lasting (moment : Nat) (key : StageKey) : Prop :=
  ∀ n, moment ≤ n → ∀ outcome now, runs n = .ingest outcome now → outcome key ≠ .applied

/-- **The page is blocked** at a moment: fifty are in front of it, none of which can be read and
applied any more. -/
def Blocked (e : StagedPage) (moment : Nat) : Prop :=
  e ∈ (states sha256 start runs moment).bucket.pages ∧
  ∃ front : List StagedPage, front.Nodup ∧ front.length = Bucket.MAX_OBJECTS_PER_INGEST ∧
    ∀ e' ∈ front, e' ∈ (states sha256 start runs moment).bucket.pages ∧ Precedes e' e ∧
      Lasting runs moment e'.key

variable {sha256 start runs} {e e' : StagedPage}

/-- What was there stays, but for what an ingest applies. -/
theorem stays (hlater : ∀ n stamp fetch, runs n = .stage stamp fetch → e.key.stamp < stamp) {n : Nat}
    (h : e ∈ (states sha256 start runs n).bucket.pages)
    (hnot : ∀ outcome now, runs n = .ingest outcome now →
      ¬ (e ∈ (states sha256 start runs n).bucket.listing ∧ outcome e.key = .applied)) :
    e ∈ (states sha256 start runs (n + 1)).bucket.pages := by
  cases hrun : runs n with
  | stage stamp fetch =>
    have hstamp := hlater n stamp fetch hrun
    rw [states, hrun]
    exact mem_foldl_put.2 (by omega) h
  | ingest outcome now =>
    rw [states, hrun]
    exact mem_ingest_bucket.mpr ⟨h, hnot outcome now hrun⟩

/-- **A blocked page stays**, and so does what blocks it. -/
theorem Blocked.stays {moment : Nat} (hfurther : Further runs e)
    (h : Blocked sha256 start runs e moment) (d : Nat) :
    Blocked sha256 start runs e (moment + d) := by
  induction d with
  | zero => exact h
  | succ d ih =>
    obtain ⟨hin, front, hnodup, hlength, hfront⟩ := ih
    have hmany := not_listed hnodup hlength fun e' he' => ⟨(hfront e' he').1, (hfront e' he').2.1⟩
    refine ⟨Sync.stays hfurther.later hin fun outcome now _ hlisted => hmany hlisted.1,
      front, hnodup, hlength, fun e' he' => ?_⟩
    obtain ⟨hin', hprecedes, hlasting⟩ := hfront e' he'
    refine ⟨Sync.stays ?_ hin' ?_, hprecedes, fun n hn => hlasting n (by omega)⟩
    · intro n stamp fetch hrun
      have hstamp := hfurther.later n stamp fetch hrun
      have hle := hprecedes.stamp_le
      omega
    · intro outcome now hrun hlisted
      exact hlasting (moment + d) (Nat.le_refl _) outcome now hrun hlisted.2

/-- What an ingest has taken away does not come back. -/
theorem gone (hfurther : Further runs e) {n : Nat}
    (h : e ∉ (states sha256 start runs n).bucket.pages) (d : Nat) :
    e ∉ (states sha256 start runs (n + d)).bucket.pages := by
  induction d with
  | zero => exact h
  | succ d ih =>
    intro hin
    rw [← Nat.add_assoc, states] at hin
    cases hrun : runs (n + d) with
    | stage stamp fetch =>
      rw [hrun] at hin
      have hstamp := hfurther.later _ stamp fetch hrun
      rcases mem_foldl_put.1 hin with hin | ⟨heq, -⟩
      · exact ih hin
      · omega
    | ingest outcome now =>
      rw [hrun] at hin
      exact ih (mem_ingest_bucket.mp hin).1

/-- **A page that is blocked at some moment is never applied.** -/
theorem Blocked.never_applied (hfurther : Further runs e) (hnew : e ∉ start.applied) {moment : Nat}
    (h : Blocked sha256 start runs e moment) (n : Nat) :
    e ∉ (states sha256 start runs n).applied := by
  induction n with
  | zero => exact hnew
  | succ n ih =>
    intro happlied
    rw [states] at happlied
    cases hrun : runs n with
    | stage stamp fetch =>
      rw [hrun] at happlied
      exact ih happlied
    | ingest outcome now =>
      rw [hrun] at happlied
      have hlisted := ((mem_ingest_applied.mp happlied).resolve_left ih)
      rcases Nat.lt_or_ge n moment with hbefore | hafter
      · -- it would not be there any more
        have hout : e ∉ (states sha256 start runs (n + 1)).bucket.pages := by
          rw [states, hrun]
          exact fun hin => (mem_ingest_bucket.mp hin).2 hlisted
        have hout := gone hfurther hout (moment - (n + 1))
        rw [Nat.add_sub_cancel' hbefore] at hout
        exact hout h.1
      · have hstill := h.stays hfurther (n - moment)
        rw [Nat.add_sub_cancel' hafter] at hstill
        obtain ⟨-, front, hnodup, hlength, hfront⟩ := hstill
        exact absurd hlisted.1 (not_listed hnodup hlength fun e' he' => ⟨(hfront e' he').1, (hfront e' he').2.1⟩)

/-- **In front of a page, nothing changes any more** from some moment on. -/
theorem settled (hfurther : Further runs e) : ∃ moment, ∀ n, moment ≤ n → ∀ e', Precedes e' e →
    (e' ∈ (states sha256 start runs n).bucket.pages ↔
      e' ∈ (states sha256 start runs moment).bucket.pages) := by
  let front (n : Nat) := (states sha256 start runs n).bucket.pages.filter (Precedes · e)
  have hmem (n : Nat) (e' : StagedPage) (he' : Precedes e' e) :
      e' ∈ front n ↔ e' ∈ (states sha256 start runs n).bucket.pages := by
    rw [List.mem_filter]
    exact and_iff_left (decide_eq_true he')
  have hnext (n : Nat) : front (n + 1) ⊆ front n := by
    intro e' he'
    have hprecedes : Precedes e' e := of_decide_eq_true (List.mem_filter.mp he').2
    rw [hmem _ _ hprecedes] at he' ⊢
    rw [states] at he'
    cases hrun : runs n with
    | stage stamp fetch =>
      rw [hrun] at he'
      have hstamp := hfurther.later n stamp fetch hrun
      have hle := hprecedes.stamp_le
      exact (mem_foldl_put.1 he').resolve_right fun h => by omega
    | ingest outcome now =>
      rw [hrun] at he'
      exact (mem_ingest_bucket.mp he').1
  have hsub (n d : Nat) : front (n + d) ⊆ front n := by
    induction d with
    | zero => exact fun _ h => h
    | succ d ih => exact fun _ h => ih (hnext _ h)
  have hnodup (n : Nat) : (front n).Nodup := (Bucket.nodup _).filter _
  obtain ⟨moment, hconst⟩ := eventually_const (f := fun n => (front n).length) fun n =>
    (List.subperm_of_subset (hnodup (n + 1)) (hnext n)).length_le
  refine ⟨moment, fun n hn e' he' => ?_⟩
  obtain ⟨d, rfl⟩ := Nat.exists_eq_add_of_le hn
  have hperm := (List.subperm_of_subset (hnodup (moment + d)) (hsub moment d)).perm_of_length_le
    (Nat.le_of_eq (hconst _ hn).symm)
  rw [← hmem _ _ he', ← hmem _ _ he', hperm.mem_iff]

/-- **A page that can be applied is applied in the end, unless it is blocked at some moment.** -/
theorem applied_iff (hfurther : Further runs e) (he : e ∈ start.bucket.pages)
    (hnew : e ∉ start.applied) :
    (∃ n, e ∈ (states sha256 start runs n).applied) ↔
      ¬ ∃ moment, Blocked sha256 start runs e moment := by
  constructor
  · rintro ⟨n, happlied⟩ ⟨moment, hblocked⟩
    exact hblocked.never_applied hfurther hnew n happlied
  · intro hfree
    by_contra hnever
    -- it would never be listed when the ingest runs, and so it would stay
    have hnot (n : Nat) (outcome : StageKey → Outcome) (now : Time)
        (hrun : runs n = .ingest outcome now) :
        e ∉ (states sha256 start runs n).bucket.listing := by
      intro hlisted
      refine hnever ⟨n + 1, ?_⟩
      rw [states, hrun]
      exact mem_ingest_applied.mpr (.inr ⟨hlisted, hfurther.applies n outcome now hrun⟩)
    have hin (n : Nat) : e ∈ (states sha256 start runs n).bucket.pages := by
      induction n with
      | zero => exact he
      | succ n ih =>
        exact stays hfurther.later ih fun outcome now hrun h => hnot n outcome now hrun h.1
    obtain ⟨moment, hsettled⟩ := @settled sha256 start runs e hfurther
    obtain ⟨m, hm, outcome, now, hrun⟩ := hfurther.ingests moment
    have hfull := Bucket.listing_full (hin m) (hnot m outcome now hrun)
    -- what is listed then is listed ever after, and never applied
    refine hfree ⟨m, hin m, _, Bucket.nodup_listing _, hfull.1, fun e' he' =>
      ⟨(Bucket.mem_listing_iff.mp he').1, hfull.2 e' he', fun n hn outcome' now' hrun' happlied => ?_⟩⟩
    have hprecedes := hfull.2 e' he'
    have hsame (k : Nat) (hk : m ≤ k) (x : StagedPage) (hx : Precedes x e) :
        x ∈ (states sha256 start runs m).bucket.pages ↔
          x ∈ (states sha256 start runs k).bucket.pages :=
      (hsettled m hm x hx).trans (hsettled k (Nat.le_trans hm hk) x hx).symm
    have hlisted := (Bucket.mem_listing_congr (hsame n hn) hprecedes).mp he'
    have hstays := (hsame (n + 1) (by omega) e' hprecedes).mp (Bucket.mem_listing_iff.mp he').1
    rw [states, hrun'] at hstays
    exact (mem_ingest_bucket.mp hstays).2 ⟨hlisted, happlied⟩

end Further

/-! ## The two together -/

/-- **What is staged.** In every run in which no page is applied after a newer one that shares a
tutor with it, what is stored of each tutor is always of the newest page applied. And a page that
can be read and applied from now on is applied in the end just when it is blocked at no moment. -/
theorem staged_applied (sha256 : String → String) :
    (∀ (start : StagingState) (runs : List Run), start.applied = [] →
      Along (step sha256) InOrder start runs →
        Throughout (step sha256) (fun st => ∀ tutorId, Newest sha256 start.rows st tutorId)
          start runs) ∧
    ∀ (start : StagingState) (runs : Nat → Run) (e : StagedPage), Further runs e →
      e ∈ start.bucket.pages → e ∉ start.applied →
        ((∃ n, e ∈ (states sha256 start runs n).applied) ↔
          ¬ ∃ moment, Blocked sha256 start runs e moment) := by
  refine ⟨fun start runs hnone hruns => ?_, fun start runs e hfurther he hnew =>
    applied_iff hfurther he hnew⟩
  have hstart (tutorId : String) : Newest sha256 start.rows start tutorId :=
    .inl ⟨fun e he => absurd (hnone ▸ he) List.not_mem_nil, rfl⟩
  exact Throughout.of_along hstart hruns fun st r h hr => Newest.step h hr

/-! ## A page that waits -/

/-- A run that gets one page, with one tutor. -/
def onePage (name : String) : Fetch := fun _ _ =>
  some ⟨[{ tutorId := "t1", publicRef := "dDEtbnh0", name := name }], false⟩

/-- The page of the first second fails at first, and is applied in the last run. -/
def waiting : List Run :=
  [.stage 1 (onePage "Asha"), .stage 2 (onePage "Asha Rao"),
    .ingest (fun key => if key = ⟨1, 0⟩ then .failed else .applied) 3, .ingest (fun _ => .applied) 4]

/-- **The older page is written over the newer one.** -/
theorem older_written_last :
    ¬ Throughout (step id) (fun st => ∀ tutorId, Newest id (fun _ => none) st tutorId)
      ⟨{}, fun _ => none, []⟩ waiting := by
  intro h
  obtain ⟨-, -, -, -, hlast⟩ := h
  rcases hlast "t1" with ⟨hnone, -⟩ | ⟨e, he, hmax, t, now, ht, hrow⟩
  · exact hnone ⟨⟨2, 0⟩, _⟩ List.mem_cons_self ⟨_, List.mem_cons_self, rfl⟩
  · -- the newest page applied is that of the second second
    have hnewest := hmax ⟨⟨2, 0⟩, _⟩ List.mem_cons_self ⟨_, List.mem_cons_self, rfl⟩
    rcases List.mem_cons.mp he with rfl | he
    · cases ht
      have hname : some "Asha" = some "Asha Rao" :=
        congrArg (Option.map fun p : Projected => p.row.name) hrow
      exact absurd hname (by decide)
    · obtain rfl := List.mem_singleton.mp he
      exact absurd hnewest (by decide)

end NxTutors.Sync
