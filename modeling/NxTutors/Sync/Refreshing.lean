import NxTutors.Sync.Draining

/-!
# Every tutor of the feed

Where nothing but fetches fails, and these only for a time, the incremental sync comes to every
tutor of a feed that does not change, because of its checkpoint. The deployed pair has none: the
fetcher starts at the top in each run and stops after twenty-five pages. So it comes to the tutors
of these pages, and to no others (`refreshed`).
-/

namespace NxTutors.Sync

open Store
open MatchAgent (Time)

/-! ## The deployed pair -/

/-- **Runs of the two jobs over a feed** of which only fetches fail, for a time: the ingest runs
again and again and applies what it lists; the fetcher runs in later and later seconds, and again
and again gets as far as any number of pages. -/
structure Deployed (feed : StableFeed) (runs : Nat → Run) : Prop where
  ingests : Recurs fun n => ∃ outcome now, runs n = .ingest outcome now
  applies : ∀ n outcome now, runs n = .ingest outcome now → ∀ key, outcome key = .applied
  fetches : ∀ n stamp fetch, runs n = .stage stamp fetch → ∃ fails, fetch = feed.fetch fails
  later : ∀ m n stamp fetch stamp' fetch', m < n → runs m = .stage stamp fetch →
    runs n = .stage stamp' fetch' → stamp < stamp'
  transient : ∀ k, Recurs fun n => ∃ stamp fails, runs n = .stage stamp (feed.fetch fails) ∧
    ∀ j < k, fails j = false

/-- A tutor has been upserted since the first run. -/
def StagingState.Upserted (st : StagingState) (t : TutorCandidate) : Prop :=
  ∃ e ∈ st.applied, t ∈ e.tutors

/-- The tutors that a run of the fetcher can come to. -/
def StableFeed.within (feed : StableFeed) : List TutorCandidate :=
  feed.tutors.take (MAX_PAGES_PER_RUN * feed.pageSize)

variable {feed : StableFeed} {sha256 : String → String} {start : StagingState} {runs : Nat → Run}
  {t : TutorCandidate} {e : StagedPage}

/-- The tutors of the first pages are those within reach. -/
theorem StableFeed.mem_within_iff :
    t ∈ feed.within ↔ ∃ j < MAX_PAGES_PER_RUN, t ∈ feed.slice (j * feed.pageSize) := by
  have hpos := feed.pageSize_pos
  constructor
  · intro ht
    obtain ⟨i, hi, rfl⟩ := List.getElem_of_mem ht
    rw [within, List.length_take] at hi
    have hdiv : i / feed.pageSize * feed.pageSize + i % feed.pageSize = i := Nat.div_add_mod' _ _
    have hmod := Nat.mod_lt i hpos
    refine ⟨i / feed.pageSize, (Nat.div_lt_iff_lt_mul hpos).mpr (by omega), ?_⟩
    rw [slice, List.mem_iff_getElem]
    refine ⟨i % feed.pageSize, ?_, ?_⟩
    · rw [List.length_take, List.length_drop]
      omega
    · simp [within, hdiv]
  · rintro ⟨j, hj, ht⟩
    rw [slice, List.take_drop] at ht
    have hle : j * feed.pageSize + feed.pageSize ≤ MAX_PAGES_PER_RUN * feed.pageSize := by
      rw [← Nat.succ_mul]
      exact Nat.mul_le_mul_right _ hj
    exact (List.take_prefix_take_left hle).sublist.subset (List.mem_of_mem_drop ht)

/-- The pages of a run are there afterwards, since their numbers differ. -/
theorem mem_foldl_put_of_mem {stamp : Nat} {p : Nat × List TutorCandidate} :
    ∀ {pages : List (Nat × List TutorCandidate)} {b : Bucket}, (∀ q ∈ pages, q.1 = p.1 → q = p) →
      (p ∈ pages ∨ ⟨⟨stamp, p.1⟩, p.2⟩ ∈ b.pages) →
        ⟨⟨stamp, p.1⟩, p.2⟩ ∈ (pages.foldl (fun b p => b.put ⟨⟨stamp, p.1⟩, p.2⟩) b).pages := by
  intro pages
  induction pages with
  | nil => exact fun _ h => h.resolve_left List.not_mem_nil
  | cons q pages ih =>
    intro b hsame h
    rw [List.foldl_cons]
    refine ih (fun q' hq' => hsame q' (List.mem_cons_of_mem _ hq')) ?_
    by_cases hnumber : q.1 = p.1
    · rw [hsame q List.mem_cons_self hnumber]
      exact .inr (Bucket.mem_put.mpr (.inl rfl))
    · rcases h with h | h
      · rcases List.mem_cons.mp h with rfl | h
        · exact absurd rfl hnumber
        · exact .inl h
      · refine .inr (Bucket.mem_put.mpr (.inr ⟨h, fun hkey => hnumber ?_⟩))
        exact (congrArg StageKey.page hkey).symm

theorem states_add (m n : Nat) :
    states sha256 (states sha256 start runs m) (fun i => runs (m + i)) n =
      states sha256 start runs (m + n) := by
  induction n with
  | zero => rfl
  | succ n ih => rw [states, ih, ← Nat.add_assoc, states]

/-- What has been upserted has been from then on. -/
theorem upserted_succ {n : Nat} (h : (states sha256 start runs n).Upserted t) :
    (states sha256 start runs (n + 1)).Upserted t := by
  obtain ⟨e, he, ht⟩ := h
  refine ⟨e, ?_, ht⟩
  rw [states]
  cases hrun : runs n with
  | stage stamp fetch => exact he
  | ingest outcome now => exact mem_ingest_applied.mpr (.inl he)

namespace Deployed

/-- **A page that is staged is applied.** -/
theorem applied (h : Deployed feed runs) {n : Nat} {stamp : Nat} {fetch : Fetch}
    (hrun : runs n = .stage stamp fetch) (hstamp : e.key.stamp = stamp)
    (he : e ∈ (states sha256 start runs (n + 1)).bucket.pages) :
    ∃ m, e ∈ (states sha256 start runs m).applied := by
  by_cases hnew : e ∈ (states sha256 start runs (n + 1)).applied
  · exact ⟨n + 1, hnew⟩
  have hback {m : Nat} (hm : n + 1 ≤ m) : runs (n + 1 + (m - (n + 1))) = runs m := by
    rw [Nat.add_sub_cancel' hm]
  have hfurther : Further (fun i => runs (n + 1 + i)) e := by
    constructor
    · intro k
      obtain ⟨m, hm, outcome, now, hingest⟩ := h.ingests (n + 1 + k)
      exact ⟨m - (n + 1), by omega, outcome, now, (hback (by omega)).trans hingest⟩
    · intro k stamp' fetch' hrun'
      rw [hstamp]
      exact h.later n (n + 1 + k) _ _ _ _ (by omega) hrun hrun'
    · exact fun k outcome now hrun' => h.applies _ outcome now hrun' _
  obtain ⟨m, hm⟩ := (@applied_iff sha256 _ _ _ hfurther he hnew).mpr <| by
    rintro ⟨moment, -, front, -, hlength, hfront⟩
    obtain ⟨e', he'⟩ := List.exists_mem_of_length_pos (hlength ▸ Nat.succ_pos _ : 0 < front.length)
    obtain ⟨k, hk, outcome, now, hingest⟩ := hfurther.ingests moment
    exact (hfront e' he').2.2 k hk outcome now hingest (h.applies _ outcome now hingest _)
  rw [states_add] at hm
  exact ⟨_, hm⟩

/-- **The pair comes to all tutors within reach.** -/
theorem refreshes (h : Deployed feed runs) :
    ∃ n, ∀ t ∈ feed.within, (states sha256 start runs n).Upserted t := by
  refine eventually_all (fun n t => upserted_succ) fun t ht => ?_
  obtain ⟨j, hj, ht⟩ := StableFeed.mem_within_iff.mp ht
  obtain ⟨n, -, stamp, fails, hrun, hfails⟩ := h.transient (j + 1) 0
  have hlt : j * feed.pageSize < feed.tutors.length := by
    have hpos := List.length_pos_of_mem ht
    rw [StableFeed.length_slice] at hpos
    omega
  have hput : ⟨⟨stamp, j⟩, feed.slice (j * feed.pageSize)⟩ ∈
      (states sha256 start runs (n + 1)).bucket.pages := by
    rw [states, hrun]
    refine mem_foldl_put_of_mem (p := (j, feed.slice (j * feed.pageSize))) (fun q hq hnumber => ?_) (.inl ?_)
    · obtain ⟨-, -, -, hpage⟩ := StableFeed.mem_stageFeedPages_iff.mp hq
      exact Prod.ext hnumber (hpage.trans (by rw [hnumber]))
    · exact StableFeed.mem_stageFeedPages_iff.mpr
        ⟨hj, fun k hk => hfails k (by omega), hlt, rfl⟩
  obtain ⟨m, hm⟩ := h.applied hrun rfl hput
  exact ⟨m, _, hm, ht⟩

/-- Nothing else is ever staged or applied. -/
theorem within (hfetches : ∀ n stamp fetch, runs n = .stage stamp fetch → ∃ fails, fetch = feed.fetch fails)
    (hbucket : start.bucket.pages = []) (happlied : start.applied = []) (n : Nat) :
    ∀ e, e ∈ (states sha256 start runs n).bucket.pages ∨ e ∈ (states sha256 start runs n).applied →
      ∀ t ∈ e.tutors, t ∈ feed.within := by
  induction n with
  | zero =>
    intro e he
    rw [states, hbucket, happlied] at he
    exact absurd he (by simp)
  | succ n ih =>
    intro e he t ht
    rw [states] at he
    cases hrun : runs n with
    | stage stamp fetch =>
      rw [hrun] at he
      rcases he with he | he
      · rcases mem_foldl_put.1 he with he | ⟨-, he⟩
        · exact ih e (.inl he) t ht
        · obtain ⟨fails, rfl⟩ := hfetches n stamp fetch hrun
          obtain ⟨hj, -, -, hpage⟩ := StableFeed.mem_stageFeedPages_iff.mp he
          exact StableFeed.mem_within_iff.mpr ⟨_, hj, hpage ▸ ht⟩
      · exact ih e (.inr he) t ht
    | ingest outcome now =>
      rw [hrun] at he
      rcases he with he | he
      · exact ih e (.inl (mem_ingest_bucket.mp he).1) t ht
      · rcases mem_ingest_applied.mp he with he | ⟨he, -⟩
        · exact ih e (.inr he) t ht
        · exact ih e (.inl (Bucket.mem_listing_iff.mp he).1) t ht

end Deployed

/-! ## Both jobs -/

/-- The incremental sync upserts every tutor, from any checkpoint, if again and again a run gets its
first page. -/
def RefreshedBySync (feed : StableFeed) : Prop :=
  ∀ fails start, (Recurs fun n => fails n 0 = false) →
    ∃ n, ∀ t ∈ feed.tutors, ∃ m < n, t ∈ feed.upserted fails start m

/-- The deployed pair upserts tutors, whatever is stored and staged before. -/
def RefreshedByPair (feed : StableFeed) (tutors : List TutorCandidate) : Prop :=
  ∀ sha256 start runs, Deployed feed runs → start.applied = [] →
    ∃ n, ∀ t ∈ tutors, (states sha256 start runs n).Upserted t

/-- Runs in turn, in which nothing fails. -/
def inTurn (feed : StableFeed) (n : Nat) : Run :=
  if n % 2 = 0 then .stage n (feed.fetch fun _ => false) else .ingest (fun _ => .applied) 0

theorem deployed_inTurn (feed : StableFeed) : Deployed feed (inTurn feed) where
  ingests n := ⟨2 * n + 1, by omega, fun _ => .applied, 0, if_neg (by omega)⟩
  applies n outcome now hrun key := by
    unfold inTurn at hrun
    split at hrun
    · cases hrun
    · cases hrun
      rfl
  fetches n stamp fetch hrun := by
    unfold inTurn at hrun
    split at hrun
    · cases hrun
      exact ⟨_, rfl⟩
    · cases hrun
  later m n stamp fetch stamp' fetch' hlt hrun hrun' := by
    unfold inTurn at hrun hrun'
    split at hrun
    · split at hrun'
      · cases hrun
        cases hrun'
        exact hlt
      · cases hrun'
    · cases hrun
  transient k n := ⟨2 * n, by omega, 2 * n, fun _ => false, if_pos (by omega), fun _ _ => rfl⟩

/-- **The pair comes to all tutors just where all are within reach.** -/
theorem refreshedByPair_iff (feed : StableFeed) :
    RefreshedByPair feed feed.tutors ↔ ∀ t ∈ feed.tutors, t ∈ feed.within := by
  constructor
  · intro h t ht
    obtain ⟨n, hn⟩ := h id ⟨{}, fun _ => none, []⟩ _ (deployed_inTurn feed) rfl
    obtain ⟨e, he, hte⟩ := hn t ht
    exact Deployed.within (deployed_inTurn feed).fetches rfl rfl n e (.inr he) t hte
  · intro hall sha256 start runs hruns _
    obtain ⟨n, hn⟩ := @Deployed.refreshes feed sha256 start runs hruns
    exact ⟨n, fun t ht => hn t (hall t ht)⟩

/-- **What is refreshed** of a feed that does not change: by the incremental sync every tutor; by
the deployed pair the tutors of the first twenty-five pages, which are all just where every tutor is
on one of them. -/
theorem refreshed (feed : StableFeed) :
    RefreshedBySync feed ∧ RefreshedByPair feed feed.within ∧
      (RefreshedByPair feed feed.tutors ↔ ∀ t ∈ feed.tutors, t ∈ feed.within) :=
  ⟨fun _ _ h => StableFeed.incremental_refreshes h, fun _ _ _ h _ => h.refreshes,
    refreshedByPair_iff feed⟩

/-- A tutor who has taught for some years. -/
def tutorOf (years : Nat) : TutorCandidate where
  tutorId := "t" ++ toString years
  publicRef := "dDEtbnh0"
  name := "Asha"
  experienceYears := some years

/-- Twenty-six tutors, on pages of one. -/
def longFeed : StableFeed where
  tutors := (List.range 26).map tutorOf
  pageSize := 1
  more _ := true
  pageSize_pos := by decide
  more_of_lt _ _ := rfl

/-- **The twenty-sixth page is never staged.** -/
theorem last_left_out : ¬ RefreshedByPair longFeed longFeed.tutors := by
  intro h
  have hlast : tutorOf 25 ∈ ((List.range 26).map tutorOf).take 25 :=
    (refreshedByPair_iff longFeed).mp h _
      (List.mem_map_of_mem (List.mem_range.mpr (by decide)))
  rw [← List.map_take] at hlast
  obtain ⟨years, hyears, heq⟩ := List.mem_map.mp hlast
  have hsame : some years = some 25 := congrArg TutorCandidate.experienceYears heq
  obtain rfl := Option.some.inj hsame
  exact absurd hyears (by decide)

end NxTutors.Sync
