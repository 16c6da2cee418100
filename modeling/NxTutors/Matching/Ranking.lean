import NxTutors.Matching.Combining
import NxTutors.Store.Ranking
import Mathlib.Data.Fintype.Pi
import Mathlib.Data.Prod.Lex
import Mathlib.Data.String.Basic

/-!
# Ranking

Candidates are sorted by their scores, and where variety is asked for, one that comes from a place
that has given enough already is passed over, as long as another is about as good. But what it is
compared with may itself be passed over, and so may all that are about as good: who takes the place
may be much worse. Whether that happens is decided by two candidates, the best that is left out and
the last that is taken in its stead, `Comparable`; but for that the ranking is what it should be,
`rank_iff`.
-/

namespace NxTutors.Matching.Scoring

/-! ## Order -/

instance : Fintype Dimension :=
  ⟨⟨DIMENSIONS, by decide⟩, fun d => by cases d <;> decide⟩

deriving instance DecidableEq for SkillScore, ScoredCandidate

/-- `(-final_score, -confidence, -weight_coverage, tutor_id)`. -/
def scoreKey (c : ScoredCandidate) : ℚᵒᵈ ×ₗ ℚᵒᵈ ×ₗ ℚᵒᵈ ×ₗ String :=
  toLex (.toDual c.finalScore, toLex (.toDual c.confidence,
    toLex (.toDual c.weightCoverage, c.tutorId)))

/-- `(-final_score, -confidence, tutor_id)`. -/
def backKey (c : ScoredCandidate) : ℚᵒᵈ ×ₗ ℚᵒᵈ ×ₗ String :=
  toLex (.toDual c.finalScore, toLex (.toDual c.confidence, c.tutorId))

/-- The order of the ranking. -/
def Ranked (a b : ScoredCandidate) : Prop := scoreKey a ≤ scoreKey b

instance : DecidableRel Ranked := fun _ _ => inferInstanceAs (Decidable (_ ≤ _))

instance : Std.Total Ranked := ⟨fun a b => le_total (scoreKey a) (scoreKey b)⟩

instance : IsTrans ScoredCandidate Ranked := ⟨fun _ _ _ h h' => le_trans (α := _ ×ₗ _) h h'⟩

/-- The order of those that are not shortlisted. -/
def RankedBehind (a b : ScoredCandidate) : Prop := backKey a ≤ backKey b

instance : DecidableRel RankedBehind := fun _ _ => inferInstanceAs (Decidable (_ ≤ _))

theorem Ranked.score_le {a b : ScoredCandidate} (h : Ranked a b) : b.finalScore ≤ a.finalScore := by
  rcases Prod.Lex.toLex_le_toLex.mp h with hlt | ⟨heq, -⟩
  · exact le_of_lt (OrderDual.toDual_lt_toDual.mp hlt)
  · exact le_of_eq (OrderDual.toDual_inj.mp heq).symm

/-- The tutor decides in the end. -/
theorem Ranked.tutorId_eq {a b : ScoredCandidate} (h : Ranked a b) (h' : Ranked b a) :
    a.tutorId = b.tutorId := by
  have hkey : scoreKey a = scoreKey b := le_antisymm h h'
  exact congrArg (fun key => (ofLex (ofLex (ofLex key).2).2).2) hkey

/-! ## The diversity rule -/

section Diversify

variable (p : Platform) (policy : RankingPolicy) (localityOf : String → Option String)

/-- `(locality_of.get(tutor_id) or "").lower() or "_unknown"`. -/
def locality (c : ScoredCandidate) : String :=
  if p.lower ((localityOf c.tutorId).getD "") = "" then "_unknown"
  else p.lower ((localityOf c.tutorId).getD "")

/-- The best of those that are not chosen, but for the candidate. -/
def bestRemaining (ordered chosen : List ScoredCandidate) (c : ScoredCandidate) : Rat :=
  ((ordered.filter fun d => d ∉ chosen ∧ d ≠ c).map (·.finalScore)).max?.getD 0

/-- What the loop keeps. -/
structure Diversified where
  chosen : List ScoredCandidate := []
  deferred : List ScoredCandidate := []
  counts : String → Nat := fun _ => 0

/-- One candidate. -/
def Diversified.consider (ordered : List ScoredCandidate) (s : Diversified) (c : ScoredCandidate) :
    Diversified :=
  if policy.thresholds.shortlistSize ≤ s.chosen.length then
    { s with deferred := s.deferred ++ [c] }
  else
    let place := locality p localityOf c
    if place ≠ "_unknown" ∧ policy.diversity.maxSameLocality ≤ s.counts place ∧
        c.finalScore - bestRemaining ordered s.chosen c ≤ policy.diversity.maxScoreSacrifice then
      { s with deferred := s.deferred ++ [c] }
    else
      { s with
        chosen := s.chosen ++ [c]
        counts := Function.update s.counts place (s.counts place + 1) }

/-- The shortlist, filled up from those that were passed over, the best first. -/
def shortlisted (ordered : List ScoredCandidate) : List ScoredCandidate :=
  let s := ordered.foldl (Diversified.consider p policy localityOf ordered) {}
  s.chosen ++ s.deferred.take (policy.thresholds.shortlistSize - s.chosen.length)

/-- `_diversify`. -/
def diversify (ordered : List ScoredCandidate) : List ScoredCandidate :=
  let chosen := shortlisted p policy localityOf ordered
  chosen ++ (ordered.filter (· ∉ chosen)).insertionSort RankedBehind

/-- `rank`. -/
def rank (candidates : List ScoredCandidate) : List ScoredCandidate :=
  let ordered := candidates.insertionSort Ranked
  if policy.diversity.enabled then diversify p policy localityOf ordered else ordered

/-- `shortlist_cutoff`. -/
def shortlistCutoff (ranked : List ScoredCandidate) : List ScoredCandidate :=
  (ranked.filter (policy.thresholds.minFinalScore ≤ ·.finalScore)).take
    policy.thresholds.shortlistSize

/-! ## Who is passed over -/

/-- So many come from the same place that another one is passed over if there is one about as
good. -/
def Saturated (seen : List ScoredCandidate) (c : ScoredCandidate) : Prop :=
  locality p localityOf c ≠ "_unknown" ∧ policy.diversity.maxSameLocality ≤
    seen.countP fun d => locality p localityOf d = locality p localityOf c

instance (seen : List ScoredCandidate) (c : ScoredCandidate) :
    Decidable (Saturated p policy localityOf seen c) := inferInstanceAs (Decidable (_ ∧ _))

/-- The score of the first of a list. -/
def next (rest : List ScoredCandidate) : Rat := (rest.head?.map (·.finalScore)).getD 0

/-- The first that is passed over, with those before it and those behind it: the next one is about as
good, and there is still a place on the shortlist. -/
def firstDeferred : List ScoredCandidate → List ScoredCandidate →
    Option (List ScoredCandidate × ScoredCandidate × List ScoredCandidate)
  | _, [] => none
  | seen, c :: rest =>
    if policy.thresholds.shortlistSize ≤ seen.length then none
    else if Saturated p policy localityOf seen c ∧
        c.finalScore - next rest ≤ policy.diversity.maxScoreSacrifice then some (seen, c, rest)
    else firstDeferred (seen ++ [c]) rest

/-- Those from places that have not given enough yet. -/
def welcome : List ScoredCandidate → List ScoredCandidate → List ScoredCandidate
  | _, [] => []
  | seen, c :: rest =>
    if Saturated p policy localityOf seen c then welcome (seen ++ [c]) rest
    else c :: welcome (seen ++ [c]) rest

/-- Those from places that have. -/
def passedOver : List ScoredCandidate → List ScoredCandidate → List ScoredCandidate
  | _, [] => []
  | seen, c :: rest =>
    if Saturated p policy localityOf seen c then c :: passedOver (seen ++ [c]) rest
    else passedOver (seen ++ [c]) rest

/-- **The best that is left out is about as good as the last that is taken in its stead.** -/
def Comparable (ordered : List ScoredCandidate) : Prop :=
  ∀ before c after, firstDeferred p policy localityOf [] ordered = some (before, c, after) →
    let places := policy.thresholds.shortlistSize - before.length
    let taken := welcome p policy localityOf (before ++ [c]) after
    ∀ left ∈ ((c :: passedOver p policy localityOf (before ++ [c]) after).drop
        (places - taken.length)).head?, ∀ last ∈ (taken.take places).getLast?,
      left.finalScore ≤ last.finalScore + policy.diversity.maxScoreSacrifice

section Loop

variable {p policy localityOf} {ordered seen rest : List ScoredCandidate} {s : Diversified}

/-- **Nobody is lost.** By induction on the candidates. -/
theorem foldl_perm : ∀ (rest : List ScoredCandidate) (s : Diversified),
    ((rest.foldl (Diversified.consider p policy localityOf ordered) s).chosen ++
        (rest.foldl (Diversified.consider p policy localityOf ordered) s).deferred).Perm
      (s.chosen ++ s.deferred ++ rest) := by
  intro rest
  induction rest with
  | nil => exact fun s => by simp
  | cons c rest ih =>
    intro s
    rw [List.foldl_cons]
    refine (ih _).trans ?_
    have hdefer : (s.chosen ++ (s.deferred ++ [c]) ++ rest).Perm
        (s.chosen ++ s.deferred ++ c :: rest) := by
      simp
    unfold Diversified.consider
    dsimp only
    split_ifs
    · exact hdefer
    · exact hdefer
    · have hmove : (s.chosen ++ [c] ++ s.deferred).Perm (s.chosen ++ s.deferred ++ [c]) := by
        rw [List.append_assoc, List.append_assoc]
        exact List.Perm.append_left _ List.perm_append_comm
      simpa using hmove.append_right rest

/-- The first of a sorted list is its best. -/
theorem max?_eq_next (h : rest.Pairwise fun a b => b.finalScore ≤ a.finalScore) :
    (rest.map (·.finalScore)).max?.getD 0 = next rest := by
  cases rest with
  | nil => rfl
  | cons c rest =>
    have hbest : ((c :: rest).map (·.finalScore)).max? = some c.finalScore := by
      refine List.max?_eq_some_iff.mpr ⟨List.mem_cons_self, fun x hx => ?_⟩
      obtain ⟨d, hd, rfl⟩ := List.mem_map.mp hx
      rcases List.mem_cons.mp hd with rfl | hd
      · exact le_rfl
      · exact (List.pairwise_cons.mp h).1 d hd
    rw [hbest]
    rfl

/-- As long as nobody was passed over, a candidate is compared with the next one. -/
theorem bestRemaining_eq_next {c : ScoredCandidate} (hnodup : (seen ++ c :: rest).Nodup)
    (hsorted : (seen ++ c :: rest).Pairwise fun a b => b.finalScore ≤ a.finalScore) :
    bestRemaining (seen ++ c :: rest) seen c = next rest := by
  obtain ⟨-, hrest, hapart⟩ := List.nodup_append.mp hnodup
  obtain ⟨hc, -⟩ := List.nodup_cons.mp hrest
  have hfilter : (seen ++ c :: rest).filter (fun d => d ∉ seen ∧ d ≠ c) = rest := by
    have hseen : seen.filter (fun d => d ∉ seen ∧ d ≠ c) = [] :=
      List.filter_eq_nil_iff.mpr fun d hd => by simp [hd]
    have hkept : rest.filter (fun d => d ∉ seen ∧ d ≠ c) = rest := by
      refine List.filter_eq_self.mpr fun d hd => ?_
      have hnot : d ∉ seen := fun hin => hapart d hin d (List.mem_cons_of_mem _ hd) rfl
      have hne : d ≠ c := fun heq => hc (heq ▸ hd)
      simp [hnot, hne]
    rw [List.filter_append, hseen, List.filter_cons_of_neg (by simp), hkept, List.nil_append]
  rw [bestRemaining, hfilter]
  exact max?_eq_next (List.pairwise_cons.mp (List.pairwise_append.mp hsorted).2.1).2

/-- And afterwards with one that is no worse. -/
theorem le_bestRemaining {c d : ScoredCandidate} (hd : d ∈ ordered) (hnot : d ∉ s.chosen)
    (hne : d ≠ c) : d.finalScore ≤ bestRemaining ordered s.chosen c := by
  have hmem : d.finalScore ∈ (ordered.filter fun d => d ∉ s.chosen ∧ d ≠ c).map (·.finalScore) :=
    List.mem_map_of_mem (List.mem_filter.mpr ⟨hd, by simp [hnot, hne]⟩)
  unfold bestRemaining
  cases hmax : ((ordered.filter fun d => d ∉ s.chosen ∧ d ≠ c).map (·.finalScore)).max? with
  | none => exact absurd (List.max?_eq_none_iff.mp hmax) (List.ne_nil_of_mem hmem)
  | some best => exact (List.max?_eq_some_iff.mp hmax).2 _ hmem

/-- The counts say which places have given enough. -/
def Tallied (p : Platform) (policy : RankingPolicy) (localityOf : String → Option String)
    (counts : String → Nat) (seen : List ScoredCandidate) : Prop :=
  ∀ place, place ≠ "_unknown" →
    counts place = seen.countP (fun d => locality p localityOf d = place) ∨
      (policy.diversity.maxSameLocality ≤ counts place ∧
        policy.diversity.maxSameLocality ≤ seen.countP fun d => locality p localityOf d = place)

theorem Tallied.saturated_iff {counts : String → Nat} {c : ScoredCandidate}
    (h : Tallied p policy localityOf counts seen) :
    Saturated p policy localityOf seen c ↔ locality p localityOf c ≠ "_unknown" ∧
      policy.diversity.maxSameLocality ≤ counts (locality p localityOf c) := by
  refine and_congr_right fun hknown => ?_
  rcases h _ hknown with heq | ⟨hcounts, hseen⟩
  · rw [heq]
  · exact iff_of_true hseen hcounts

/-- One that is chosen is counted. -/
theorem Tallied.choose {counts : String → Nat} {c : ScoredCandidate}
    (h : Tallied p policy localityOf counts seen) :
    Tallied p policy localityOf (Function.update counts (locality p localityOf c)
      (counts (locality p localityOf c) + 1)) (seen ++ [c]) := by
  intro place hknown
  rw [List.countP_append, List.countP_singleton]
  by_cases hplace : locality p localityOf c = place
  · subst hplace
    rw [Function.update_self, if_pos (by simp)]
    rcases h _ hknown with heq | ⟨hcounts, hseen⟩
    · exact .inl (by rw [heq])
    · exact .inr ⟨by omega, by omega⟩
  · rw [Function.update_of_ne (Ne.symm hplace), if_neg (by simpa using hplace), Nat.add_zero]
    exact h place hknown

/-- One that is passed over need not be. -/
theorem Tallied.pass {counts : String → Nat} {c : ScoredCandidate}
    (h : Tallied p policy localityOf counts seen) (hc : Saturated p policy localityOf seen c) :
    Tallied p policy localityOf counts (seen ++ [c]) := by
  intro place hknown
  rw [List.countP_append, List.countP_singleton]
  by_cases hplace : locality p localityOf c = place
  · subst hplace
    have hcounts := (h.saturated_iff.mp hc).2
    have hseen := hc.2
    rw [if_pos (by simp)]
    exact .inr ⟨hcounts, by omega⟩
  · rw [if_neg (by simpa using hplace), Nat.add_zero]
    exact h place hknown

/-- A full shortlist stays as it is. -/
theorem foldl_full : ∀ (rest : List ScoredCandidate) (s : Diversified),
    policy.thresholds.shortlistSize ≤ s.chosen.length →
      (rest.foldl (Diversified.consider p policy localityOf ordered) s).chosen = s.chosen ∧
        (rest.foldl (Diversified.consider p policy localityOf ordered) s).deferred
          = s.deferred ++ rest := by
  intro rest
  induction rest with
  | nil => exact fun s _ => by simp
  | cons c rest ih =>
    intro s hfull
    have hstep : s.consider p policy localityOf ordered c =
        { s with deferred := s.deferred ++ [c] } := if_pos hfull
    rw [List.foldl_cons, hstep]
    obtain ⟨hchosen, hdeferred⟩ := ih { s with deferred := s.deferred ++ [c] } hfull
    exact ⟨hchosen, by rw [hdeferred, List.append_assoc, List.singleton_append]⟩

/-- Where nobody is welcome, all are passed over. -/
theorem passedOver_eq_self : ∀ (rest seen : List ScoredCandidate),
    welcome p policy localityOf seen rest = [] → passedOver p policy localityOf seen rest = rest := by
  intro rest
  induction rest with
  | nil => exact fun _ _ => rfl
  | cons c rest ih =>
    intro seen h
    rw [welcome] at h
    rw [passedOver]
    split_ifs at h ⊢ with hsaturated
    rw [ih _ h]

/-- **Once one is passed over**, all are from places that have given enough. By induction on the
candidates. -/
theorem foldl_late {first : ScoredCandidate} (hfirst : first ∈ ordered) :
    ∀ (rest seen : List ScoredCandidate) (s : Diversified),
      Tallied p policy localityOf s.counts seen → first ∉ s.chosen → first ∉ rest →
      (∀ c ∈ rest, c.finalScore ≤ first.finalScore) →
      (rest.foldl (Diversified.consider p policy localityOf ordered) s).chosen
          = s.chosen ++ (welcome p policy localityOf seen rest).take
            (policy.thresholds.shortlistSize - s.chosen.length) ∧
        ((welcome p policy localityOf seen rest).length
            ≤ policy.thresholds.shortlistSize - s.chosen.length →
          (rest.foldl (Diversified.consider p policy localityOf ordered) s).deferred
            = s.deferred ++ passedOver p policy localityOf seen rest) := by
  intro rest
  induction rest with
  | nil => exact fun seen s _ _ _ _ => ⟨by simp [welcome], fun _ => by simp [passedOver]⟩
  | cons c rest ih =>
    intro seen s htallied hnot hrest hbest
    by_cases hfull : policy.thresholds.shortlistSize ≤ s.chosen.length
    · obtain ⟨hchosen, hdeferred⟩ := @foldl_full p policy localityOf ordered (c :: rest) s hfull
      have hplaces : policy.thresholds.shortlistSize - s.chosen.length = 0 := by omega
      rw [hchosen, hdeferred, hplaces]
      refine ⟨by simp, fun hnone => ?_⟩
      rw [passedOver_eq_self _ _ (List.length_eq_zero_iff.mp (Nat.le_zero.mp hnone))]
    obtain ⟨hc, hbest⟩ := List.forall_mem_cons.mp hbest
    have hne : first ≠ c := fun heq => hrest (heq ▸ List.mem_cons_self)
    have hrest : first ∉ rest := fun hin => hrest (List.mem_cons_of_mem _ hin)
    rw [List.foldl_cons, welcome, passedOver]
    by_cases hsaturated : Saturated p policy localityOf seen c
    · -- the one that was passed over first is as good, so this one is passed over too
      obtain ⟨hknown, hcounts⟩ := htallied.saturated_iff.mp hsaturated
      have hclose : c.finalScore - bestRemaining ordered s.chosen c
          ≤ policy.diversity.maxScoreSacrifice := by
        have hle := le_bestRemaining hfirst hnot hne
        have hsacrifice := policy.diversity.maxScoreSacrifice_mem.1
        linarith
      have hstep : s.consider p policy localityOf ordered c =
          { s with deferred := s.deferred ++ [c] } := by
        rw [Diversified.consider, if_neg hfull]
        exact if_pos ⟨hknown, hcounts, hclose⟩
      obtain ⟨hchosen, hdeferred⟩ := ih (seen ++ [c]) { s with deferred := s.deferred ++ [c] }
        (htallied.pass hsaturated) hnot hrest hbest
      rw [hstep, if_pos hsaturated, if_pos hsaturated]
      refine ⟨hchosen, fun hroom => ?_⟩
      rw [hdeferred hroom, List.append_assoc, List.singleton_append]
    · have hstep : s.consider p policy localityOf ordered c =
          { s with
            chosen := s.chosen ++ [c]
            counts := Function.update s.counts (locality p localityOf c)
              (s.counts (locality p localityOf c) + 1) } := by
        rw [Diversified.consider, if_neg hfull]
        refine if_neg fun hpassed => hsaturated ?_
        exact htallied.saturated_iff.mpr ⟨hpassed.1, hpassed.2.1⟩
      have hnot' : first ∉ s.chosen ++ [c] := by simp [hnot, hne]
      obtain ⟨hchosen, hdeferred⟩ := ih (seen ++ [c])
        { s with
          chosen := s.chosen ++ [c]
          counts := Function.update s.counts (locality p localityOf c)
            (s.counts (locality p localityOf c) + 1) } htallied.choose hnot' hrest hbest
      rw [hstep, if_neg hsaturated, if_neg hsaturated]
      have hplaces : policy.thresholds.shortlistSize - s.chosen.length =
          policy.thresholds.shortlistSize - (s.chosen ++ [c]).length + 1 := by
        rw [List.length_append, List.length_singleton]
        omega
      refine ⟨?_, fun hroom => hdeferred ?_⟩
      · rw [hchosen, hplaces, List.take_succ_cons, List.append_assoc, List.singleton_append]
      · rw [List.length_cons, hplaces] at hroom
        exact Nat.le_of_succ_le_succ hroom

/-- **Until one is passed over**, all are chosen. By induction on the candidates. -/
theorem foldl_early : ∀ (rest seen : List ScoredCandidate) (counts : String → Nat),
    ordered = seen ++ rest → ordered.Nodup →
    (ordered.Pairwise fun a b => b.finalScore ≤ a.finalScore) →
    Tallied p policy localityOf counts seen → seen.length ≤ policy.thresholds.shortlistSize →
      (firstDeferred p policy localityOf seen rest = none →
        (rest.foldl (Diversified.consider p policy localityOf ordered)
            { chosen := seen, counts }).chosen = ordered.take policy.thresholds.shortlistSize) ∧
      ∀ before c after, firstDeferred p policy localityOf seen rest = some (before, c, after) →
        ordered = before ++ c :: after ∧ before.length < policy.thresholds.shortlistSize ∧
          ∃ counts', Tallied p policy localityOf counts' (before ++ [c]) ∧
            rest.foldl (Diversified.consider p policy localityOf ordered)
                { chosen := seen, counts }
              = after.foldl (Diversified.consider p policy localityOf ordered)
                { chosen := before, deferred := [c], counts := counts' } := by
  intro rest
  induction rest with
  | nil =>
    intro seen counts hordered _ _ _ hroom
    rw [List.append_nil] at hordered
    refine ⟨fun _ => ?_, nofun⟩
    rw [hordered, List.take_of_length_le hroom]
    rfl
  | cons c rest ih =>
    intro seen counts hordered hnodup hsorted htallied hroom
    rw [firstDeferred]
    by_cases hfull : policy.thresholds.shortlistSize ≤ seen.length
    · rw [if_pos hfull]
      refine ⟨fun _ => ?_, nofun⟩
      have hchosen := (@foldl_full p policy localityOf ordered (c :: rest)
        { chosen := seen, counts } hfull).1
      rw [hchosen, hordered, List.take_append_of_le_length hfull, List.take_of_length_le hroom]
    have hbest : bestRemaining ordered seen c = next rest := by
      rw [hordered]
      rw [hordered] at hnodup hsorted
      exact bestRemaining_eq_next hnodup hsorted
    rw [if_neg hfull, List.foldl_cons]
    by_cases hpassed : Saturated p policy localityOf seen c ∧
        c.finalScore - next rest ≤ policy.diversity.maxScoreSacrifice
    · rw [if_pos hpassed]
      refine ⟨nofun, fun before c' after heq => ?_⟩
      obtain ⟨rfl, rfl, rfl⟩ : seen = before ∧ c = c' ∧ rest = after := by
        simpa using heq
      obtain ⟨hknown, hcounts⟩ := htallied.saturated_iff.mp hpassed.1
      refine ⟨hordered, by omega, counts, htallied.pass hpassed.1, ?_⟩
      congr 1
      rw [Diversified.consider, if_neg hfull]
      exact if_pos ⟨hknown, hcounts, hbest ▸ hpassed.2⟩
    · rw [if_neg hpassed]
      have hstep : Diversified.consider p policy localityOf ordered { chosen := seen, counts } c =
          { chosen := seen ++ [c]
            counts := Function.update counts (locality p localityOf c)
              (counts (locality p localityOf c) + 1) } := by
        rw [Diversified.consider, if_neg hfull]
        refine if_neg fun hnot => hpassed ⟨htallied.saturated_iff.mpr ⟨hnot.1, hnot.2.1⟩, ?_⟩
        exact hbest ▸ hnot.2.2
      rw [hstep]
      refine ih (seen ++ [c]) _ ?_ hnodup hsorted htallied.choose ?_
      · rw [hordered, List.append_assoc, List.singleton_append]
      · rw [List.length_append, List.length_singleton]
        omega

theorem tallied_nil : Tallied p policy localityOf (fun _ => 0) [] := fun _ _ => .inl rfl

/-- Those who are welcome and those who are not. -/
theorem welcome_perm : ∀ (rest seen : List ScoredCandidate),
    (welcome p policy localityOf seen rest ++ passedOver p policy localityOf seen rest).Perm
      rest := by
  intro rest
  induction rest with
  | nil => exact fun _ => List.Perm.nil
  | cons c rest ih =>
    intro seen
    rw [welcome, passedOver]
    split_ifs
    · exact List.perm_middle.trans ((ih _).cons c)
    · exact (ih _).cons c

theorem welcome_sublist : ∀ (rest seen : List ScoredCandidate),
    (welcome p policy localityOf seen rest).Sublist rest := by
  intro rest
  induction rest with
  | nil => exact fun _ => List.Sublist.slnil
  | cons c rest ih =>
    intro seen
    rw [welcome]
    split_ifs
    · exact (ih _).cons c
    · exact (ih _).cons_cons c

theorem passedOver_sublist : ∀ (rest seen : List ScoredCandidate),
    (passedOver p policy localityOf seen rest).Sublist rest := by
  intro rest
  induction rest with
  | nil => exact fun _ => List.Sublist.slnil
  | cons c rest ih =>
    intro seen
    rw [passedOver]
    split_ifs
    · exact (ih _).cons_cons c
    · exact (ih _).cons c

/-- **The shortlist**, if nobody is passed over. -/
theorem shortlisted_of_none (hnodup : ordered.Nodup)
    (hsorted : ordered.Pairwise fun a b => b.finalScore ≤ a.finalScore)
    (h : firstDeferred p policy localityOf [] ordered = none) :
    shortlisted p policy localityOf ordered = ordered.take policy.thresholds.shortlistSize := by
  have hchosen := (@foldl_early p policy localityOf ordered ordered [] _ rfl hnodup hsorted
    tallied_nil (Nat.zero_le _)).1 h
  have hperm := (@foldl_perm p policy localityOf ordered ordered {}).length_eq
  unfold shortlisted
  dsimp only
  rw [hchosen] at hperm ⊢
  simp only [List.length_append, List.length_take, List.length_nil, Nat.zero_add] at hperm ⊢
  by_cases hfew : ordered.length ≤ policy.thresholds.shortlistSize
  · have hnone : (ordered.foldl (Diversified.consider p policy localityOf ordered) {}).deferred = [] :=
      List.length_eq_zero_iff.mp (by omega)
    rw [hnone, List.take_nil, List.append_nil]
  · have hzero : policy.thresholds.shortlistSize -
        min policy.thresholds.shortlistSize ordered.length = 0 := by omega
    rw [hzero, List.take_zero, List.append_nil]

/-- **The shortlist**, if somebody is: those before, those who are welcome, and at last the others. -/
theorem shortlisted_of_some {before after : List ScoredCandidate} {c : ScoredCandidate}
    (hnodup : ordered.Nodup)
    (hsorted : ordered.Pairwise fun a b => b.finalScore ≤ a.finalScore)
    (h : firstDeferred p policy localityOf [] ordered = some (before, c, after)) :
    ordered = before ++ c :: after ∧ before.length < policy.thresholds.shortlistSize ∧
      shortlisted p policy localityOf ordered
        = before ++ ((welcome p policy localityOf (before ++ [c]) after).take
            (policy.thresholds.shortlistSize - before.length) ++
          (c :: passedOver p policy localityOf (before ++ [c]) after).take
            (policy.thresholds.shortlistSize - before.length -
              (welcome p policy localityOf (before ++ [c]) after).length)) := by
  obtain ⟨hordered, hroom, counts, htallied, hfold⟩ :=
    (@foldl_early p policy localityOf ordered ordered [] _ rfl hnodup hsorted
      tallied_nil (Nat.zero_le _)).2 before c after h
  refine ⟨hordered, hroom, ?_⟩
  have hparts := hordered ▸ hnodup
  obtain ⟨-, hrest, hapart⟩ := List.nodup_append.mp hparts
  have hbest : ∀ d ∈ after, d.finalScore ≤ c.finalScore :=
    (List.pairwise_cons.mp (List.pairwise_append.mp (hordered ▸ hsorted)).2.1).1
  have hmem : c ∈ ordered := hordered ▸ List.mem_append_right _ List.mem_cons_self
  obtain ⟨hchosen, hdeferred⟩ := foldl_late hmem after (before ++ [c])
    { chosen := before, deferred := [c], counts := counts } htallied
    (fun hin => hapart c hin c List.mem_cons_self rfl) (List.nodup_cons.mp hrest).1 hbest
  unfold shortlisted
  dsimp only
  rw [hfold, hchosen]
  simp only [List.length_append, List.length_take]
  by_cases hfew : (welcome p policy localityOf (before ++ [c]) after).length
      ≤ policy.thresholds.shortlistSize - before.length
  · have hplaces : policy.thresholds.shortlistSize - (before.length +
        min (policy.thresholds.shortlistSize - before.length)
          (welcome p policy localityOf (before ++ [c]) after).length)
        = policy.thresholds.shortlistSize - before.length -
          (welcome p policy localityOf (before ++ [c]) after).length := by omega
    rw [hdeferred hfew, hplaces, List.append_assoc, List.singleton_append]
  · have hzero : policy.thresholds.shortlistSize - (before.length +
        min (policy.thresholds.shortlistSize - before.length)
          (welcome p policy localityOf (before ++ [c]) after).length) = 0 := by omega
    have hzero' : policy.thresholds.shortlistSize - before.length -
        (welcome p policy localityOf (before ++ [c]) after).length = 0 := by omega
    rw [hzero, hzero', List.take_zero, List.take_zero, List.append_nil, List.append_nil]

/-- The shortlist is full, if there are candidates enough. -/
theorem length_shortlisted (hnodup : ordered.Nodup)
    (hsorted : ordered.Pairwise fun a b => b.finalScore ≤ a.finalScore) :
    (shortlisted p policy localityOf ordered).length
      = min policy.thresholds.shortlistSize ordered.length := by
  cases h : firstDeferred p policy localityOf [] ordered with
  | none => rw [shortlisted_of_none hnodup hsorted h, List.length_take]
  | some found =>
    obtain ⟨before, c, after⟩ := found
    obtain ⟨hordered, hroom, hshort⟩ := shortlisted_of_some hnodup hsorted h
    have hlength := (@welcome_perm p policy localityOf after (before ++ [c])).length_eq
    have hall := congrArg List.length hordered
    rw [hshort]
    simp only [List.length_append, List.length_take, List.length_cons] at hlength hall ⊢
    omega

theorem shortlisted_nodup (hnodup : ordered.Nodup) :
    (shortlisted p policy localityOf ordered).Nodup ∧
      ∀ c ∈ shortlisted p policy localityOf ordered, c ∈ ordered := by
  have hperm := @foldl_perm p policy localityOf ordered ordered {}
  have hsub : (shortlisted p policy localityOf ordered).Sublist
      ((ordered.foldl (Diversified.consider p policy localityOf ordered) {}).chosen ++
        (ordered.foldl (Diversified.consider p policy localityOf ordered) {}).deferred) :=
    (List.Sublist.refl _).append (List.take_sublist _ _)
  have hall : ((ordered.foldl (Diversified.consider p policy localityOf ordered) {}).chosen ++
      (ordered.foldl (Diversified.consider p policy localityOf ordered) {}).deferred).Perm
        ordered := by
    simpa using hperm
  exact ⟨hsub.nodup (hall.nodup_iff.mpr hnodup), fun c hc => hall.mem_iff.mp (hsub.subset hc)⟩

/-! ## The ranking -/

/-- The shortlist comes first, and everybody is there. -/
theorem diversify_perm (hnodup : ordered.Nodup) :
    (diversify p policy localityOf ordered).Perm ordered := by
  obtain ⟨hshort, hsub⟩ := @shortlisted_nodup p policy localityOf ordered hnodup
  have hsort := List.perm_insertionSort RankedBehind
    (ordered.filter (· ∉ shortlisted p policy localityOf ordered))
  refine (List.Perm.append_left _ hsort).trans ?_
  refine (List.perm_ext_iff_of_nodup ?_ hnodup).mpr fun c => ?_
  · refine List.nodup_append.mpr ⟨hshort, hnodup.filter _, fun c hc d hd heq => ?_⟩
    have hnot := (List.mem_filter.mp hd).2
    rw [← heq] at hnot
    exact (of_decide_eq_true hnot) hc
  · rw [List.mem_append, List.mem_filter]
    constructor
    · rintro (hc | ⟨hc, -⟩)
      · exact hsub c hc
      · exact hc
    · intro hc
      by_cases hin : c ∈ shortlisted p policy localityOf ordered
      · exact .inl hin
      · exact .inr ⟨hc, by simpa using hin⟩

/-- The first places are the shortlist. -/
theorem take_diversify (hnodup : ordered.Nodup)
    (hsorted : ordered.Pairwise fun a b => b.finalScore ≤ a.finalScore) :
    (diversify p policy localityOf ordered).take policy.thresholds.shortlistSize
        = shortlisted p policy localityOf ordered ∧
      (diversify p policy localityOf ordered).drop policy.thresholds.shortlistSize
        = (ordered.filter (· ∉ shortlisted p policy localityOf ordered)).insertionSort
          RankedBehind := by
  have hlength := @length_shortlisted p policy localityOf ordered hnodup hsorted
  have hperm := (@diversify_perm p policy localityOf ordered hnodup).length_eq
  unfold diversify at hperm ⊢
  dsimp only at hperm ⊢
  rw [List.length_append] at hperm
  by_cases hmany : policy.thresholds.shortlistSize ≤ ordered.length
  · rw [min_eq_left hmany] at hlength
    exact ⟨List.take_left' hlength, List.drop_left' hlength⟩
  · have hnone : (ordered.filter (· ∉ shortlisted p policy localityOf ordered)).insertionSort
        RankedBehind = [] := List.length_eq_zero_iff.mp (by omega)
    rw [hnone, List.append_nil]
    exact ⟨List.take_of_length_le (by omega), List.drop_of_length_le (by omega)⟩

/-- **No quality is traded for variety**: nobody behind the shortlist is better by more than may be
sacrificed than somebody on it. -/
def Bounded (policy : RankingPolicy) (ranked : List ScoredCandidate) : Prop :=
  ∀ inside ∈ ranked.take policy.thresholds.shortlistSize,
    ∀ outside ∈ ranked.drop policy.thresholds.shortlistSize,
      outside.finalScore ≤ inside.finalScore + policy.diversity.maxScoreSacrifice

/-- A list in order of the scores is bounded. -/
theorem bounded_of_sorted (hsorted : ordered.Pairwise fun a b => b.finalScore ≤ a.finalScore) :
    Bounded policy ordered := by
  intro inside hin outside hout
  have hsplit := List.take_append_drop policy.thresholds.shortlistSize ordered
  rw [← hsplit, List.pairwise_append] at hsorted
  have hle := hsorted.2.2 inside hin outside hout
  have hsacrifice := policy.diversity.maxScoreSacrifice_mem.1
  linarith

theorem bounded_diversify_iff (hnodup : ordered.Nodup)
    (hsorted : ordered.Pairwise fun a b => b.finalScore ≤ a.finalScore) :
    Bounded policy (diversify p policy localityOf ordered) ↔
      ∀ inside ∈ shortlisted p policy localityOf ordered, ∀ outside ∈ ordered,
        outside ∉ shortlisted p policy localityOf ordered →
          outside.finalScore ≤ inside.finalScore + policy.diversity.maxScoreSacrifice := by
  obtain ⟨htake, hdrop⟩ := @take_diversify p policy localityOf ordered hnodup hsorted
  unfold Bounded
  rw [htake, hdrop]
  refine forall₂_congr fun inside _ => ?_
  simp only [List.mem_insertionSort, List.mem_filter, decide_eq_true_eq, and_imp]

/-- The first of a sorted list is as good as any. -/
theorem exists_head?_ge {l : List ScoredCandidate} {c : ScoredCandidate}
    (h : l.Pairwise fun a b => b.finalScore ≤ a.finalScore) (hc : c ∈ l) :
    ∃ first ∈ l.head?, c.finalScore ≤ first.finalScore := by
  cases l with
  | nil => cases hc
  | cons first rest =>
    refine ⟨first, rfl, ?_⟩
    rcases List.mem_cons.mp hc with rfl | hc
    · exact le_rfl
    · exact (List.pairwise_cons.mp h).1 c hc

/-- And the last is no better. -/
theorem exists_getLast?_le {l : List ScoredCandidate} {c : ScoredCandidate}
    (h : l.Pairwise fun a b => b.finalScore ≤ a.finalScore) (hc : c ∈ l) :
    ∃ last ∈ l.getLast?, last.finalScore ≤ c.finalScore := by
  obtain ⟨init, last, rfl⟩ := List.eq_nil_or_concat' l |>.resolve_left (List.ne_nil_of_mem hc)
  refine ⟨last, List.getLast?_concat, ?_⟩
  rcases List.mem_append.mp hc with hc | hc
  · exact (List.pairwise_append.mp h).2.2 c hc last (List.mem_singleton_self _)
  · rw [List.mem_singleton.mp hc]

/-- **Two candidates decide.** -/
theorem bounded_iff_comparable (hnodup : ordered.Nodup)
    (hsorted : ordered.Pairwise fun a b => b.finalScore ≤ a.finalScore) :
    Bounded policy (diversify p policy localityOf ordered) ↔
      Comparable p policy localityOf ordered := by
  rw [bounded_diversify_iff hnodup hsorted]
  have hsacrifice := policy.diversity.maxScoreSacrifice_mem.1
  cases h : firstDeferred p policy localityOf [] ordered with
  | none =>
    refine iff_of_true ?_ fun before c after heq => by rw [h] at heq; cases heq
    rw [shortlisted_of_none hnodup hsorted h]
    intro inside hin outside hout hnot
    refine bounded_of_sorted hsorted inside hin outside ?_
    have hsplit := List.take_append_drop policy.thresholds.shortlistSize ordered
    rw [← hsplit, List.mem_append] at hout
    exact hout.resolve_left hnot
  | some found =>
    obtain ⟨before, c, after⟩ := found
    obtain ⟨hordered, -, hshort⟩ := shortlisted_of_some hnodup hsorted h
    have hparts := hordered ▸ hnodup
    obtain ⟨-, hrest, hapart⟩ := List.nodup_append.mp hparts
    obtain ⟨-, hsortedRest, hbefore⟩ := List.pairwise_append.mp (hordered ▸ hsorted)
    have hwelcome := @welcome_perm p policy localityOf after (before ++ [c])
    have htaken : (welcome p policy localityOf (before ++ [c]) after).Pairwise
        fun a b => b.finalScore ≤ a.finalScore :=
      (List.pairwise_cons.mp hsortedRest).2.sublist (welcome_sublist _ _)
    have hleft : (c :: passedOver p policy localityOf (before ++ [c]) after).Pairwise
        fun a b => b.finalScore ≤ a.finalScore :=
      hsortedRest.sublist ((passedOver_sublist _ _).cons_cons c)
    have hboth : (welcome p policy localityOf (before ++ [c]) after ++
        c :: passedOver p policy localityOf (before ++ [c]) after).Perm (c :: after) :=
      List.perm_middle.trans (hwelcome.cons c)
    obtain ⟨-, hleftNodup, hdisjoint⟩ := List.nodup_append.mp (hboth.nodup_iff.mpr hrest)
    have hmem : ∀ x, x ∈ ordered ↔ x ∈ before ∨
        x ∈ welcome p policy localityOf (before ++ [c]) after ∨
        x ∈ c :: passedOver p policy localityOf (before ++ [c]) after := fun x => by
      rw [hordered, List.mem_append, ← hboth.mem_iff, List.mem_append]
    rw [hshort]
    constructor
    · intro hbounded before' c' after' heq
      obtain ⟨rfl, rfl, rfl⟩ : before = before' ∧ c = c' ∧ after = after' := by
        rw [h] at heq
        simpa using heq
      intro places taken left hleftMem last hlastMem
      have hdrop := List.mem_of_mem_head? hleftMem
      have hlastIn := List.mem_of_getLast? hlastMem
      have hleftIn := List.mem_of_mem_drop hdrop
      refine hbounded last ?_ left ((hmem left).mpr (.inr (.inr hleftIn))) ?_
      · exact List.mem_append_right _ (List.mem_append_left _ hlastIn)
      · intro hin
        rcases List.mem_append.mp hin with hin | hin
        · exact hapart left hin left (hboth.mem_iff.mp (List.mem_append_right _ hleftIn)) rfl
        rcases List.mem_append.mp hin with hin | hin
        · exact hdisjoint left (List.mem_of_mem_take hin) left hleftIn rfl
        · exact List.disjoint_take_drop hleftNodup le_rfl hin hdrop
    · intro hcomparable inside hin outside hout hnot
      -- the two candidates that decide stand between the one inside and the one outside
      have hcompare := hcomparable before c after h
      have hbehind : outside ∉ before := fun hb => hnot (List.mem_append_left _ hb)
      have hout := ((hmem outside).mp hout).resolve_left hbehind
      have houtRest : outside ∈ c :: after :=
        hboth.mem_iff.mp (List.mem_append.mpr hout)
      have hnotTaken : outside ∈ welcome p policy localityOf (before ++ [c]) after →
          outside ∈ (welcome p policy localityOf (before ++ [c]) after).drop
            (policy.thresholds.shortlistSize - before.length) := by
        intro hw
        rw [← List.take_append_drop (policy.thresholds.shortlistSize - before.length)
          (welcome p policy localityOf (before ++ [c]) after), List.mem_append] at hw
        exact hw.resolve_left fun hw =>
          hnot (List.mem_append_right _ (List.mem_append_left _ hw))
      have hnotLeft : outside ∈ c :: passedOver p policy localityOf (before ++ [c]) after →
          outside ∈ (c :: passedOver p policy localityOf (before ++ [c]) after).drop
            (policy.thresholds.shortlistSize - before.length -
              (welcome p policy localityOf (before ++ [c]) after).length) := by
        intro hw
        rw [← List.take_append_drop (policy.thresholds.shortlistSize - before.length -
          (welcome p policy localityOf (before ++ [c]) after).length)
          (c :: passedOver p policy localityOf (before ++ [c]) after), List.mem_append] at hw
        exact hw.resolve_left fun hw =>
          hnot (List.mem_append_right _ (List.mem_append_right _ hw))
      rcases List.mem_append.mp hin with hin | hin
      · have hle := hbefore inside hin outside houtRest
        linarith
      rcases List.mem_append.mp hin with hin | hin
      · rcases hout with hout | hout
        · have hle : outside.finalScore ≤ inside.finalScore := by
            rw [← List.take_append_drop (policy.thresholds.shortlistSize - before.length)
              (welcome p policy localityOf (before ++ [c]) after), List.pairwise_append] at htaken
            exact htaken.2.2 inside hin outside (hnotTaken hout)
          linarith
        · obtain ⟨left, hleftMem, hle⟩ := exists_head?_ge (hleft.sublist (List.drop_sublist _ _))
            (hnotLeft hout)
          obtain ⟨last, hlastMem, hge⟩ := exists_getLast?_le
            (htaken.sublist (List.take_sublist _ _)) hin
          have hclose := hcompare left hleftMem last hlastMem
          linarith
      · rcases hout with hout | hout
        · have hroom : 0 < policy.thresholds.shortlistSize - before.length -
              (welcome p policy localityOf (before ++ [c]) after).length :=
            Nat.pos_of_ne_zero fun hzero => by
              rw [hzero, List.take_zero] at hin
              cases hin
          have hnone : (welcome p policy localityOf (before ++ [c]) after).drop
              (policy.thresholds.shortlistSize - before.length) = [] :=
            List.drop_of_length_le (by omega)
          have hdropped := hnotTaken hout
          rw [hnone] at hdropped
          cases hdropped
        · have hle : outside.finalScore ≤ inside.finalScore := by
            rw [← List.take_append_drop (policy.thresholds.shortlistSize - before.length -
              (welcome p policy localityOf (before ++ [c]) after).length)
              (c :: passedOver p policy localityOf (before ++ [c]) after),
              List.pairwise_append] at hleft
            exact hleft.2.2 inside hin outside (hnotLeft hout)
          linarith

end Loop

section Rank

variable {p policy localityOf} {candidates : List ScoredCandidate}

/-- Of distinct tutors, no two rank the same. -/
theorem ranked_antisymm (hids : (candidates.map (·.tutorId)).Nodup) :
    ∀ a ∈ candidates, ∀ b ∈ candidates, Ranked a b → Ranked b a → a = b := fun _ ha _ hb h h' =>
  List.inj_on_of_nodup_map hids ha hb (h.tutorId_eq h')

theorem sorted_ordered : (candidates.insertionSort Ranked).Pairwise
    fun a b => b.finalScore ≤ a.finalScore :=
  (List.pairwise_insertionSort Ranked candidates).imp Ranked.score_le

theorem ordered_nodup (hids : (candidates.map (·.tutorId)).Nodup) :
    (candidates.insertionSort Ranked).Nodup :=
  (List.perm_insertionSort Ranked candidates).nodup_iff.mpr (List.Nodup.of_map _ hids)

theorem rank_perm (hids : (candidates.map (·.tutorId)).Nodup) :
    (rank p policy localityOf candidates).Perm candidates := by
  unfold rank
  dsimp only
  split_ifs
  · exact (diversify_perm (ordered_nodup hids)).trans (List.perm_insertionSort _ _)
  · exact List.perm_insertionSort _ _

/-- **The order of the input does not matter.** -/
theorem rank_eq_of_perm {others : List ScoredCandidate}
    (hids : (candidates.map (·.tutorId)).Nodup) (h : others.Perm candidates) :
    rank p policy localityOf others = rank p policy localityOf candidates := by
  have hordered : others.insertionSort Ranked = candidates.insertionSort Ranked :=
    Store.eq_insertionSort (ranked_antisymm hids) (List.pairwise_insertionSort _ _)
      ((List.perm_insertionSort _ _).trans h)
  unfold rank
  rw [hordered]

theorem bounded_rank_iff (hids : (candidates.map (·.tutorId)).Nodup) :
    Bounded policy (rank p policy localityOf candidates) ↔
      (policy.diversity.enabled = true →
        Comparable p policy localityOf (candidates.insertionSort Ranked)) := by
  unfold rank
  dsimp only
  split_ifs with henabled
  · rw [bounded_iff_comparable (ordered_nodup hids) sorted_ordered]
    exact ⟨fun h _ => h, fun h => h henabled⟩
  · exact iff_of_true (bounded_of_sorted sorted_ordered) fun h => absurd h henabled

theorem rank_sorted (h : policy.diversity.enabled = false) :
    (rank p policy localityOf candidates).Pairwise fun a b => b.finalScore ≤ a.finalScore := by
  unfold rank
  dsimp only
  rw [h]
  exact sorted_ordered

/-- Those that reach the bar, as many as there is room for. -/
theorem shortlistCutoff_spec {ranked : List ScoredCandidate} (h : ranked.Perm candidates) :
    (shortlistCutoff policy ranked).length = min policy.thresholds.shortlistSize
        (candidates.countP (policy.thresholds.minFinalScore ≤ ·.finalScore)) ∧
      ∀ c ∈ shortlistCutoff policy ranked, policy.thresholds.minFinalScore ≤ c.finalScore := by
  constructor
  · rw [shortlistCutoff, List.length_take, ← List.countP_eq_length_filter, h.countP_eq]
  · intro c hc
    exact of_decide_eq_true (List.mem_filter.mp (List.mem_of_mem_take hc)).2

end Rank

end Diversify

theorem half_mem : (0 : Rat) ≤ 1 / 2 ∧ (1 / 2 : Rat) ≤ 1 := by decide +kernel

/-- Two places, one of them for a locality, and a tenth that may be sacrificed. -/
def twoPlaces : RankingPolicy where
  weights := DIMENSIONS.map fun d => (d, 1 / 8)
  thresholds :=
    { toThresholds := ⟨1 / 2, half_mem⟩
      minFinalScore := 1 / 2
      shortlistSize := 2
      minWeightCoverage := 0
      minDimensionConfidence := 0
      minFinalScore_mem := half_mem
      shortlistSize_mem := by decide
      minWeightCoverage_mem := by decide +kernel
      minDimensionConfidence_mem := by decide +kernel }
  diversity := ⟨true, 1, 1 / 10, by decide, by decide +kernel⟩
  keys_nodup := by decide
  complete := by
    intro d
    cases d <;> decide
  total := by decide +kernel
  nonneg := by decide +kernel

/-- A candidate of some score. -/
def scoring (tutorId : String) (finalScore : Rat) : ScoredCandidate where
  tutorId
  publicRef := ""
  pseudonym := ""
  scores _ := none
  finalScore
  weightCoverage := 1
  confidence := 1
  freshness := .fresh
  flags := []

/-- All from Noida but for the last. -/
def noida (tutorId : String) : Option String := if tutorId = "t4" then some "Rohini" else some "Noida"

def fourTutors : List ScoredCandidate :=
  [scoring "t1" 1, scoring "t2" (9 / 10), scoring "t3" (85 / 100), scoring "t4" (1 / 2)]

end NxTutors.Matching.Scoring
