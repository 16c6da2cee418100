import NxTutors.Matching.SentenceParts

/-!
# What is approved

Of each kind one claim is proposed at most, so what is approved of a kind is that claim or nothing.
For what is not chosen here this says what is told, from the scores: the class, the subject and the
place. The class comes before the subject, which is left out where there is room for one reason
only.
-/

namespace NxTutors.Matching

open Text MatchAgent

/-! ## What is approved of a kind -/

section Approved

variable {p : Platform} {m : Measures} {policy : ScoringPolicy} {t : TutorCandidate}
  {candidate : ScoredCandidate} {scores : Dimension → Option SkillScore} {r : MatchRequirement}
  {label : Option String} {claim : Claim} {kind : ClaimKind}

/-- The claim of a kind. -/
def claimOf (t : TutorCandidate) (scores : Dimension → Option SkillScore) (r : MatchRequirement)
    (label : Option String) : ClaimKind → Option Claim
  | .name => some ⟨.name, .verbatim t.name, []⟩
  | .studentClass => classClaim scores r
  | .subject => subjectClaim scores r
  | .availability => availabilityClaim scores label
  | .locality => localityClaim t scores
  | .rating => ratingClaim t scores
  | .experience => experienceClaim t scores
  | .fee => feeClaim t scores
  | .mode => modeClaim t r
  | .teachingStyle => styleClaim scores
  | _ => none

/-- The kinds in the order in which they are proposed. -/
def PROPOSED : List ClaimKind :=
  [.name, .studentClass, .subject, .availability, .locality, .rating, .experience, .fee, .mode,
    .teachingStyle]

theorem proposeClaims_eq :
    proposeClaims t scores r label = PROPOSED.filterMap (claimOf t scores r label) := by
  have h : proposeClaims t scores r label
      = (PROPOSED.map (claimOf t scores r label)).reduceOption := rfl
  rw [h, List.reduceOption, List.filterMap_map]
  rfl

theorem kind_of_claimOf (h : claimOf t scores r label kind = some claim) : claim.kind = kind := by
  cases kind with
  | name =>
    cases h
    rfl
  | studentClass => exact (of_classClaim h).2.1
  | subject => exact (of_subjectClaim h).2.2.1
  | availability => exact (of_availabilityClaim h).1
  | locality => exact (of_localityClaim h).1
  | rating => exact (of_ratingClaim h).1
  | experience => exact (of_experienceClaim h).1
  | fee => exact (of_feeClaim h).1
  | mode => exact (of_modeClaim h).1
  | teachingStyle => exact (of_styleClaim h).1
  | profileUrl => cases h
  | board => cases h
  | distance => cases h
  | verification => cases h

/-- By the keys, each of which comes once: what is of a key is what the key has. -/
theorem filter_filterMap_key {α κ : Type} [DecidableEq κ] {f : κ → Option α} {key : α → κ}
    (hkey : ∀ k a, f k = some a → key a = k) {k : κ} : ∀ {ks : List κ}, ks.Nodup → k ∈ ks →
      (ks.filterMap f).filter (key · = k) = (f k).toList := by
  intro ks
  induction ks with
  | nil => exact fun _ h => absurd h List.not_mem_nil
  | cons k' ks ih =>
    intro hnodup hmem
    obtain ⟨hnot, hrest⟩ := List.nodup_cons.mp hnodup
    have hothers : k' = k → (ks.filterMap f).filter (key · = k) = [] := by
      rintro rfl
      refine List.filter_eq_nil_iff.mpr fun a ha hak => hnot ?_
      obtain ⟨k'', hk'', hf⟩ := List.mem_filterMap.mp ha
      have hsame := hkey k'' a hf
      rw [of_decide_eq_true hak] at hsame
      rwa [hsame]
    by_cases heq : k' = k
    · subst heq
      cases hf : f k' with
      | none => rw [List.filterMap_cons_none hf, hothers rfl]; rfl
      | some a =>
        have hsame : decide (key a = k') = true := decide_eq_true (hkey _ _ hf)
        rw [List.filterMap_cons_some hf, List.filter_cons_of_pos (p := (key · = k')) hsame,
          hothers rfl]
        rfl
    · have hin : k ∈ ks := (List.mem_cons.mp hmem).resolve_left (Ne.symm heq)
      cases hf : f k' with
      | none => rw [List.filterMap_cons_none hf, ih hrest hin]
      | some a =>
        have hne : ¬ (decide (key a = k) = true) := by
          rw [decide_eq_true_eq, hkey _ _ hf]
          exact heq
        rw [List.filterMap_cons_some hf, List.filter_cons_of_neg (p := (key · = k)) hne,
          ih hrest hin]

/-- **What is approved of a kind** is the claim of the kind, if the guard approves it. -/
theorem approvedOf_eq (hkind : kind ∈ PROPOSED) :
    approvedOf (approvedClaims p m policy candidate
        (proposeClaims t candidate.scores r label)) kind =
      ((claimOf t candidate.scores r label kind).filter fun claim =>
        (check p m policy candidate claim).isNone).map Claim.told := by
  have hfilter : (approvedClaims p m policy candidate (proposeClaims t candidate.scores r label)
      ).filter (·.kind = kind) = ((claimOf t candidate.scores r label kind).toList).filter
        fun claim => (check p m policy candidate claim).isNone := by
    rw [← filter_filterMap_key (fun _ _ => kind_of_claimOf) (by decide) hkind, proposeClaims_eq,
      approvedClaims, List.filter_filter, List.filter_filter]
    exact List.filter_congr fun _ _ => Bool.and_comm _ _
  rw [approvedOf, hfilter]
  cases claimOf t candidate.scores r label kind with
  | none => rfl
  | some claim =>
    rw [Option.toList_some, List.filter_singleton, Option.filter_some]
    cases (check p m policy candidate claim).isNone <;> rfl

/-- The skill that a claim rests on may be cited. -/
theorem check_eq_none_iff {dimension : Dimension}
    (hback : backingDimension claim.kind = some dimension)
    (hshown : dimension ∉ INTERNAL_ONLY_DIMENSIONS) :
    check p m policy candidate claim = none ↔
      (candidate.scores dimension).any SkillScore.quotable = true := by
  have hallowed : claim.kind ∉ FORBIDDEN_CLAIMS := by
    intro h
    rw [List.mem_singleton.mp h] at hback
    cases hback
  have hskill : claim.kind ∉ PROJECTION_BACKED := by
    intro h
    simp only [PROJECTION_BACKED, List.mem_cons, List.not_mem_nil, or_false] at h
    rcases h with h | h | h | h
    all_goals
      rw [h] at hback
      cases hback
  rw [check, if_neg hallowed, if_neg hskill, hback]
  dsimp only
  rw [if_neg fun h => hshown h.1]
  cases candidate.scores dimension with
  | none => exact iff_of_false (fun h => by cases h) (by decide)
  | some score =>
    dsimp only
    rw [Option.any_some]
    cases hquotable : score.quotable with
    | false => exact iff_of_false (fun h => by cases h) (by decide)
    | true =>
      have hevidence : score.evidence ≠ [] := by
        rw [SkillScore.quotable, Bool.and_eq_true, decide_eq_true_eq, decide_eq_true_eq] at hquotable
        exact hquotable.2
      rw [if_neg (by decide), if_neg fun h => hevidence h.2]
      exact iff_of_true rfl rfl

end Approved

/-! ## What may be named -/

/-- The class with the board, if a score bears it out. -/
def namedClass (scores : Dimension → Option SkillScore) (r : MatchRequirement) : Option String :=
  if present r.classValue &&
      (scores .academic).any (fun s => s.quotable && "class_exact" ∈ s.reasonCodes) then
    some (classText (r.boardValue.filter (· ≠ "")) (r.classValue.getD ""))
  else none

/-- The subject, if a score bears it out. -/
def namedSubject (scores : Dimension → Option SkillScore) (r : MatchRequirement) : Option String :=
  if present r.subjectValue && (scores .subjectExpertise).any
      (fun s => s.quotable && "subjects_all_covered" ∈ s.reasonCodes) then
    some (r.subjectValue.getD "")
  else none

/-- The locality or the city, if a score bears it out. -/
def namedPlace (t : TutorCandidate) (scores : Dimension → Option SkillScore) : Option String :=
  if !present t.locality then none
  else if (scores .proximity).any (fun s => s.quotable && "same_locality" ∈ s.reasonCodes) then
    some (t.locality.getD "")
  else if present t.city && (scores .proximity).any
      (fun s => s.quotable && "same_city" ∈ s.reasonCodes) then
    some (t.city.getD "")
  else none

section Named

variable {p : Platform} {m : Measures} {policy : ScoringPolicy} {t : TutorCandidate}
  {candidate : ScoredCandidate} {r : MatchRequirement} {label : Option String} {kind : ClaimKind}
  {sentence : Sentence}

/-- What is approved of a kind that a skill vouches for. -/
theorem approvedOf_backed (dimension : Dimension) (hkind : kind ∈ PROPOSED)
    (hback : backingDimension kind = some dimension)
    (hshown : dimension ∉ INTERNAL_ONLY_DIMENSIONS) :
    approvedOf (approvedClaims p m policy candidate
        (proposeClaims t candidate.scores r label)) kind =
      if (candidate.scores dimension).any SkillScore.quotable then
        (claimOf t candidate.scores r label kind).map Claim.told else none := by
  rw [approvedOf_eq hkind]
  cases hclaim : claimOf t candidate.scores r label kind with
  | none => split <;> rfl
  | some claim =>
    have hcheck := @check_eq_none_iff p m policy candidate claim dimension
      (by rw [kind_of_claimOf hclaim]; exact hback) hshown
    by_cases hquotable : (candidate.scores dimension).any SkillScore.quotable = true
    · rw [if_pos hquotable, Option.filter_some, hcheck.mpr hquotable]
      rfl
    · have hrefused : (check p m policy candidate claim).isNone = false := by
        rw [← Bool.not_eq_true, Option.isNone_iff_eq_none]
        exact fun h => hquotable (hcheck.mp h)
      rw [if_neg hquotable, Option.filter_some, hrefused]
      rfl

theorem unknown_class : (approvedOf (approvedClaims p m policy candidate
      (proposeClaims t candidate.scores r label)) .studentClass).bind Sentence.unknown =
    namedClass candidate.scores r := by
  rw [approvedOf_backed .academic (by decide) rfl (by decide), claimOf, classClaim, namedClass]
  cases candidate.scores .academic with
  | none => cases present r.classValue <;> rfl
  | some s =>
    cases hquotable : s.quotable with
    | true =>
      simp only [Option.any_some, Option.bind_some, hquotable, Bool.true_and, if_true]
      split <;> rfl
    | false => simp [hquotable]

theorem unknown_subject : (approvedOf (approvedClaims p m policy candidate
      (proposeClaims t candidate.scores r label)) .subject).bind Sentence.unknown =
    namedSubject candidate.scores r := by
  rw [approvedOf_backed .subjectExpertise (by decide) rfl (by decide), claimOf, subjectClaim,
    namedSubject]
  cases candidate.scores .subjectExpertise with
  | none => cases present r.subjectValue <;> rfl
  | some s =>
    cases hquotable : s.quotable with
    | true =>
      simp only [Option.any_some, Option.bind_some, hquotable, Bool.true_and, if_true]
      split <;> rfl
    | false => simp [hquotable]

theorem unknown_place : (approvedOf (approvedClaims p m policy candidate
      (proposeClaims t candidate.scores r label)) .locality).bind Sentence.unknown =
    namedPlace t candidate.scores := by
  rw [approvedOf_backed .proximity (by decide) rfl (by decide), claimOf, localityClaim, namedPlace]
  cases candidate.scores .proximity with
  | none => cases present t.locality <;> cases present t.city <;> rfl
  | some s =>
    cases hquotable : s.quotable with
    | true =>
      simp only [Option.any_some, Option.bind_some, hquotable, Bool.true_and, if_true,
        decide_eq_true_eq, Bool.and_comm (present t.city)]
      split_ifs <;> rfl
    | false => simp [hquotable]

theorem of_approvedOf_eq (hkind : kind ∈ PROPOSED)
    (h : approvedOf (approvedClaims p m policy candidate
      (proposeClaims t candidate.scores r label)) kind = some sentence) :
    ∃ claim, claimOf t candidate.scores r label kind = some claim ∧
      check p m policy candidate claim = none ∧ claim.told = sentence := by
  rw [approvedOf_eq hkind] at h
  obtain ⟨claim, hclaim, rfl⟩ := Option.map_eq_some_iff.mp h
  obtain ⟨hclaim, hnone⟩ := Option.filter_eq_some_iff.mp hclaim
  exact ⟨claim, hclaim, Option.isNone_iff_eq_none.mp hnone, rfl⟩

/-- A class that is told is unknown. -/
theorem approved_class_iff : approvedOf (approvedClaims p m policy candidate
      (proposeClaims t candidate.scores r label)) .studentClass ≠ none ↔
    namedClass candidate.scores r ≠ none := by
  rw [← @unknown_class p m policy t candidate r label]
  cases h : approvedOf (approvedClaims p m policy candidate
      (proposeClaims t candidate.scores r label)) .studentClass with
  | none => exact iff_of_false (absurd rfl) (absurd rfl)
  | some sentence =>
    obtain ⟨claim, hclaim, -, rfl⟩ := of_approvedOf_eq (by decide) h
    rw [(of_classClaim hclaim).2.2]
    exact iff_of_true (by simp) (by simp [Sentence.unknown])

/-- Of the other kinds, everything is known. -/
theorem unknown_others
    (hkind : kind ∈ [ClaimKind.rating, .experience, .teachingStyle, .availability, .fee]) :
    (approvedOf (approvedClaims p m policy candidate
      (proposeClaims t candidate.scores r label)) kind).bind Sentence.unknown = none := by
  cases h : approvedOf (approvedClaims p m policy candidate
      (proposeClaims t candidate.scores r label)) kind with
  | none => rfl
  | some sentence =>
    have hproposed : ∀ kind ∈ [ClaimKind.rating, .experience, .teachingStyle, .availability, .fee],
        kind ∈ PROPOSED := by decide
    obtain ⟨claim, hclaim, -, rfl⟩ := of_approvedOf_eq (hproposed kind hkind) h
    simp only [List.mem_cons, List.not_mem_nil, or_false] at hkind
    rcases hkind with rfl | rfl | rfl | rfl | rfl
    · obtain ⟨-, average, htold⟩ := of_ratingClaim hclaim
      rw [htold]
      rfl
    · obtain ⟨performance, -, hclaim⟩ := Option.bind_eq_some_iff.mp hclaim
      obtain ⟨years, -, rfl⟩ := Option.map_eq_some_iff.mp hclaim
      rfl
    · obtain ⟨personality, -, hclaim⟩ := Option.bind_eq_some_iff.mp hclaim
      split_ifs at hclaim
      cases hclaim
      rfl
    · obtain ⟨label, -, rfl⟩ := Option.map_eq_some_iff.mp hclaim
      rfl
    · obtain ⟨negotiation, -, hclaim⟩ := Option.bind_eq_some_iff.mp hclaim
      obtain ⟨label, -, rfl⟩ := Option.map_eq_some_iff.mp hclaim
      rfl

end Named

/-! ## The reasons -/

/-- What is unknown of the reasons is the class, and the subject if there is room for it. -/
theorem forall_reasons_iff {approved : List Claim} {n : Nat} (hn : 1 ≤ n) {P : String → Prop}
    (hothers : ∀ kind ∈ [ClaimKind.rating, .experience, .teachingStyle],
      (approvedOf approved kind).bind Sentence.unknown = none) :
    (∀ sentence ∈ (reasonSentences approved).take n, ∀ unknown ∈ sentence.unknown, P unknown) ↔
      (∀ unknown ∈ (approvedOf approved .studentClass).bind Sentence.unknown, P unknown) ∧
      ((approvedOf approved .studentClass ≠ none → 2 ≤ n) →
        ∀ unknown ∈ (approvedOf approved .subject).bind Sentence.unknown, P unknown) := by
  obtain ⟨others, hdef⟩ : ∃ others, others =
    [ClaimKind.rating, .experience, .teachingStyle].filterMap (approvedOf approved) := ⟨_, rfl⟩
  have hsilent : ∀ sentence ∈ others, ∀ unknown ∈ sentence.unknown, P unknown := by
    intro sentence hsentence unknown hunknown
    rw [hdef] at hsentence
    obtain ⟨kind, hkind, happroved⟩ := List.mem_filterMap.mp hsentence
    have hnone := hothers kind hkind
    rw [happroved, Option.bind_some, Option.mem_def.mp hunknown] at hnone
    cases hnone
  have htake (k : Nat) : ∀ sentence ∈ others.take k, ∀ unknown ∈ sentence.unknown, P unknown :=
    fun sentence hsentence => hsilent sentence (List.mem_of_mem_take hsentence)
  have hreasons : (∀ sentence ∈ (reasonSentences approved).take n,
      ∀ unknown ∈ sentence.unknown, P unknown) ↔
      ∀ sentence ∈ ((approvedOf approved .studentClass).toList ++
        ((approvedOf approved .subject).toList ++ others)).take n,
        ∀ unknown ∈ sentence.unknown, P unknown := by
    have horder : REASON_ORDER.filterMap (approvedOf approved) =
        (approvedOf approved .studentClass).toList ++
          ((approvedOf approved .subject).toList ++ others) := by
      rw [hdef]
      cases hclass : approvedOf approved .studentClass <;>
        cases hsubject : approvedOf approved .subject <;>
        simp [REASON_ORDER, List.filterMap_cons, hclass, hsubject]
    rw [← horder, reasonSentences]
    cases REASON_ORDER.filterMap (approvedOf approved) with
    | nil =>
      obtain ⟨k, rfl⟩ := Nat.exists_eq_add_of_le' hn
      refine iff_of_true (fun sentence hsentence unknown hunknown => ?_) (by simp)
      rw [List.mem_singleton.mp (List.mem_of_mem_take hsentence)] at hunknown
      cases hunknown
    | cons _ _ => exact Iff.rfl
  rw [hreasons]
  obtain ⟨k, rfl⟩ := Nat.exists_eq_add_of_le' hn
  cases approvedOf approved .studentClass with
  | none =>
    cases approvedOf approved .subject with
    | none => exact iff_of_true (htake _) ⟨by simp, by simp⟩
    | some subject =>
      simp only [Option.toList_none, Option.toList_some, List.nil_append, List.singleton_append,
        List.take_succ_cons, List.forall_mem_cons, Option.bind_none, Option.bind_some]
      exact ⟨fun h => ⟨by simp, fun _ => h.1⟩, fun h => ⟨h.2 (absurd rfl), htake k⟩⟩
  | some studentClass =>
    simp only [Option.toList_some, List.singleton_append, List.take_succ_cons,
      List.forall_mem_cons, Option.bind_some]
    refine and_congr_right fun _ => ?_
    cases approvedOf approved .subject with
    | none => exact iff_of_true (htake k) (by simp)
    | some subject =>
      cases k with
      | zero => exact iff_of_true (by simp) fun h => absurd (h (by simp)) (by decide)
      | succ k =>
        simp only [Option.toList_some, List.singleton_append, List.take_succ_cons,
          List.forall_mem_cons, Option.bind_some]
        exact ⟨fun h _ => h.1, fun h => ⟨h fun _ => Nat.le_add_left 2 k, htake k⟩⟩

theorem of_mem_reasons {approved : List Claim} {sentence : Sentence}
    (h : sentence ∈ reasonSentences approved) :
    sentence = .toBeConfirmed ∨ ∃ kind ∈ REASON_ORDER, approvedOf approved kind = some sentence := by
  unfold reasonSentences at h
  cases hreasons : REASON_ORDER.filterMap (approvedOf approved) with
  | nil =>
    rw [hreasons] at h
    exact .inl (List.mem_singleton.mp h)
  | cons reason reasons =>
    rw [hreasons] at h
    dsimp only at h
    rw [← hreasons] at h
    exact .inr (List.mem_filterMap.mp h)

end NxTutors.Matching
