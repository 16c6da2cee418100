import NxTutors.MatchAgent.Requirements
import NxTutors.Effect.Steps

/-!
# Collecting a requirement over many messages

What is known of a requirement comes in pieces, and a message may say something about some of them.
Where a piece is a field of its own, merging keeps it until something is said about it; where it is
part of a field that is replaced as a whole (a place, a budget), or where a message that says
nothing has a default of its own (the timezone), it may be lost. `incremental_iff` says exactly
when.
-/

namespace NxTutors.MatchAgent

open Effect

/-! ## Pieces -/

/-- What may be known of a requirement. A list is known entry by entry. -/
inductive Piece
  | subject | board | studentClass | exam | learningGoal | preferredTeachingStyle
  | languagePreference | tutorGenderPreference | mode | city | locality | pincode
  | budgetMinimum | budgetMaximum | schedule | timezone | additionalSubject (s : String)
  | topic (s : String) | weakTopic (s : String)
  deriving DecidableEq, Repr

/-- What is known of it. -/
inductive PieceValue
  | tracked (value : Tracked String)
  | mode (value : Tracked TuitionMode)
  | name (s : String)
  | amount (n : Nat)
  | schedule (s : WeeklySchedule)
  deriving DecidableEq, Repr

/-- How far it is trusted. -/
def PieceValue.rank : PieceValue → Nat
  | .tracked value => value.provenance.rank
  | .mode value => value.provenance.rank
  | _ => 0

/-- The timezone of a requirement that says nothing about it. -/
def DEFAULT_TIMEZONE : String := "Asia/Kolkata"

/-- A text that says something. -/
def named (s : Option String) : Option PieceValue := (s.filter (· ≠ "")).map .name

namespace MatchRequirement

/-- What a requirement says about a piece, if it says anything. -/
def piece (r : MatchRequirement) : Piece → Option PieceValue
  | .subject => r.subject.map .tracked
  | .board => r.board.map .tracked
  | .studentClass => r.studentClass.map .tracked
  | .exam => r.exam.map .tracked
  | .learningGoal => r.learningGoal.map .tracked
  | .preferredTeachingStyle => r.preferredTeachingStyle.map .tracked
  | .languagePreference => r.languagePreference.map .tracked
  | .tutorGenderPreference => r.tutorGenderPreference.map .tracked
  | .mode => r.mode.map .mode
  | .city => named r.location.city
  | .locality => named r.location.locality
  | .pincode => named r.location.pincode
  | .budgetMinimum => r.budget.minimum.map .amount
  | .budgetMaximum => r.budget.maximum.map .amount
  | .schedule => r.preferredSchedule.map .schedule
  | .timezone => if r.timezone = DEFAULT_TIMEZONE then none else named (some r.timezone)
  | .additionalSubject s => if s ∈ r.additionalSubjects then some (.name s) else none
  | .topic s => if s ∈ r.topics then some (.name s) else none
  | .weakTopic s => if s ∈ r.weakTopics then some (.name s) else none

/-! ## What merging should do -/

/-- What carries only the name of its conversation. -/
def blank (conversationId : String) : MatchRequirement := { conversationId }

/-- **Nothing is forgotten** by a merge: what says nothing changes nothing, trust never sinks, and
what was known and is not said anew is known still. -/
structure Incremental (r q : MatchRequirement) : Prop where
  blank_changes_nothing : r.mergedWith (blank r.conversationId) = r
  trust_never_sinks : ∀ p v v', r.piece p = some v → (r.mergedWith q).piece p = some v' →
    v.rank ≤ v'.rank
  known_still : ∀ p, (r.piece p).isSome = true → q.piece p = none →
    (r.mergedWith q).piece p = r.piece p

/-- If a message says some of these pieces, it says all that are known. -/
def SaysAll (r q : MatchRequirement) (pieces : List Piece) : Prop :=
  ∀ p ∈ pieces, (r.piece p).isSome = true → (q.piece p).isSome = true

/-- No field that is replaced as a whole takes something with it, and no default stands for a
timezone. -/
structure Unforgetting (r q : MatchRequirement) : Prop where
  additionalSubjects : r.additionalSubjects.Nodup
  topics : r.topics.Nodup
  weakTopics : r.weakTopics.Nodup
  timezone : r.timezone = DEFAULT_TIMEZONE
  location : q.location.truthy = true → SaysAll r q [.city, .locality, .pincode]
  budget : q.budget.truthy = true → SaysAll r q [.budgetMinimum, .budgetMaximum]

/-! ## When it does -/

/-- Dropping repeated entries leaves none. -/
theorem nodup_eraseDups : ∀ l : List String, l.eraseDups.Nodup
  | [] => List.nodup_nil
  | a :: l => by
    rw [List.eraseDups_cons, List.nodup_cons]
    refine ⟨?_, nodup_eraseDups _⟩
    rw [List.mem_eraseDups, List.mem_filter]
    rintro ⟨-, hne⟩
    simp at hne
termination_by l => l.length
decreasing_by exact Nat.lt_succ_of_le (List.length_filter_le _ _)

theorem joined_nil_eq_self_iff {l : List String} : joined l [] = l ↔ l.Nodup := by
  rw [joined, List.append_nil]
  constructor
  · intro h
    exact h ▸ nodup_eraseDups l
  · intro h
    induction l with
    | nil => rfl
    | cons a l ih =>
      obtain ⟨hnew, hrest⟩ := List.nodup_cons.mp h
      have hfilter : l.filter (fun b => !b == a) = l := by
        refine List.filter_eq_self.mpr fun b hb => ?_
        have hne : b ≠ a := fun heq => hnew (heq ▸ hb)
        simpa using hne
      rw [List.eraseDups_cons, hfilter, ih hrest]

section Merging

variable {r q : MatchRequirement}

/-- Who says nothing else changes nothing, unless a list repeats itself or the timezone is not the
default. -/
theorem mergedWith_blank_iff : r.mergedWith (blank r.conversationId) = r ↔
    r.additionalSubjects.Nodup ∧ r.topics.Nodup ∧ r.weakTopics.Nodup ∧
      r.timezone = DEFAULT_TIMEZONE := by
  constructor
  · intro h
    have hsubjects := congrArg (·.additionalSubjects) h
    have htopics := congrArg (·.topics) h
    have hweak := congrArg (·.weakTopics) h
    have hzone := congrArg (·.timezone) h
    exact ⟨joined_nil_eq_self_iff.mp hsubjects, joined_nil_eq_self_iff.mp htopics,
      joined_nil_eq_self_iff.mp hweak, hzone.symm⟩
  · rintro ⟨hsubjects, htopics, hweak, hzone⟩
    cases r
    simp only at hsubjects htopics hweak hzone
    subst hzone
    simp [mergedWith, blank, orOld, present, Tracked.fold, joined_nil_eq_self_iff.mpr hsubjects,
      joined_nil_eq_self_iff.mpr htopics, joined_nil_eq_self_iff.mpr hweak, BudgetBand.truthy,
      LocationRequirement.truthy, DEFAULT_TIMEZONE, Urgency.rank]
    exact ite_self _

/-- The value that wins is trusted no less. -/
theorem rank_fold {α : Type} {old new : Option (Tracked α)} {v v' : Tracked α} (hold : old = some v)
    (h : Tracked.fold old new = some v') : v.provenance.rank ≤ v'.provenance.rank := by
  subst hold
  unfold Tracked.fold at h
  cases new with
  | none =>
    cases h
    exact Nat.le_refl _
  | some w =>
    dsimp only at h
    cases hbeats : w.beats (some v) with
    | false =>
      rw [hbeats] at h
      cases h
      exact Nat.le_refl _
    | true =>
      rw [hbeats] at h
      cases h
      unfold Tracked.beats at hbeats
      by_cases hrank : v'.provenance.rank = v.provenance.rank
      · exact hrank.ge
      · dsimp only at hbeats
        rw [if_pos hrank] at hbeats
        exact (of_decide_eq_true hbeats).le

/-- **Trust never sinks**, whatever is merged. -/
theorem trust_never_sinks (p : Piece) (v v' : PieceValue) (hv : r.piece p = some v)
    (hv' : (r.mergedWith q).piece p = some v') : v.rank ≤ v'.rank := by
  have htracked : ∀ {old new : Option (Tracked String)}, old.map PieceValue.tracked = some v →
      (Tracked.fold old new).map PieceValue.tracked = some v' → v.rank ≤ v'.rank := by
    intro old new h h'
    obtain ⟨x, hx, rfl⟩ := Option.map_eq_some_iff.mp h
    obtain ⟨y, hy, rfl⟩ := Option.map_eq_some_iff.mp h'
    exact rank_fold hx hy
  cases p with
  | mode =>
    obtain ⟨x, hx, rfl⟩ := Option.map_eq_some_iff.mp hv
    obtain ⟨y, hy, rfl⟩ := Option.map_eq_some_iff.mp hv'
    exact rank_fold hx hy
  | subject | board | studentClass | exam | learningGoal | preferredTeachingStyle
  | languagePreference | tutorGenderPreference => exact htracked hv hv'
  | city | locality | pincode =>
    obtain ⟨x, hx, rfl⟩ := Option.map_eq_some_iff.mp hv
    exact Nat.zero_le _
  | budgetMinimum | budgetMaximum | schedule =>
    obtain ⟨x, hx, rfl⟩ := Option.map_eq_some_iff.mp hv
    exact Nat.zero_le _
  | timezone =>
    unfold piece at hv
    dsimp only at hv
    split at hv
    · cases hv
    · obtain ⟨x, hx, rfl⟩ := Option.map_eq_some_iff.mp hv
      exact Nat.zero_le _
  | additionalSubject s | topic s | weakTopic s =>
    unfold piece at hv
    dsimp only at hv
    split at hv
    · cases hv
      exact Nat.zero_le _
    · cases hv

/-- What is known of a field of its own is known still. -/
theorem map_fold_none {α : Type} {old new : Option (Tracked α)}
    {g : Tracked α → PieceValue} (h : new.map g = none) :
    (Tracked.fold old new).map g = old.map g := by
  rw [Option.map_eq_none_iff.mp h]
  rfl

/-- **What is known is known still** if it is not in a field that is replaced as a whole. -/
theorem known_still (hzone : r.timezone = DEFAULT_TIMEZONE)
    (hlocation : q.location.truthy = true → SaysAll r q [.city, .locality, .pincode])
    (hbudget : q.budget.truthy = true → SaysAll r q [.budgetMinimum, .budgetMaximum])
    (p : Piece) (hknown : (r.piece p).isSome = true) (hunsaid : q.piece p = none) :
    (r.mergedWith q).piece p = r.piece p := by
  have hunsaid' : ¬ (q.piece p).isSome = true := by rw [hunsaid]; decide
  cases p with
  | subject | board | studentClass | exam | learningGoal | preferredTeachingStyle
  | languagePreference | tutorGenderPreference | mode =>
    exact map_fold_none hunsaid
  | city | locality | pincode =>
    have hfalsy : q.location.truthy = false := by
      cases htruthy : q.location.truthy with
      | false => rfl
      | true => exact absurd (hlocation htruthy _ (by simp) hknown) hunsaid'
    simp only [piece, mergedWith, hfalsy, Bool.false_eq_true, if_false]
  | budgetMinimum | budgetMaximum =>
    have hfalsy : q.budget.truthy = false := by
      cases htruthy : q.budget.truthy with
      | false => rfl
      | true => exact absurd (hbudget htruthy _ (by simp) hknown) hunsaid'
    simp only [piece, mergedWith, hfalsy, Bool.false_eq_true, if_false]
  | schedule =>
    have hnone : q.preferredSchedule = none := Option.map_eq_none_iff.mp hunsaid
    simp only [piece, mergedWith, hnone, Option.any_none, Bool.false_eq_true, if_false]
  | timezone =>
    rw [piece, if_pos hzone] at hknown
    cases hknown
  | additionalSubject s | topic s | weakTopic s =>
    unfold piece at hknown ⊢
    dsimp only at hknown ⊢
    split at hknown
    · rename_i hmem
      rw [if_pos hmem]
      exact if_pos (mem_joined.mpr (.inl hmem))
    · cases hknown

/-- **When a merge forgets nothing.** -/
theorem incremental_iff : Incremental r q ↔ Unforgetting r q := by
  constructor
  · rintro ⟨hblank, -, hknown⟩
    obtain ⟨hsubjects, htopics, hweak, hzone⟩ := mergedWith_blank_iff.mp hblank
    refine ⟨hsubjects, htopics, hweak, hzone, fun htruthy p hp hsome => ?_,
      fun htruthy p hp hsome => ?_⟩
    · cases hsaid : q.piece p with
      | some v => rfl
      | none =>
        have hstill := hknown p hsome hsaid
        have hmerged : (r.mergedWith q).piece p = q.piece p := by
          simp only [List.mem_cons, List.not_mem_nil, or_false] at hp
          rcases hp with rfl | rfl | rfl <;> simp only [piece, mergedWith, htruthy, if_true]
        rw [← hstill, hmerged, hsaid] at hsome
        cases hsome
    · cases hsaid : q.piece p with
      | some v => rfl
      | none =>
        have hstill := hknown p hsome hsaid
        have hmerged : (r.mergedWith q).piece p = q.piece p := by
          simp only [List.mem_cons, List.not_mem_nil, or_false] at hp
          rcases hp with rfl | rfl <;> simp only [piece, mergedWith, htruthy, if_true]
        rw [← hstill, hmerged, hsaid] at hsome
        cases hsome
  · rintro ⟨hsubjects, htopics, hweak, hzone, hlocation, hbudget⟩
    exact ⟨mergedWith_blank_iff.mpr ⟨hsubjects, htopics, hweak, hzone⟩, trust_never_sinks,
      known_still hzone hlocation hbudget⟩

end Merging

end MatchRequirement

/-- **When collecting forgets nothing**: over every sequence of messages, exactly if at each of them
no list repeats itself, the timezone is the default, and a message that says something of a place or
a budget says all of it that is known. -/
theorem never_forgets_iff (r : MatchRequirement) (messages : List MatchRequirement) :
    Along MatchRequirement.mergedWith MatchRequirement.Incremental r messages ↔
      Along MatchRequirement.mergedWith MatchRequirement.Unforgetting r messages := by
  induction messages generalizing r with
  | nil => exact Iff.rfl
  | cons q rest ih => exact and_congr MatchRequirement.incremental_iff (ih (r.mergedWith q))

/-! ### A city that is forgotten -/

/-- "In Pune, Kothrud". -/
def inPune : MatchRequirement :=
  { conversationId := "wa:1", location := { city := some "Pune", locality := some "Kothrud" } }

/-- "The pincode is 411038". -/
def withPincode : MatchRequirement :=
  { conversationId := "wa:1", location := { pincode := some "411038" } }

/-- **A city is forgotten** when a pincode is said. -/
theorem city_forgotten : ¬ ∀ (r : MatchRequirement) (messages : List MatchRequirement),
    Along MatchRequirement.mergedWith MatchRequirement.Incremental r messages := by
  intro hall
  have hcity := (hall inPune [withPincode]).1.known_still .city rfl rfl
  exact absurd hcity (by decide)

end NxTutors.MatchAgent
