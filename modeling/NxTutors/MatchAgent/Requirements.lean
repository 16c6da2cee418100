import NxTutors.MatchAgent.Machine
import Mathlib.Data.Rat.Defs

/-!
# What a parent asked for

A requirement is collected over many messages. Every field of it that matters knows where its
value came from, how sure that is and when it was said, and `mergedWith` folds what a message says
into what is stored, field by field: the value that is trusted more wins, lists are joined, and
what was asked for once stays asked for.

Whatever the values are, merging loses no field: `captures_mergedWith` says that a merged
requirement has exactly the fields that one of the two has.
-/

namespace NxTutors.MatchAgent

/-- Where a value came from, in the order of trust. -/
inductive Provenance
  | policyDefault | llm | memory | leadIntake | deterministic | userConfirmed
  deriving DecidableEq, Repr

/-- `PROVENANCE_RANK`. -/
def Provenance.rank : Provenance → Nat
  | .policyDefault => 0
  | .llm => 1
  | .memory => 2
  | .leadIntake => 3
  | .deterministic => 4
  | .userConfirmed => 5

/-- A value with its confidence and its origin. -/
structure Tracked (α : Type) where
  value : α
  confidence : Rat := 1
  provenance : Provenance := .deterministic
  observedAt : Option Time := none
  deriving DecidableEq, Repr

namespace Tracked

variable {α : Type}

/-- Whether a value replaces another one: by trust, then by confidence, then as the later one. -/
def beats (mine : Tracked α) : Option (Tracked α) → Bool
  | none => true
  | some theirs =>
    if mine.provenance.rank ≠ theirs.provenance.rank then
      theirs.provenance.rank < mine.provenance.rank
    else if mine.confidence ≠ theirs.confidence then theirs.confidence < mine.confidence
    else
      match mine.observedAt, theirs.observedAt with
      | some s, some t => t < s
      | _, _ => false

/-- The new value if there is one and it wins, or the old one. -/
def fold (old new : Option (Tracked α)) : Option (Tracked α) :=
  match new with
  | none => old
  | some value => if value.beats old then some value else old

/-- A field that was filled stays filled. -/
theorem isSome_fold (old new : Option (Tracked α)) :
    (fold old new).isSome = (old.isSome || new.isSome) := by
  unfold fold
  cases new with
  | none => rw [Option.isSome_none, Bool.or_false]
  | some value =>
    cases old with
    | none => rfl
    | some theirs =>
      dsimp only
      split <;> rfl

end Tracked

inductive TuitionMode
  | home | online | hybrid
  deriving DecidableEq, Repr

inductive Urgency
  | standard | soon | urgent
  deriving DecidableEq, Repr

/-- `_URGENCY_RANK`. -/
def Urgency.rank : Urgency → Nat
  | .standard => 0
  | .soon => 1
  | .urgent => 2

structure BudgetBand where
  minimum : Option Nat := none
  maximum : Option Nat := none
  currency : String := "INR"
  raw : Option String := none
  deriving DecidableEq, Repr

/-- `bool(budget)`. -/
def BudgetBand.truthy (b : BudgetBand) : Bool := b.minimum.isSome || b.maximum.isSome

/-- `bool(text)`, of a text that may be missing. -/
def present (s : Option String) : Bool := s.any (· ≠ "")

structure LocationRequirement where
  city : Option String := none
  locality : Option String := none
  pincode : Option String := none
  latitude : Option Rat := none
  longitude : Option Rat := none
  maxTravelKm : Option Rat := none
  deriving DecidableEq, Repr

/-- `bool(location)`. -/
def LocationRequirement.truthy (l : LocationRequirement) : Bool :=
  present l.city || present l.locality || present l.pincode ||
    (l.latitude.isSome && l.longitude.isSome)

/-- A window of the week, in minutes of its day. -/
structure TimeWindow where
  weekday : Nat
  start : Nat
  finish : Nat
  deriving DecidableEq, Repr

structure WeeklySchedule where
  timezone : String := "Asia/Kolkata"
  windows : List TimeWindow := []
  deriving DecidableEq, Repr

/-- What we know about a requirement. -/
structure MatchRequirement where
  conversationId : String
  parentRef : Option String := none
  studentRef : Option String := none
  leadId : Option String := none
  subject : Option (Tracked String) := none
  additionalSubjects : List String := []
  topics : List String := []
  weakTopics : List String := []
  board : Option (Tracked String) := none
  studentClass : Option (Tracked String) := none
  exam : Option (Tracked String) := none
  learningGoal : Option (Tracked String) := none
  preferredTeachingStyle : Option (Tracked String) := none
  languagePreference : Option (Tracked String) := none
  tutorGenderPreference : Option (Tracked String) := none
  explicitTutorRef : Option String := none
  mode : Option (Tracked TuitionMode) := none
  location : LocationRequirement := {}
  preferredSchedule : Option WeeklySchedule := none
  timezone : String := "Asia/Kolkata"
  sessionsPerWeek : Option Nat := none
  sessionMinutes : Option Nat := none
  startBy : Option Int := none
  budget : BudgetBand := {}
  urgency : Urgency := .standard
  demoRequested : Bool := false
  capturedAt : Option Time := none
  turnCount : Nat := 0
  deriving DecidableEq, Repr

/-! ## Merging -/

/-- `new or old`, for the fields that say whom it is about. -/
def orOld (new old : Option String) : Option String := if present new then new else old

/-- `tuple(dict.fromkeys([*old, *new]))`. -/
def joined (old new : List String) : List String := (old ++ new).eraseDups

namespace MatchRequirement

/-- Fold a newly extracted requirement into this one. -/
def mergedWith (self other : MatchRequirement) : MatchRequirement where
  conversationId := if other.conversationId ≠ "" then other.conversationId else self.conversationId
  parentRef := orOld other.parentRef self.parentRef
  studentRef := orOld other.studentRef self.studentRef
  leadId := orOld other.leadId self.leadId
  subject := Tracked.fold self.subject other.subject
  additionalSubjects := joined self.additionalSubjects other.additionalSubjects
  topics := joined self.topics other.topics
  weakTopics := joined self.weakTopics other.weakTopics
  board := Tracked.fold self.board other.board
  studentClass := Tracked.fold self.studentClass other.studentClass
  exam := Tracked.fold self.exam other.exam
  learningGoal := Tracked.fold self.learningGoal other.learningGoal
  preferredTeachingStyle := Tracked.fold self.preferredTeachingStyle other.preferredTeachingStyle
  languagePreference := Tracked.fold self.languagePreference other.languagePreference
  tutorGenderPreference := Tracked.fold self.tutorGenderPreference other.tutorGenderPreference
  explicitTutorRef := orOld other.explicitTutorRef self.explicitTutorRef
  mode := Tracked.fold self.mode other.mode
  location := if other.location.truthy then other.location else self.location
  preferredSchedule :=
    if other.preferredSchedule.any fun s => s.windows ≠ [] then other.preferredSchedule
    else self.preferredSchedule
  timezone := if other.timezone ≠ "" then other.timezone else self.timezone
  sessionsPerWeek :=
    if other.sessionsPerWeek.any (· ≠ 0) then other.sessionsPerWeek else self.sessionsPerWeek
  sessionMinutes :=
    if other.sessionMinutes.any (· ≠ 0) then other.sessionMinutes else self.sessionMinutes
  startBy := if other.startBy.isSome then other.startBy else self.startBy
  budget := if other.budget.truthy then other.budget else self.budget
  -- urgency only ever rises within a conversation
  urgency := if self.urgency.rank < other.urgency.rank then other.urgency else self.urgency
  demoRequested := self.demoRequested || other.demoRequested
  capturedAt := if other.capturedAt.isSome then other.capturedAt else self.capturedAt
  turnCount := max self.turnCount other.turnCount

end MatchRequirement

/-- A field of a requirement. A list counts entry by entry. -/
inductive Field
  | parentRef | studentRef | leadId | subject | additionalSubject (s : String) | topic (s : String)
  | weakTopic (s : String) | board | studentClass | exam | learningGoal | preferredTeachingStyle
  | languagePreference | tutorGenderPreference | explicitTutorRef | mode | location
  | preferredSchedule | timezone | sessionsPerWeek | sessionMinutes | startBy | budget | urgency
  | demoRequested | capturedAt | turnCount
  deriving DecidableEq, Repr

namespace MatchRequirement

/-- The requirement says something about the field. -/
def captures (r : MatchRequirement) : Field → Bool
  | .parentRef => present r.parentRef
  | .studentRef => present r.studentRef
  | .leadId => present r.leadId
  | .subject => r.subject.isSome
  | .additionalSubject s => s ∈ r.additionalSubjects
  | .topic s => s ∈ r.topics
  | .weakTopic s => s ∈ r.weakTopics
  | .board => r.board.isSome
  | .studentClass => r.studentClass.isSome
  | .exam => r.exam.isSome
  | .learningGoal => r.learningGoal.isSome
  | .preferredTeachingStyle => r.preferredTeachingStyle.isSome
  | .languagePreference => r.languagePreference.isSome
  | .tutorGenderPreference => r.tutorGenderPreference.isSome
  | .explicitTutorRef => present r.explicitTutorRef
  | .mode => r.mode.isSome
  | .location => r.location.truthy
  | .preferredSchedule => r.preferredSchedule.any fun s => s.windows ≠ []
  | .timezone => r.timezone ≠ ""
  | .sessionsPerWeek => r.sessionsPerWeek.any (· ≠ 0)
  | .sessionMinutes => r.sessionMinutes.any (· ≠ 0)
  | .startBy => r.startBy.isSome
  | .budget => r.budget.truthy
  | .urgency => r.urgency.rank ≠ 0
  | .demoRequested => r.demoRequested
  | .capturedAt => r.capturedAt.isSome
  | .turnCount => r.turnCount ≠ 0

/-- A value that is replaced by a truthy one is truthy if one of them is. -/
theorem truthy_replace {α : Type} (truthy : α → Bool) (new old : α) :
    truthy (if truthy new then new else old) = (truthy old || truthy new) := by
  cases h : truthy new <;> simp [h]

theorem mem_joined {s : String} {old new : List String} :
    s ∈ joined old new ↔ s ∈ old ∨ s ∈ new := by
  rw [joined, List.mem_eraseDups, List.mem_append]

/-- **Merging loses no field** and makes up none. -/
theorem captures_mergedWith (self other : MatchRequirement) (f : Field) :
    (self.mergedWith other).captures f = (self.captures f || other.captures f) := by
  cases f with
  | subject => exact Tracked.isSome_fold ..
  | board => exact Tracked.isSome_fold ..
  | studentClass => exact Tracked.isSome_fold ..
  | exam => exact Tracked.isSome_fold ..
  | learningGoal => exact Tracked.isSome_fold ..
  | preferredTeachingStyle => exact Tracked.isSome_fold ..
  | languagePreference => exact Tracked.isSome_fold ..
  | tutorGenderPreference => exact Tracked.isSome_fold ..
  | mode => exact Tracked.isSome_fold ..
  | parentRef => exact truthy_replace present ..
  | studentRef => exact truthy_replace present ..
  | leadId => exact truthy_replace present ..
  | explicitTutorRef => exact truthy_replace present ..
  | location => exact truthy_replace LocationRequirement.truthy ..
  | preferredSchedule => exact truthy_replace (Option.any fun s : WeeklySchedule => s.windows ≠ []) ..
  | sessionsPerWeek => exact truthy_replace (Option.any (· ≠ 0)) ..
  | sessionMinutes => exact truthy_replace (Option.any (· ≠ 0)) ..
  | startBy => exact truthy_replace Option.isSome ..
  | budget => exact truthy_replace BudgetBand.truthy ..
  | capturedAt => exact truthy_replace Option.isSome ..
  | additionalSubject s => simp [captures, mergedWith, mem_joined]
  | topic s => simp [captures, mergedWith, mem_joined]
  | weakTopic s => simp [captures, mergedWith, mem_joined]
  | timezone =>
    by_cases h : other.timezone = "" <;> simp [captures, mergedWith, h]
  | urgency =>
    rw [captures, captures, captures, mergedWith]
    dsimp only
    rw [← Bool.decide_or]
    refine decide_eq_decide.mpr ?_
    split <;> omega
  | demoRequested => rfl
  | turnCount =>
    rw [captures, captures, captures, mergedWith]
    dsimp only
    rw [← Bool.decide_or]
    exact decide_eq_decide.mpr (by omega)

end MatchRequirement

/-! ## Memory -/

/-- Recalled facts, at the provenance of memory: they fill gaps and overwrite nothing that was
said. -/
def applyMemory (requirement : MatchRequirement) (recalled : List (String × String)) (now : Time) :
    MatchRequirement :=
  if recalled = [] then requirement
  else
    let tracked (key : String) : Option (Tracked String) :=
      ((recalled.lookup key).filter (· ≠ "")).map fun value =>
        { value, confidence := 7 / 10, provenance := .memory, observedAt := some now }
    let overlay : MatchRequirement :=
      { conversationId := requirement.conversationId, subject := tracked "subject",
        board := tracked "board", studentClass := tracked "student_class",
        languagePreference := tracked "language_preference",
        preferredTeachingStyle := tracked "teaching_style" }
    overlay.mergedWith requirement

end NxTutors.MatchAgent
