import NxTutors.Matching.Tutors

/-!
# Hard constraints

Ten rules over structured data, each of which says why a tutor must be removed, or nothing. They run
before any scoring, in order, and the first one that objects is recorded.
-/

namespace NxTutors.Matching

open Text MatchAgent

/-- Why a tutor must be removed, if so. -/
abbrev FilterRule := TutorCandidate → EvaluationContext → Option String

structure HardFilterRejection where
  tutorId : String
  rule : String
  detail : String
  deriving DecidableEq, Repr

structure FilterOutcome where
  survivors : List TutorCandidate
  rejections : List HardFilterRejection
  deriving DecidableEq, Repr

variable (p : Platform) (m : Measures)

/-! ## The rules -/

/-- The public profile must actually load. -/
def activeTutor : FilterRule := fun t _ =>
  if t.freshness ∈ RECOMMENDABLE_FRESHNESS then none
  else some ("projection freshness=" ++ t.freshness.value)

def subjectSupported : FilterRule := fun t c =>
  let r := c.requirement
  if !usableForHardFilter r.subject then none
  else
    let required := r.subjectValue.getD ""
    if required = "" ∨ t.capabilities.subjects = [] then none
    else if matchesAny p required t.capabilities.subjects then none
    else some ("does not teach " ++ required)

def classSupported : FilterRule := fun t c =>
  let r := c.requirement
  if !usableForHardFilter r.studentClass then none
  else
    let required := r.classValue.getD ""
    if required = "" ∨ t.capabilities.classes = [] then none
    else if teachesClass p (some required) t.capabilities.classes then none
    else some ("does not teach " ++ required)

/-- Only where the board matters at this grade. -/
def boardSupported : FilterRule := fun t c =>
  let r := c.requirement
  if !usableForHardFilter r.board then none
  else
    let required := normalizeBoard p r.boardValue
    if !present required ∨ t.capabilities.boards = [] then none
    else if !boardIsMandatory p required (classNumber p r.classValue) then none
    else if required ∈ t.capabilities.boards.map fun b => normalizeBoard p (some b) then none
    else some ("does not teach " ++ required.getD "")

def modeSupported : FilterRule := fun t c =>
  let r := c.requirement
  if !usableForHardFilter r.mode then none
  else
    match r.modeValue with
    | none => none
    | some required =>
      if t.supportsMode required then none else some ("does not offer " ++ required.value)

/-- Home tuition in another city is not feasible. -/
def cityReachable : FilterRule := fun t c =>
  let r := c.requirement
  if r.modeValue ≠ some .home then none
  else if !present r.location.city ∨ !present t.city then none
  else if sameCity p r.location.city t.city then none
  else some ("tutor city " ++ t.city.getD "" ++ " != " ++ r.location.city.getD "")

/-- A clear failure only, and never where coordinates are missing. -/
def withinTravelRadius : FilterRule := fun t c =>
  if c.requirement.modeValue ≠ some .home then none
  else if withinRadius p m t c = some false then some "outside feasible travel radius"
  else none

/-- The floor of the fee is beyond what any strategy can close. -/
def feeWithinNegotiableRange : FilterRule := fun t c =>
  let budget := c.requirement.budget
  if !budget.truthy ∨ !t.fee.truthy then none
  else
    match budget.maximum, t.fee.minimum with
    | some ceiling, some floor =>
      if ceiling = 0 then none
      else
        let ratio : Rat := floor / ceiling
        if ratio ≤ c.policy.negotiation.maxOverBudgetRatio then none
        else some ("minimum fee " ++ m.fixed 1 ratio ++ "x the stated budget ceiling")
    | _, _ => none

/-- Only where the parent asked. -/
def genderIfRequested : FilterRule := fun t c =>
  let r := c.requirement
  if !usableForHardFilter r.tutorGenderPreference then none
  else
    let wanted := p.lower (strip p.toTables (r.genderValue.getD ""))
    if wanted ∉ ["male", "female"] then none
    else if !present t.gender then none
    else if p.lower (strip p.toTables (t.gender.getD "")) = wanted then none
    else some ("gender != " ++ wanted)

/-- When one tutor was named, everyone else is out of scope. -/
def explicitTutorRequest : FilterRule := fun t c =>
  let wanted := c.requirement.explicitTutorRef
  if !present wanted then none
  else if some t.publicRef = wanted then none
  else some "parent requested a specific tutor"

/-- In the order in which they are applied. -/
def RULES : List (String × FilterRule) :=
  [("ACTIVE_TUTOR", activeTutor),
    ("EXPLICIT_TUTOR_REQUEST", explicitTutorRequest),
    ("SUBJECT_SUPPORTED", subjectSupported p),
    ("CLASS_SUPPORTED", classSupported p),
    ("BOARD_SUPPORTED", boardSupported p),
    ("MODE_SUPPORTED", modeSupported),
    ("GENDER_IF_REQUESTED", genderIfRequested p),
    ("CITY_REACHABLE", cityReachable p),
    ("FEE_NEGOTIABLE", feeWithinNegotiableRange m),
    ("WITHIN_TRAVEL_RADIUS", withinTravelRadius p m)]

/-! ## Applying them -/

/-- The first rule that objects. -/
def rejection (rules : List (String × FilterRule)) (t : TutorCandidate) (c : EvaluationContext) :
    Option HardFilterRejection :=
  rules.findSome? fun (name, rule) =>
    (rule t c).map fun detail => ⟨t.tutorId, name, Text.take detail 240⟩

/-- Run every rule on every tutor, keeping a reason for each rejection. -/
def applyRules (rules : List (String × FilterRule)) (c : EvaluationContext) :
    List TutorCandidate → FilterOutcome
  | [] => ⟨[], []⟩
  | t :: ts =>
    let rest := applyRules rules c ts
    match rejection rules t c with
    | some r => ⟨rest.survivors, r :: rest.rejections⟩
    | none => ⟨t :: rest.survivors, rest.rejections⟩

/-- `hard_filters.apply`. -/
def apply (candidates : List TutorCandidate) (c : EvaluationContext) : FilterOutcome :=
  applyRules (RULES p m) c candidates

/-- No rule objects. -/
def accepted (t : TutorCandidate) (c : EvaluationContext) : Prop :=
  ∀ rule ∈ RULES p m, rule.2 t c = none

section Apply

variable {rules : List (String × FilterRule)} {t : TutorCandidate} {c : EvaluationContext}
  {candidates : List TutorCandidate}

theorem rejection_eq_none_iff : rejection rules t c = none ↔ ∀ rule ∈ rules, rule.2 t c = none := by
  rw [rejection, List.findSome?_eq_none_iff]
  constructor
  · intro h rule hrule
    exact Option.map_eq_none_iff.mp (h rule hrule)
  · intro h rule hrule
    exact Option.map_eq_none_iff.mpr (h rule hrule)

/-- A rejection is of the tutor, by a rule of the list that objects to it. -/
theorem of_rejection_eq_some {r : HardFilterRejection} (h : rejection rules t c = some r) :
    r.tutorId = t.tutorId ∧
      ∃ rule ∈ rules, r.rule = rule.1 ∧ ∃ detail, rule.2 t c = some detail ∧
        r.detail = Text.take detail 240 := by
  obtain ⟨rule, hrule, hr⟩ := List.exists_of_findSome?_eq_some h
  obtain ⟨detail, hdetail, rfl⟩ := Option.map_eq_some_iff.mp hr
  exact ⟨rfl, rule, hrule, rfl, detail, hdetail, rfl⟩

theorem survivors_applyRules :
    (applyRules rules c candidates).survivors
      = candidates.filter fun t => (rejection rules t c).isNone := by
  induction candidates with
  | nil => rfl
  | cons t ts ih =>
    rw [applyRules, List.filter_cons]
    cases hr : rejection rules t c with
    | none => exact congrArg (t :: ·) ih
    | some r => exact ih

theorem rejections_applyRules :
    (applyRules rules c candidates).rejections
      = candidates.filterMap fun t => rejection rules t c := by
  induction candidates with
  | nil => rfl
  | cons t ts ih =>
    rw [applyRules, List.filterMap_cons]
    cases hr : rejection rules t c with
    | none => exact ih
    | some r => exact congrArg (r :: ·) ih

end Apply

section Accepted

variable {p m} {t : TutorCandidate} {c : EvaluationContext} {candidates : List TutorCandidate}

/-- The ten verdicts. -/
theorem accepted_iff :
    accepted p m t c ↔ activeTutor t c = none ∧ explicitTutorRequest t c = none ∧
      subjectSupported p t c = none ∧ classSupported p t c = none ∧ boardSupported p t c = none ∧
      modeSupported t c = none ∧ genderIfRequested p t c = none ∧ cityReachable p t c = none ∧
      feeWithinNegotiableRange m t c = none ∧ withinTravelRadius p m t c = none := by
  simp only [accepted, RULES, List.forall_mem_cons, List.not_mem_nil, false_implies, implies_true,
    and_true]

/-- When the last rule is silent. -/
theorem withinTravelRadius_eq_none_iff :
    withinTravelRadius p m t c = none ↔ c.requirement.modeValue ≠ some .home ∨
      c.requirement.location.hasCoordinates = false ∨
      ∀ point ∈ t.geo, m.haversineKm (parentPoint c.requirement.location) point
        ≤ clamp (effectiveRadius p t c * (3 / 2)) 1 100 := by
  unfold withinTravelRadius withinRadius
  by_cases hmode : c.requirement.modeValue = some .home
  · cases hplace : c.requirement.location.hasCoordinates with
    | false => simp [hmode]
    | true =>
      cases t.geo with
      | none => simp [hmode]
      | some point => simp [hmode]
  · simp [hmode]

end Accepted

instance (t : TutorCandidate) (c : EvaluationContext) : Decidable (accepted p m t c) :=
  inferInstanceAs (Decidable (∀ rule ∈ RULES p m, rule.2 t c = none))

/-! ## The partition -/

/-- What becomes of a list of candidates: some are kept, in their order, and each of the others is
rejected once, by a rule that objects to it. -/
structure Partitioned (c : EvaluationContext) (candidates : List TutorCandidate)
    (o : FilterOutcome) : Prop where
  survivors : o.survivors = candidates.filter fun t => accepted p m t c
  rejections : List.Forall₂ (fun t r => r.tutorId = t.tutorId ∧
      ∃ rule ∈ RULES p m, r.rule = rule.1 ∧ ∃ detail, rule.2 t c = some detail ∧
        r.detail = Text.take detail 240)
    (candidates.filter fun t => ¬accepted p m t c) o.rejections

variable {p m}

/-- **Applying the rules partitions the candidates.** -/
theorem partitioned_apply (c : EvaluationContext) (candidates : List TutorCandidate) :
    Partitioned p m c candidates (apply p m candidates c) := by
  have hnone : ∀ t, rejection (RULES p m) t c = none ↔ accepted p m t c := fun _ =>
    rejection_eq_none_iff
  constructor
  · rw [apply, survivors_applyRules]
    refine List.filter_congr fun t _ => ?_
    rw [Bool.eq_iff_iff, Option.isNone_iff_eq_none, decide_eq_true_iff]
    exact hnone t
  · rw [apply, rejections_applyRules]
    induction candidates with
    | nil => exact .nil
    | cons t ts ih =>
      rw [List.filter_cons, List.filterMap_cons]
      cases hr : rejection (RULES p m) t c with
      | none =>
        rw [if_neg (by simpa using (hnone t).mp hr)]
        exact ih
      | some r =>
        have hnot : ¬accepted p m t c := fun h => by
          rw [(hnone t).mpr h] at hr
          cases hr
        rw [if_pos (decide_eq_true hnot)]
        exact .cons (of_rejection_eq_some hr) ih

end NxTutors.Matching
