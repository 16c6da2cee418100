import Mathlib.Algebra.Order.Ring.Unbundled.Rat
import NxTutors.MatchAgent.MissingInfo
import NxTutors.Matching.Vocabulary

/-!
# Tutors and policies

A tutor as the matcher sees one. Almost everything about a tutor may be missing, and a list that is
empty is missing too: nothing is known then, which is not the same as nothing being taught.
Coordinates, distances and ratings are rational numbers here.
-/

namespace NxTutors.MatchAgent

/-- Trusted enough to delete candidates with. -/
def usableForHardFilter {α : Type} : Option (Tracked α) → Bool
  | none => false
  | some tracked =>
    tracked.provenance = .userConfirmed || tracked.provenance = .deterministic ||
      3 / 4 ≤ tracked.confidence

namespace MatchRequirement

variable (r : MatchRequirement)

/-- `value_of("tutor_gender_preference")`. -/
def genderValue : Option String := r.tutorGenderPreference.map Tracked.value

/-- `value_of("exam")`. -/
def examValue : Option String := r.exam.map Tracked.value

/-- The subject and the additional ones, each once. -/
def allSubjects : List String :=
  ((if present r.subjectValue then [r.subjectValue.getD ""] else []) ++
    r.additionalSubjects).eraseDups

end MatchRequirement

def TuitionMode.value : TuitionMode → String
  | .home => "home"
  | .online => "online"
  | .hybrid => "hybrid"

/-- Both coordinates are known. -/
def LocationRequirement.hasCoordinates (l : LocationRequirement) : Bool :=
  l.latitude.isSome && l.longitude.isSome

end NxTutors.MatchAgent

namespace NxTutors.Matching

open Text MatchAgent

/-! ## Tutors -/

inductive Freshness
  | fresh | aging | stale | unknown
  deriving DecidableEq, Repr

def Freshness.value : Freshness → String
  | .fresh => "fresh"
  | .aging => "aging"
  | .stale => "stale"
  | .unknown => "unknown"

/-- `RECOMMENDABLE_FRESHNESS`. -/
def RECOMMENDABLE_FRESHNESS : List Freshness := [.fresh, .aging]

/-- What the reviews of a tutor come to. -/
structure ReviewAggregate where
  count : Nat := 0
  ratingAvg : Option Rat := none
  reliabilityAvg : Option Rat := none
  latestReviewAt : Option Time := none
  deriving DecidableEq, Repr

/-- A fee whose unit is not known. -/
structure FeeBand where
  minimum : Option Nat := none
  maximum : Option Nat := none
  label : Option String := none
  deriving DecidableEq, Repr

/-- `bool(fee)`. -/
def FeeBand.truthy (f : FeeBand) : Bool := f.minimum.isSome || f.maximum.isSome

structure GeoPoint where
  latitude : Rat
  longitude : Rat
  /-- what the point was derived from -/
  granularity : String := "pincode"
  deriving DecidableEq, Repr

structure TutorCapabilities where
  subjects : List String := []
  boards : List String := []
  classes : List String := []
  modes : List TuitionMode := []
  deriving DecidableEq, Repr

/-- One active tutor. -/
structure TutorCandidate where
  tutorId : String
  publicRef : String
  name : String
  gender : Option String := none
  city : Option String := none
  locality : Option String := none
  pincode : Option String := none
  geo : Option GeoPoint := none
  travelRadiusKm : Option Rat := none
  capabilities : TutorCapabilities := {}
  experienceYears : Option Nat := none
  education : Option String := none
  profileSummary : Option String := none
  fee : FeeBand := {}
  reviews : ReviewAggregate := {}
  availability : Option WeeklySchedule := none
  sourceUpdatedAt : Option Time := none
  syncedAt : Option Time := none
  freshness : Freshness := .unknown
  deriving DecidableEq, Repr

/-- Unknown modes are permissive, and everyone can do both. -/
def TutorCandidate.supportsMode (t : TutorCandidate) (mode : TuitionMode) : Bool :=
  t.capabilities.modes = [] || mode = .hybrid || mode ∈ t.capabilities.modes

/-! ## Policies -/

structure ProximityPolicy where
  /-- by the tier of a city -/
  defaultTravelRadiusKm : List (String × Rat)
  deriving Repr

/-- The radius of a tier, or the one for all others. -/
def ProximityPolicy.radiusFor (policy : ProximityPolicy) (tier : CityTier) : Rat :=
  (policy.defaultTravelRadiusKm.lookup tier.value).getD
    ((policy.defaultTravelRadiusKm.lookup "default").getD 15)

/-- The ratio beyond which no strategy closes a gap, within the bounds of the validator. -/
structure NegotiationPolicy where
  maxOverBudgetRatio : Rat
  one_le : 1 ≤ maxOverBudgetRatio
  le_three : maxOverBudgetRatio ≤ 3

/-- What ratings are held against, within the bounds of the validator. -/
structure ReviewPrior where
  priorMean : Rat
  /-- so many imaginary reviews -/
  priorWeight : Rat
  minReviewsForRating : Nat
  fullConfidenceAt : Nat
  recencyHalfLifeDays : Rat
  priorMean_mem : 0 ≤ priorMean ∧ priorMean ≤ 5
  priorWeight_mem : 0 ≤ priorWeight ∧ priorWeight ≤ 100
  minReviewsForRating_le : minReviewsForRating ≤ 100
  fullConfidenceAt_mem : 1 ≤ fullConfidenceAt ∧ fullConfidenceAt ≤ 500
  recencyHalfLifeDays_mem : 0 < recencyHalfLifeDays ∧ recencyHalfLifeDays ≤ 3650

/-- The score where nothing is known. -/
structure Thresholds where
  neutralScore : Rat
  neutralScore_mem : 0 ≤ neutralScore ∧ neutralScore ≤ 1

/-- What may be told. -/
structure ExplanationPolicy where
  exposeNumericScores : Bool := false
  exposeReplacementRisk : Bool := false
  maxReasonsPerTutor : Nat
  maxReasonsPerTutor_mem : 1 ≤ maxReasonsPerTutor ∧ maxReasonsPerTutor ≤ 6

structure ScoringPolicy where
  thresholds : Thresholds
  reviews : ReviewPrior
  proximity : ProximityPolicy
  negotiation : NegotiationPolicy
  explanation : ExplanationPolicy

/-- What floating point computes. -/
structure Measures where
  /-- great-circle distance in km -/
  haversineKm : GeoPoint → GeoPoint → Rat
  /-- a number with so many decimals -/
  fixed : Nat → Rat → String

/-- What a rule may look at. -/
structure EvaluationContext where
  requirement : MatchRequirement
  policy : ScoringPolicy

def clamp (value low high : Rat) : Rat := max low (min high value)

/-! ## Distance -/

variable (p : Platform) (m : Measures)

/-- Where the parent is, zero standing in for a coordinate that is missing. -/
def parentPoint (l : LocationRequirement) : GeoPoint where
  latitude := l.latitude.getD 0
  longitude := l.longitude.getD 0
  granularity := "requirement"

/-- The tighter of the parent's limit and the tutor's radius, or the policy's for the city. -/
def effectiveRadius (t : TutorCandidate) (c : EvaluationContext) : Rat :=
  let tier := cityTier p (if present t.city then t.city else c.requirement.location.city)
  let tutorRadius := (t.travelRadiusKm.filter (· ≠ 0)).getD (c.policy.proximity.radiusFor tier)
  match c.requirement.location.maxTravelKm.filter (· ≠ 0) with
  | some parentLimit => min tutorRadius parentLimit
  | none => tutorRadius

/-- Within half as much again as the radius; nothing is said where a distance is not known. -/
def withinRadius (t : TutorCandidate) (c : EvaluationContext) : Option Bool :=
  if c.requirement.location.hasCoordinates then
    t.geo.map fun point =>
      m.haversineKm (parentPoint c.requirement.location) point
        ≤ clamp (effectiveRadius p t c * (3 / 2)) 1 100
  else none

/-! ## For examples -/

/-- What floating point comes to for two points of one meridian. -/
def meridian : Measures where
  haversineKm a b :=
    111195 / 1000 * (max a.latitude b.latitude - min a.latitude b.latitude)
  fixed _ q := toString q

/-- Eight km in the big cities, a fee of up to 1.3 times the budget, and no rating from less than
three reviews. -/
def basePolicy : ScoringPolicy where
  thresholds := ⟨1 / 2, by decide +kernel⟩
  reviews := ⟨38 / 10, 5, 3, 20, 540, by decide +kernel, by decide +kernel, by decide, by decide,
    by decide +kernel⟩
  explanation :=
    { maxReasonsPerTutor := 3, maxReasonsPerTutor_mem := by decide }
  proximity := ⟨[("metro", 8), ("tier2", 12), ("default", 15)]⟩
  negotiation := ⟨13 / 10, by decide +kernel, by decide +kernel⟩

end NxTutors.Matching
