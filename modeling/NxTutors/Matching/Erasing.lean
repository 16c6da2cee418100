import NxTutors.Matching.HardFilters
import Mathlib.Data.Finset.Basic

/-!
# Tutors about whom less is known

A rule objects to what contradicts a requirement, not to what is missing. Nine of the ten rules keep
to that: whatever is erased from the profile of a tutor, they object to nothing new. The tenth puts
in a radius of the policy where the tutor's own is missing, and looks for the tier of the parent's
city where the tutor's is, so a tutor who said how far they travel can be lost by saying nothing:
`accepted_erase_iff` says when.
-/

namespace NxTutors.Matching

open Text MatchAgent

/-- What a tutor may leave open. -/
inductive ProfileField
  | gender | city | locality | pincode | geo | travelRadiusKm | subjects | boards | classes | modes
  | feeMinimum | feeMaximum | availability
  deriving DecidableEq, Repr

/-- Forget some of what a tutor has said. -/
def TutorCandidate.erase (t : TutorCandidate) (fields : Finset ProfileField) : TutorCandidate :=
  let kept {α : Type} (field : ProfileField) (value : Option α) : Option α :=
    if field ∈ fields then none else value
  let listed {α : Type} (field : ProfileField) (values : List α) : List α :=
    if field ∈ fields then [] else values
  { t with
    gender := kept .gender t.gender
    city := kept .city t.city
    locality := kept .locality t.locality
    pincode := kept .pincode t.pincode
    geo := kept .geo t.geo
    travelRadiusKm := kept .travelRadiusKm t.travelRadiusKm
    capabilities :=
      { subjects := listed .subjects t.capabilities.subjects
        boards := listed .boards t.capabilities.boards
        classes := listed .classes t.capabilities.classes
        modes := listed .modes t.capabilities.modes }
    fee := { t.fee with
      minimum := kept .feeMinimum t.fee.minimum
      maximum := kept .feeMaximum t.fee.maximum }
    availability := kept .availability t.availability }

variable {p : Platform} {m : Measures} {t : TutorCandidate} {c : EvaluationContext}
  {fields : Finset ProfileField}

/-! ## Rules that are silent about what is missing -/

theorem subjectSupported_erase (h : subjectSupported p t c = none) :
    subjectSupported p (t.erase fields) c = none := by
  by_cases hf : ProfileField.subjects ∈ fields
  · simp [subjectSupported, TutorCandidate.erase, hf]
  · simpa [subjectSupported, TutorCandidate.erase, hf] using h

theorem classSupported_erase (h : classSupported p t c = none) :
    classSupported p (t.erase fields) c = none := by
  by_cases hf : ProfileField.classes ∈ fields
  · simp [classSupported, TutorCandidate.erase, hf]
  · simpa [classSupported, TutorCandidate.erase, hf] using h

theorem boardSupported_erase (h : boardSupported p t c = none) :
    boardSupported p (t.erase fields) c = none := by
  by_cases hf : ProfileField.boards ∈ fields
  · simp [boardSupported, TutorCandidate.erase, hf]
  · simpa [boardSupported, TutorCandidate.erase, hf] using h

theorem supportsMode_erase {mode : TuitionMode} (h : t.supportsMode mode = true) :
    (t.erase fields).supportsMode mode = true := by
  by_cases hf : ProfileField.modes ∈ fields
  · simp [TutorCandidate.supportsMode, TutorCandidate.erase, hf]
  · simpa [TutorCandidate.supportsMode, TutorCandidate.erase, hf] using h

theorem modeSupported_erase (h : modeSupported t c = none) :
    modeSupported (t.erase fields) c = none := by
  unfold modeSupported at h ⊢
  dsimp only at h ⊢
  split
  · rfl
  · rename_i husable
    rw [if_neg husable] at h
    split
    · rfl
    · rename_i required hrequired
      rw [hrequired] at h
      dsimp only at h
      cases hmode : t.supportsMode required with
      | true => exact if_pos (supportsMode_erase hmode)
      | false =>
        rw [hmode] at h
        cases h

theorem genderIfRequested_erase (h : genderIfRequested p t c = none) :
    genderIfRequested p (t.erase fields) c = none := by
  by_cases hf : ProfileField.gender ∈ fields
  · simp [genderIfRequested, TutorCandidate.erase, present, hf]
  · simpa [genderIfRequested, TutorCandidate.erase, hf] using h

theorem cityReachable_erase (h : cityReachable p t c = none) :
    cityReachable p (t.erase fields) c = none := by
  by_cases hf : ProfileField.city ∈ fields
  · simp [cityReachable, TutorCandidate.erase, present, hf]
  · simpa [cityReachable, TutorCandidate.erase, hf] using h

theorem feeWithinNegotiableRange_of_floor (h : t.fee.minimum = none) :
    feeWithinNegotiableRange m t c = none := by
  unfold feeWithinNegotiableRange
  rw [h]
  dsimp only
  split
  · rfl
  · cases c.requirement.budget.maximum <;> rfl

/-- The ceiling of a fee is never compared, but a fee with neither bound is no fee. -/
theorem feeWithinNegotiableRange_erase (h : feeWithinNegotiableRange m t c = none) :
    feeWithinNegotiableRange m (t.erase fields) c = none := by
  by_cases hf : ProfileField.feeMinimum ∈ fields
  · exact feeWithinNegotiableRange_of_floor (if_pos hf)
  · have hkept : (t.erase fields).fee.minimum = t.fee.minimum := if_neg hf
    cases hfloor : t.fee.minimum with
    | none => exact feeWithinNegotiableRange_of_floor (hkept.trans hfloor)
    | some floor =>
      -- with the floor known, the fee is one with or without its ceiling
      simpa [feeWithinNegotiableRange, TutorCandidate.erase, FeeBand.truthy, hf, hfloor] using h

/-! ## The radius that stands in -/

/-- The tutor's city, if it is still known. -/
def cityAfter (t : TutorCandidate) (fields : Finset ProfileField) : Option String :=
  if .city ∈ fields then none else t.city

/-- The tutor's own radius is still known, or it never was and the tier of its city has not
changed. -/
def KeepsRadius (t : TutorCandidate) (fields : Finset ProfileField) : Prop :=
  if (t.travelRadiusKm.filter (· ≠ 0)).isSome then .travelRadiusKm ∉ fields
  else present (cityAfter t fields) = present t.city

instance : Decidable (KeepsRadius t fields) := by
  unfold KeepsRadius
  infer_instance

/-- The radius of the policy, cut to what the parent accepts. -/
def policyRadius (p : Platform) (c : EvaluationContext) (city : Option String) : Rat :=
  let radius := c.policy.proximity.radiusFor
    (cityTier p (if present city then city else c.requirement.location.city))
  match c.requirement.location.maxTravelKm.filter (· ≠ 0) with
  | some parentLimit => min radius parentLimit
  | none => radius

/-- Nothing that is erased brings the tutor out of reach. -/
def StaysInReach (p : Platform) (m : Measures) (t : TutorCandidate) (c : EvaluationContext)
    (fields : Finset ProfileField) : Prop :=
  c.requirement.modeValue ≠ some .home ∨ c.requirement.location.hasCoordinates = false ∨
    .geo ∈ fields ∨ KeepsRadius t fields ∨
    ∀ point ∈ t.geo, m.haversineKm (parentPoint c.requirement.location) point
      ≤ clamp (policyRadius p c (cityAfter t fields) * (3 / 2)) 1 100

theorem effectiveRadius_erase_of_keepsRadius (h : KeepsRadius t fields) :
    effectiveRadius p (t.erase fields) c = effectiveRadius p t c := by
  unfold KeepsRadius at h
  split at h
  · rename_i hradius
    obtain ⟨radius, hradius⟩ := Option.isSome_iff_exists.mp hradius
    simp only [effectiveRadius, TutorCandidate.erase, if_neg h, hradius, Option.getD_some]
  · rename_i hradius
    rw [Option.not_isSome_iff_eq_none] at hradius
    have hradius' : ((t.erase fields).travelRadiusKm).filter (· ≠ 0) = none := by
      by_cases hf : ProfileField.travelRadiusKm ∈ fields
      · simp only [TutorCandidate.erase, if_pos hf, Option.filter_none]
      · simp only [TutorCandidate.erase, if_neg hf, hradius]
    have hcity : (if present (t.erase fields).city then (t.erase fields).city
          else c.requirement.location.city)
        = if present t.city then t.city else c.requirement.location.city := by
      have hafter : (t.erase fields).city = cityAfter t fields := rfl
      rw [hafter, h]
      by_cases hf : ProfileField.city ∈ fields
      · have habsent : present t.city = false := by
          rw [← h, cityAfter, if_pos hf]
          rfl
        rw [habsent]
        rfl
      · rw [cityAfter, if_neg hf]
    rw [effectiveRadius, effectiveRadius, hradius, hradius', hcity]

theorem effectiveRadius_erase_of_not_keepsRadius (h : ¬KeepsRadius t fields) :
    effectiveRadius p (t.erase fields) c = policyRadius p c (cityAfter t fields) := by
  have hradius : ((t.erase fields).travelRadiusKm).filter (· ≠ 0) = none := by
    unfold KeepsRadius at h
    split at h
    · simp only [TutorCandidate.erase, if_pos (not_not.mp h), Option.filter_none]
    · rename_i hradius
      rw [Option.not_isSome_iff_eq_none] at hradius
      by_cases hf : ProfileField.travelRadiusKm ∈ fields
      · simp only [TutorCandidate.erase, if_pos hf, Option.filter_none]
      · simp only [TutorCandidate.erase, if_neg hf, hradius]
  rw [effectiveRadius, hradius]
  rfl

/-- What the last rule says of a tutor it has let pass, once fields are erased. -/
theorem withinTravelRadius_erase_iff (h : withinTravelRadius p m t c = none) :
    withinTravelRadius p m (t.erase fields) c = none ↔ StaysInReach p m t c fields := by
  rw [withinTravelRadius_eq_none_iff] at h ⊢
  unfold StaysInReach
  by_cases hgeo : ProfileField.geo ∈ fields
  · have herased : (t.erase fields).geo = none := if_pos hgeo
    rw [herased]
    simp [hgeo]
  · have hkept : (t.erase fields).geo = t.geo := if_neg hgeo
    rw [hkept]
    by_cases hradius : KeepsRadius t fields
    · rw [effectiveRadius_erase_of_keepsRadius hradius]
      exact ⟨fun _ => .inr (.inr (.inr (.inl hradius))), fun _ => h⟩
    · rw [effectiveRadius_erase_of_not_keepsRadius hradius]
      simp only [hgeo, hradius, false_or]

/-! ## The law -/

/-- **A tutor stays accepted** when fields are erased exactly if none of it brings them out of
reach, and applying the rules partitions every list of candidates. -/
theorem accepted_erase_iff (p : Platform) (m : Measures) (c : EvaluationContext) :
    (∀ (t : TutorCandidate) (fields : Finset ProfileField), accepted p m t c →
      (accepted p m (t.erase fields) c ↔ StaysInReach p m t c fields)) ∧
    ∀ candidates, Partitioned p m c candidates (apply p m candidates c) := by
  refine ⟨fun t fields h => ?_, partitioned_apply c⟩
  obtain ⟨hactive, hexplicit, hsubject, hclass, hboard, hmode, hgender, hcity, hfee, hradius⟩ :=
    accepted_iff.mp h
  rw [← withinTravelRadius_erase_iff hradius, accepted_iff]
  constructor
  · rintro ⟨-, -, -, -, -, -, -, -, -, hlast⟩
    exact hlast
  · exact fun hlast => ⟨hactive, hexplicit, subjectSupported_erase hsubject,
      classSupported_erase hclass, boardSupported_erase hboard, modeSupported_erase hmode,
      genderIfRequested_erase hgender, cityReachable_erase hcity,
      feeWithinNegotiableRange_erase hfee, hlast⟩

/-! ## A tutor who travels far -/

/-- Home tuition in Pune. -/
def atHomeInPune : EvaluationContext where
  requirement :=
    { conversationId := "c1", mode := some { value := .home },
      location :=
        { city := some "Pune", latitude := some (185 / 10), longitude := some (738 / 10) } }
  policy := basePolicy

/-- A tutor who comes from twenty km away. -/
def farTraveller : TutorCandidate where
  tutorId := "t1"
  publicRef := "dDEtbnh0"
  name := "Asha"
  city := some "Pune"
  geo := some ⟨1868 / 100, 738 / 10, "pincode"⟩
  travelRadiusKm := some 30
  freshness := .fresh

/-- Without the radius of thirty km, eight km stand in, and the tutor is out of reach. -/
theorem radius_substituted :
    accepted ascii meridian farTraveller atHomeInPune ∧
      ¬accepted ascii meridian (farTraveller.erase {.travelRadiusKm}) atHomeInPune := by
  decide +kernel

theorem farTraveller_erase :
    accepted ascii meridian (farTraveller.erase {.gender, .city}) atHomeInPune ↔
      StaysInReach ascii meridian farTraveller atHomeInPune {.gender, .city} :=
  (accepted_erase_iff ascii meridian atHomeInPune).1 farTraveller {.gender, .city} (by decide +kernel)

end NxTutors.Matching
