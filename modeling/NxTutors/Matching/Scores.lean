import NxTutors.Matching.Tutors
import Mathlib.Algebra.Order.Field.Rat
import Mathlib.Tactic.Linarith

/-!
# Scores

What a skill says of a tutor: a number from zero to one, how far to trust it, how good the data are,
and the evidence. A score that is said to rest on full data has evidence and one that rests on none
has not, and only full data are trusted beyond 0.85; `build` keeps all of this whatever it is given,
as long as what is said to be full comes with evidence.
-/

namespace NxTutors.Matching

open Text MatchAgent

/-! ## Rounding -/

/-- To the nearest integer, and to the even one of two. -/
def roundHalfEven (x : Rat) : Int :=
  if x - x.floor < 1 / 2 then x.floor
  else if 1 / 2 < x - x.floor then x.floor + 1
  else if x.floor % 2 = 0 then x.floor else x.floor + 1

/-- `round(x, digits)`. -/
def roundTo (digits : Nat) (x : Rat) : Rat := roundHalfEven (x * 10 ^ digits) / 10 ^ digits

section Rounding

variable {x : Rat} {k : Int}

theorem le_roundHalfEven (h : (k : Rat) ≤ x) : k ≤ roundHalfEven x := by
  have hfloor : k ≤ x.floor := Rat.le_floor_iff.mpr h
  unfold roundHalfEven
  split_ifs <;> omega

theorem roundHalfEven_le (h : x ≤ k) : roundHalfEven x ≤ k := by
  have hle : (x.floor : Rat) ≤ x := Rat.floor_le x
  have hfloor : x.floor ≤ k := by exact_mod_cast hle.trans h
  rcases hfloor.lt_or_eq with hlt | heq
  · unfold roundHalfEven
    split_ifs <;> omega
  · -- the number is the integer, so it is not rounded up
    have hx : x = x.floor := le_antisymm (heq ▸ h) hle
    have hzero : x - x.floor < 1 / 2 := by linarith
    rw [roundHalfEven, if_pos hzero]
    exact hfloor

/-- A number between two of so few digits stays between them. -/
theorem roundTo_mem {digits : Nat} {low high : Rat} {l h : Int} (hlow : low * 10 ^ digits = l)
    (hhigh : high * 10 ^ digits = h) (hx : low ≤ x ∧ x ≤ high) :
    low ≤ roundTo digits x ∧ roundTo digits x ≤ high := by
  have hpos : (0 : Rat) < 10 ^ digits := pow_pos (by norm_num) _
  constructor
  · refine (le_div_iff₀ hpos).mpr ?_
    have hle : (l : Rat) ≤ x * 10 ^ digits := hlow ▸ mul_le_mul_of_nonneg_right hx.1 hpos.le
    rw [hlow]
    exact_mod_cast le_roundHalfEven hle
  · refine (div_le_iff₀ hpos).mpr ?_
    have hle : x * 10 ^ digits ≤ h := hhigh ▸ mul_le_mul_of_nonneg_right hx.2 hpos.le
    rw [hhigh]
    exact_mod_cast roundHalfEven_le hle

end Rounding

/-! ## Scores -/

/-- What is scored. -/
inductive Dimension
  | academic | subjectExpertise | availability | proximity | performance | personality
  | negotiation | replacementRisk
  deriving DecidableEq, Repr

def Dimension.value : Dimension → String
  | .academic => "academic"
  | .subjectExpertise => "subject_expertise"
  | .availability => "availability"
  | .proximity => "proximity"
  | .performance => "performance"
  | .personality => "personality"
  | .negotiation => "negotiation"
  | .replacementRisk => "replacement_risk"

/-- `INTERNAL_ONLY_DIMENSIONS`. -/
def INTERNAL_ONLY_DIMENSIONS : List Dimension := [.replacementRisk]

/-- How far the data can be trusted. -/
inductive DataQuality
  | ok
  /-- with gaps -/
  | gaps
  | insufficient | missing | stale
  deriving DecidableEq, Repr

def DataQuality.value : DataQuality → String
  | .ok => "ok"
  | .gaps => "partial"
  | .insufficient => "insufficient"
  | .missing => "missing"
  | .stale => "stale"

/-- `UNQUOTABLE_QUALITY`. -/
def UNQUOTABLE_QUALITY : List DataQuality := [.missing, .insufficient, .stale]

/-- A single fact. -/
structure Evidence where
  source : String
  field : String
  value : String
  observedAt : Option Time := none
  deriving DecidableEq, Repr

/-- With a value that is cut. -/
def evidence (source field value : String) (observedAt : Option Time) : Evidence :=
  ⟨source, field, Text.take value 240, observedAt⟩

/-- **The verdict on one tutor**, as the validator has it. -/
structure SkillScore where
  dimension : Dimension
  score : Rat
  confidence : Rat
  dataQuality : DataQuality
  evidence : List Evidence
  flags : List String
  reasonCodes : List String
  score_mem : 0 ≤ score ∧ score ≤ 1
  confidence_mem : 0 ≤ confidence ∧ confidence ≤ 1
  evidence_of_ok : dataQuality = .ok → evidence ≠ []
  evidence_of_missing : dataQuality = .missing → evidence = []
  confidence_of_not_ok : dataQuality ≠ .ok → confidence ≤ 85 / 100

/-- It may be cited. -/
def SkillScore.quotable (s : SkillScore) : Bool :=
  s.dataQuality ∉ UNQUOTABLE_QUALITY && s.evidence ≠ []

theorem clamp_mem {value low high : Rat} (h : low ≤ high) :
    low ≤ clamp value low high ∧ clamp value low high ≤ high :=
  ⟨le_max_left _ _, max_le h (min_le_left _ _)⟩

/-- `cap_confidence`. -/
def capConfidence (confidence : Rat) (quality : DataQuality) : Rat :=
  let ceiling : Rat := if quality = .ok then 1 else 85 / 100
  roundTo 3 (clamp (min confidence ceiling) 0 1)

section Bounds

variable {x : Rat}

theorem capConfidence_mem {quality : DataQuality} :
    0 ≤ capConfidence x quality ∧ capConfidence x quality ≤ 1 :=
  roundTo_mem (l := 0) (h := 1000) (by norm_num) (by norm_num) (clamp_mem zero_le_one)

theorem capConfidence_of_not_ok {quality : DataQuality} (hquality : quality ≠ .ok) :
    capConfidence x quality ≤ 85 / 100 := by
  have hclamp : clamp (min x (85 / 100)) 0 1 ≤ 85 / 100 :=
    max_le (by norm_num) ((min_le_right _ _).trans (min_le_right _ _))
  unfold capConfidence
  simp only [if_neg hquality]
  exact (roundTo_mem (l := 0) (h := 850) (by norm_num) (by norm_num) ⟨le_max_left _ _, hclamp⟩).2

theorem roundTo_clamp_mem : 0 ≤ roundTo 4 (clamp x 0 1) ∧ roundTo 4 (clamp x 0 1) ≤ 1 :=
  roundTo_mem (l := 0) (h := 10000) (by norm_num) (by norm_num) (clamp_mem zero_le_one)

end Bounds

/-- A score that is as the validator has it. -/
def build (dimension : Dimension) (score confidence : Rat) (quality : DataQuality)
    (evidences : List Evidence) (flags reasons : List String)
    (h : quality = .ok → evidences ≠ []) : SkillScore where
  dimension
  score := roundTo 4 (clamp score 0 1)
  confidence := capConfidence confidence quality
  dataQuality := quality
  evidence := if quality = .missing then [] else evidences
  flags
  reasonCodes := reasons
  score_mem := roundTo_clamp_mem
  confidence_mem := capConfidence_mem
  evidence_of_ok := by
    rintro rfl
    exact h rfl
  evidence_of_missing := by
    rintro rfl
    rfl
  confidence_of_not_ok := capConfidence_of_not_ok

section Build

variable {dimension : Dimension} {score confidence : Rat} {quality : DataQuality}
  {evidences : List Evidence} {flags reasons : List String} {h : quality = .ok → evidences ≠ []}

@[simp] theorem reasonCodes_build :
    (build dimension score confidence quality evidences flags reasons h).reasonCodes = reasons := rfl

@[simp] theorem quotable_build :
    (build dimension score confidence quality evidences flags reasons h).quotable
      = (decide (quality ∉ UNQUOTABLE_QUALITY) && decide (evidences ≠ [])) := by
  cases quality <;> rfl

end Build

end NxTutors.Matching
