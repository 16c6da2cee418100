import NxTutors.Matching.Scores
import Mathlib.Algebra.Order.BigOperators.Group.List
import Mathlib.Tactic.Ring

/-!
# One score out of eight

What a dimension does not claim of its weight, for want of a score or of confidence, is claimed by
the neutral score. So the final score is a weighted mean of what the dimensions say, each of them
mixed with the neutral score by its confidence, `final_eq_mean`. All that is to be known of it can
be read off this form: it stays between zero and one, a better score never lowers it, and not
knowing, hardly knowing and knowing nothing in particular come to the same, `fair_mean`.
-/

namespace NxTutors.Matching.Scoring

/-! ## Policies -/

/-- What a final score is held against, within the bounds of the validator. -/
structure RankingThresholds extends Thresholds where
  minFinalScore : Rat
  shortlistSize : Nat
  minWeightCoverage : Rat
  minDimensionConfidence : Rat
  minFinalScore_mem : 0 ≤ minFinalScore ∧ minFinalScore ≤ 1
  shortlistSize_mem : 1 ≤ shortlistSize ∧ shortlistSize ≤ 5
  minWeightCoverage_mem : 0 ≤ minWeightCoverage ∧ minWeightCoverage ≤ 1
  minDimensionConfidence_mem : 0 ≤ minDimensionConfidence ∧ minDimensionConfidence ≤ 1

/-- How far variety may go, within the bounds of the validator. -/
structure DiversityPolicy where
  enabled : Bool := true
  maxSameLocality : Nat
  maxScoreSacrifice : Rat
  maxSameLocality_mem : 1 ≤ maxSameLocality ∧ maxSameLocality ≤ 5
  maxScoreSacrifice_mem : 0 ≤ maxScoreSacrifice ∧ maxScoreSacrifice ≤ 3 / 10

def WEIGHT_SUM : Rat := 1

def WEIGHT_TOLERANCE : Rat := 1 / 1000000

/-- What candidates are ranked by. The weights are a dictionary, in its order; the validator has
them all there, none of them negative, with a sum of about one. -/
structure RankingPolicy where
  weights : List (Dimension × Rat)
  thresholds : RankingThresholds
  diversity : DiversityPolicy
  keys_nodup : (weights.map Prod.fst).Nodup
  complete : ∀ d : Dimension, d ∈ weights.map Prod.fst
  total : |(weights.map Prod.snd).sum - WEIGHT_SUM| ≤ WEIGHT_TOLERANCE
  nonneg : ∀ x ∈ weights, 0 ≤ x.2

/-- All the weight there is. -/
def RankingPolicy.declared (policy : RankingPolicy) : Rat := (policy.weights.map Prod.snd).sum

/-- The validator leaves some weight. -/
theorem RankingPolicy.declared_pos (policy : RankingPolicy) : 0 < policy.declared := by
  have hlow := (abs_le.mp policy.total).1
  unfold WEIGHT_SUM WEIGHT_TOLERANCE at hlow
  unfold declared
  linarith

/-! ## Candidates -/

/-- A candidate with the scores of its dimensions. -/
structure ScoredCandidate where
  tutorId : String
  publicRef : String
  pseudonym : String
  scores : Dimension → Option SkillScore
  finalScore : Rat
  weightCoverage : Rat
  confidence : Rat
  freshness : Freshness
  flags : List String

/-- What the loop over the weights keeps. -/
structure Totals where
  weightedTotal : Rat := 0
  contributingWeight : Rat := 0
  declaredWeight : Rat := 0
  confidenceNumerator : Rat := 0
  flags : List String := []

section Combine

variable (policy : RankingPolicy) (scores : Dimension → Option SkillScore)

/-- One dimension. Too uncertain a score neither helps nor hurts. -/
def Totals.add (t : Totals) (entry : Dimension × Rat) : Totals :=
  let t := { t with declaredWeight := t.declaredWeight + entry.2 }
  match scores entry.1 with
  | none => { t with flags := t.flags ++ ["missing_dimension:" ++ entry.1.value] }
  | some score =>
    if score.confidence < policy.thresholds.minDimensionConfidence then t
    else
      { t with
        weightedTotal := t.weightedTotal + score.score * (entry.2 * score.confidence)
        contributingWeight := t.contributingWeight + entry.2 * score.confidence
        confidenceNumerator := t.confidenceNumerator + entry.2 * score.confidence
        flags := t.flags ++ score.flags.map (entry.1.value ++ ":" ++ ·) }

def totals : Totals := policy.weights.foldl (Totals.add policy scores) {}

/-- What is computed from the totals. -/
structure Results where
  final : Rat
  coverage : Rat
  confidence : Rat

/-- The weight that is not claimed is filled with the neutral score. -/
def Totals.results (t : Totals) (neutral : Rat) : Results :=
  if t.declaredWeight ≤ 0 then ⟨neutral, 0, 0⟩
  else
    let unclaimed := max 0 (t.declaredWeight - t.contributingWeight)
    { final := (t.weightedTotal + unclaimed * neutral) / t.declaredWeight
      coverage := t.contributingWeight / t.declaredWeight
      confidence := t.confidenceNumerator / t.declaredWeight }

/-- All dimensions. -/
def DIMENSIONS : List Dimension :=
  [.academic, .subjectExpertise, .availability, .proximity, .performance, .personality,
    .negotiation, .replacementRisk]

/-- `combine`, with the rounding to four digits as an argument. -/
def combine (round : Rat → Rat) (tutor : TutorCandidate) (pseudonym : String) : ScoredCandidate :=
  let t := totals policy scores
  let results := t.results policy.thresholds.neutralScore
  let flags := t.flags ++
    (if t.contributingWeight ≤ 0 then ["no_usable_dimensions"] else []) ++
    (if results.coverage < policy.thresholds.minWeightCoverage then ["low_weight_coverage"] else []) ++
    if DIMENSIONS.any fun d => (scores d).any (·.dataQuality = .stale) then ["stale_evidence"]
    else []
  { tutorId := tutor.tutorId
    publicRef := tutor.publicRef
    pseudonym
    scores
    finalScore := round (min 1 (max 0 results.final))
    weightCoverage := round (min 1 results.coverage)
    confidence := round (min 1 results.confidence)
    freshness := tutor.freshness
    flags := flags.eraseDups }

/-! ## A weighted mean -/

/-- How far a dimension is relied on. -/
def reliance (d : Dimension) : Rat :=
  match scores d with
  | none => 0
  | some score =>
    if score.confidence < policy.thresholds.minDimensionConfidence then 0 else score.confidence

/-- **What a dimension says**: its score, mixed with the neutral one. -/
def said (d : Dimension) : Rat :=
  match scores d with
  | none => policy.thresholds.neutralScore
  | some score =>
    score.score * reliance policy scores d
      + (1 - reliance policy scores d) * policy.thresholds.neutralScore

variable {policy scores}

theorem reliance_mem (d : Dimension) :
    0 ≤ reliance policy scores d ∧ reliance policy scores d ≤ 1 := by
  unfold reliance
  cases scores d with
  | none => exact ⟨le_rfl, zero_le_one⟩
  | some score =>
    dsimp only
    split_ifs
    · exact ⟨le_rfl, zero_le_one⟩
    · exact score.confidence_mem

/-- A mixture of two numbers lies where they do. -/
theorem mixture_mem {x n c : Rat} (hx : 0 ≤ x ∧ x ≤ 1) (hn : 0 ≤ n ∧ n ≤ 1) (hc : 0 ≤ c ∧ c ≤ 1) :
    0 ≤ x * c + (1 - c) * n ∧ x * c + (1 - c) * n ≤ 1 := by
  have hrest : 0 ≤ 1 - c := sub_nonneg.mpr hc.2
  refine ⟨add_nonneg (mul_nonneg hx.1 hc.1) (mul_nonneg hrest hn.1), ?_⟩
  have hfirst : x * c ≤ 1 * c := mul_le_mul_of_nonneg_right hx.2 hc.1
  have hsecond : (1 - c) * n ≤ (1 - c) * 1 := mul_le_mul_of_nonneg_left hn.2 hrest
  linarith

theorem said_mem (d : Dimension) : 0 ≤ said policy scores d ∧ said policy scores d ≤ 1 := by
  unfold said
  cases scores d with
  | none => exact policy.thresholds.neutralScore_mem
  | some score =>
    exact mixture_mem score.score_mem policy.thresholds.neutralScore_mem (reliance_mem d)

/-- What the loop adds for one dimension. -/
theorem Totals.add_spec (t : Totals) (entry : Dimension × Rat) :
    (t.add policy scores entry).declaredWeight = t.declaredWeight + entry.2 ∧
      (t.add policy scores entry).contributingWeight
        = t.contributingWeight + entry.2 * reliance policy scores entry.1 ∧
      (t.add policy scores entry).weightedTotal
        = t.weightedTotal + entry.2 * (said policy scores entry.1
          - (1 - reliance policy scores entry.1) * policy.thresholds.neutralScore) := by
  unfold Totals.add said reliance
  cases scores entry.1 with
  | none => simp
  | some score =>
    dsimp only
    split_ifs
    · simp
    · refine ⟨rfl, rfl, ?_⟩
      dsimp only
      ring

/-- The whole loop, by induction on the weights. -/
theorem foldl_totals : ∀ (weights : List (Dimension × Rat)) (t : Totals),
    (weights.foldl (Totals.add policy scores) t).declaredWeight
        = t.declaredWeight + (weights.map Prod.snd).sum ∧
      (weights.foldl (Totals.add policy scores) t).contributingWeight
        = t.contributingWeight + (weights.map fun x => x.2 * reliance policy scores x.1).sum ∧
      (weights.foldl (Totals.add policy scores) t).weightedTotal
        = t.weightedTotal + (weights.map fun x => x.2 * (said policy scores x.1
          - (1 - reliance policy scores x.1) * policy.thresholds.neutralScore)).sum := by
  intro weights
  induction weights with
  | nil => exact fun t => by simp
  | cons entry weights ih =>
    intro t
    obtain ⟨hdeclared, hcontributing, hweighted⟩ := @Totals.add_spec policy scores t entry
    obtain ⟨ihdeclared, ihcontributing, ihweighted⟩ := ih (t.add policy scores entry)
    simp only [List.foldl_cons, List.map_cons, List.sum_cons]
    rw [ihdeclared, ihcontributing, ihweighted, hdeclared, hcontributing, hweighted]
    exact ⟨by ring, by ring, by ring⟩

/-- What is claimed and what is not make up all the weight. -/
theorem sum_said (weights : List (Dimension × Rat)) (neutral : Rat)
    (value trust : Dimension → Rat) :
    (weights.map fun x => x.2 * (value x.1 - (1 - trust x.1) * neutral)).sum
        + ((weights.map Prod.snd).sum - (weights.map fun x => x.2 * trust x.1).sum) * neutral
      = (weights.map fun x => x.2 * value x.1).sum := by
  induction weights with
  | nil => simp
  | cons x weights ih =>
    simp only [List.map_cons, List.sum_cons]
    linarith [ih]

/-- Weights that are not negative keep an inequality. -/
theorem sum_le_sum_weights {weights : List (Dimension × Rat)} (hweights : ∀ x ∈ weights, 0 ≤ x.2)
    {f g : Dimension → Rat} (h : ∀ d, f d ≤ g d) :
    (weights.map fun x => x.2 * f x.1).sum ≤ (weights.map fun x => x.2 * g x.1).sum :=
  List.sum_le_sum fun x hx => mul_le_mul_of_nonneg_left (h x.1) (hweights x hx)

theorem contributing_le :
    (policy.weights.map fun x => x.2 * reliance policy scores x.1).sum ≤ policy.declared := by
  have hone : ∀ d, reliance policy scores d ≤ 1 := fun d => (reliance_mem d).2
  have hsum := sum_le_sum_weights policy.nonneg hone
  simp only [mul_one] at hsum
  exact hsum

/-- **The final score is a weighted mean** of what the dimensions say, and the coverage one of how far
they are relied on. -/
theorem results_eq :
    ((totals policy scores).results policy.thresholds.neutralScore).final
        = (policy.weights.map fun x => x.2 * said policy scores x.1).sum / policy.declared ∧
      ((totals policy scores).results policy.thresholds.neutralScore).coverage
        = (policy.weights.map fun x => x.2 * reliance policy scores x.1).sum / policy.declared := by
  obtain ⟨hdeclared, hcontributing, hweighted⟩ :=
    @foldl_totals policy scores policy.weights {}
  rw [zero_add] at hdeclared hcontributing hweighted
  have hpos := policy.declared_pos
  have hclaimed : max 0 (policy.declared
      - (policy.weights.map fun x => x.2 * reliance policy scores x.1).sum)
      = policy.declared - (policy.weights.map fun x => x.2 * reliance policy scores x.1).sum :=
    max_eq_right (sub_nonneg.mpr contributing_le)
  have hsaid := sum_said policy.weights policy.thresholds.neutralScore (said policy scores)
    (reliance policy scores)
  unfold Totals.results totals
  rw [hdeclared, hcontributing, hweighted, ← RankingPolicy.declared, if_neg (not_le.mpr hpos)]
  dsimp only
  rw [hclaimed]
  rw [← RankingPolicy.declared] at hsaid
  rw [hsaid]
  exact ⟨rfl, rfl⟩

/-! ## What follows -/

theorem mean_mem {f : Dimension → Rat} (h : ∀ d, 0 ≤ f d ∧ f d ≤ 1) :
    0 ≤ (policy.weights.map fun x => x.2 * f x.1).sum / policy.declared ∧
      (policy.weights.map fun x => x.2 * f x.1).sum / policy.declared ≤ 1 := by
  have hpos := policy.declared_pos
  constructor
  · refine div_nonneg (List.sum_nonneg fun y hy => ?_) hpos.le
    obtain ⟨x, hx, rfl⟩ := List.mem_map.mp hy
    exact mul_nonneg (policy.nonneg x hx) (h x.1).1
  · refine (div_le_one₀ hpos).mpr ?_
    have hsum := sum_le_sum_weights policy.nonneg fun d => (h d).2
    simp only [mul_one] at hsum
    exact hsum

variable {tutor : TutorCandidate} {pseudonym : String}

/-- Nothing is cut off. -/
theorem finalScore_combine :
    (combine policy scores id tutor pseudonym).finalScore
      = (policy.weights.map fun x => x.2 * said policy scores x.1).sum / policy.declared := by
  have hmem := @mean_mem policy (said policy scores) said_mem
  have hcombine : (combine policy scores id tutor pseudonym).finalScore =
      min 1 (max 0 ((totals policy scores).results policy.thresholds.neutralScore).final) := rfl
  rw [hcombine, results_eq.1, max_eq_right hmem.1, min_eq_right hmem.2]

theorem weightCoverage_combine :
    (combine policy scores id tutor pseudonym).weightCoverage
      = (policy.weights.map fun x => x.2 * reliance policy scores x.1).sum / policy.declared := by
  have hmem := @mean_mem policy (reliance policy scores) reliance_mem
  have hcombine : (combine policy scores id tutor pseudonym).weightCoverage =
      min 1 ((totals policy scores).results policy.thresholds.neutralScore).coverage := rfl
  rw [hcombine, results_eq.2, min_eq_right hmem.2]

/-- Of another dimension the same is said. -/
theorem said_update_of_ne {d e : Dimension} (h : e ≠ d) (score : Option SkillScore) :
    said policy (Function.update scores d score) e = said policy scores e := by
  unfold said reliance
  rw [Function.update_of_ne h]

/-- A better score of the same confidence says no less. -/
theorem said_le_update {d : Dimension} {score better : SkillScore} (hscore : scores d = some score)
    (hconfidence : better.confidence = score.confidence) (hbetter : score.score ≤ better.score)
    (e : Dimension) :
    said policy scores e ≤ said policy (Function.update scores d (some better)) e := by
  by_cases he : e = d
  · subst he
    have hsame : reliance policy (Function.update scores e (some better)) e =
        reliance policy scores e := by
      unfold reliance
      rw [Function.update_self, hscore]
      dsimp only
      rw [hconfidence]
    have hnonneg : 0 ≤ reliance policy scores e := (reliance_mem e).1
    unfold said
    rw [Function.update_self, hscore, hsame]
    exact add_le_add_left (mul_le_mul_of_nonneg_right hbetter hnonneg) _
  · rw [said_update_of_ne he]

/-- A dimension that is hardly known, or known to be neutral, says what one says that is missing. -/
theorem said_update_ignorant {d : Dimension} {score : SkillScore}
    (h : score.confidence < policy.thresholds.minDimensionConfidence ∨
      score.score = policy.thresholds.neutralScore) (e : Dimension) :
    said policy (Function.update scores d (some score)) e =
      said policy (Function.update scores d none) e := by
  by_cases he : e = d
  · subst he
    have hnone : said policy (Function.update scores e none) e = policy.thresholds.neutralScore := by
      unfold said
      rw [Function.update_self]
    rw [hnone]
    unfold said
    rw [Function.update_self]
    dsimp only
    rcases h with hlow | hneutral
    · have hzero : reliance policy (Function.update scores e (some score)) e = 0 := by
        unfold reliance
        rw [Function.update_self]
        exact if_pos hlow
      rw [hzero, mul_zero, zero_add, sub_zero, one_mul]
    · rw [hneutral]
      ring
  · rw [said_update_of_ne he, said_update_of_ne he]

end Combine

/-- **The combination is a fair weighted mean.** -/
theorem fair_mean (policy : RankingPolicy) (scores : Dimension → Option SkillScore)
    (tutor : TutorCandidate) (pseudonym : String) :
    (combine policy scores id tutor pseudonym).finalScore
        = ((totals policy scores).results policy.thresholds.neutralScore).final ∧
      (combine policy scores id tutor pseudonym).weightCoverage
        = ((totals policy scores).results policy.thresholds.neutralScore).coverage ∧
      (0 ≤ (combine policy scores id tutor pseudonym).finalScore ∧
        (combine policy scores id tutor pseudonym).finalScore ≤ 1) ∧
      (0 ≤ (combine policy scores id tutor pseudonym).weightCoverage ∧
        (combine policy scores id tutor pseudonym).weightCoverage ≤ 1) ∧
      (∀ d score better, scores d = some score → better.confidence = score.confidence →
        score.score ≤ better.score →
          (combine policy scores id tutor pseudonym).finalScore
            ≤ (combine policy (Function.update scores d (some better)) id tutor
                pseudonym).finalScore) ∧
      ∀ d score, score.confidence < policy.thresholds.minDimensionConfidence ∨
          score.score = policy.thresholds.neutralScore →
        (combine policy (Function.update scores d (some score)) id tutor pseudonym).finalScore
          = (combine policy (Function.update scores d none) id tutor pseudonym).finalScore := by
  refine ⟨?_, ?_, ?_, ?_, ?_, ?_⟩
  · rw [finalScore_combine, results_eq.1]
  · rw [weightCoverage_combine, results_eq.2]
  · rw [finalScore_combine]
    exact mean_mem said_mem
  · rw [weightCoverage_combine]
    exact mean_mem reliance_mem
  · intro d score better hscore hconfidence hbetter
    rw [finalScore_combine, finalScore_combine]
    exact div_le_div_of_nonneg_right (sum_le_sum_weights policy.nonneg
      (said_le_update hscore hconfidence hbetter)) policy.declared_pos.le
  · intro d score hignorant
    rw [finalScore_combine, finalScore_combine]
    simp only [said_update_ignorant hignorant]

end NxTutors.Matching.Scoring
