import NxTutors.Matching.Reviews

/-!
# Rows without an overall rating

A row that has only one of the other ratings is counted, and the average is then mixed with the
prior as if it had been made of so many ratings. So such rows make the score differ, unless nothing
is scored by ratings at all, or the average is what the prior is, or they change neither how many
rows there are nor how old the latest is (`only_real_ratings_iff`).
-/

namespace NxTutors.Matching.Reviews

open Text MatchAgent
open Numbers (Numerals)

/-- Without any rounding. -/
def exactly : Nat → Rat → Rat := fun _ x => x

/-! ## Means and weights -/

section Weights

variable {K : Type} [Field K] [LinearOrder K] [IsStrictOrderedRing K]

/-- How much `n` things weigh beside a prior. -/
def weight (n w : K) : K := n / (n + w)

variable {n n' w x m : K}

theorem weight_pos (hn : 0 < n) (hw : 0 ≤ w) : 0 < weight n w :=
  div_pos hn (add_pos_of_pos_of_nonneg hn hw)

theorem weight_le_one (hn : 0 < n) (hw : 0 ≤ w) : weight n w ≤ 1 :=
  (div_le_one₀ (add_pos_of_pos_of_nonneg hn hw)).mpr (le_add_of_nonneg_right hw)

theorem weight_lt_one (hn : 0 < n) (hw : 0 < w) : weight n w < 1 :=
  (div_lt_one₀ (add_pos hn hw)).mpr (lt_add_of_pos_right n hw)

/-- What is mixed with a prior has moved away from it by its weight. -/
theorem mixed_eq (hn : 0 < n) (hw : 0 ≤ w) :
    (n * x + w * m) / (n + w) = m + weight n w * (x - m) := by
  have hpos := add_pos_of_pos_of_nonneg hn hw
  rw [weight, div_eq_iff hpos.ne']
  field_simp
  ring

/-- More things weigh more. -/
theorem weight_lt_weight (hn : 0 < n) (hlt : n < n') (hw : 0 < w) : weight n w < weight n' w := by
  rw [weight, weight, div_lt_div_iff₀ (add_pos hn hw) (add_pos (hn.trans hlt) hw)]
  nlinarith [mul_lt_mul_of_pos_right hlt hw]

theorem weight_le_weight (hn : 0 < n) (hle : n ≤ n') (hw : 0 ≤ w) : weight n w ≤ weight n' w := by
  rw [weight, weight, div_le_div_iff₀ (add_pos_of_pos_of_nonneg hn hw)
    (add_pos_of_pos_of_nonneg (hn.trans_le hle) hw)]
  nlinarith [mul_le_mul_of_nonneg_right hle hw]

/-- They weigh the same only if they are as many, or there is no prior. -/
theorem weight_eq_weight_iff (hn : 0 < n) (hle : n ≤ n') (hw : 0 ≤ w) :
    weight n w = weight n' w ↔ n' = n ∨ w = 0 := by
  constructor
  · intro h
    rcases hle.eq_or_lt with hsame | hlt
    · exact .inl hsame.symm
    · rcases hw.eq_or_lt with hzero | hpos
      · exact .inr hzero.symm
      · exact absurd h (weight_lt_weight hn hlt hpos).ne
  · rintro (rfl | rfl)
    · rfl
    · rw [weight, weight, add_zero, add_zero, div_self hn.ne', div_self (hn.trans_le hle).ne']

/-- Two products of factors that are no greater are the same only if the factors are. -/
theorem mul_eq_mul_iff_of_le {a b c d : K} (hb : 0 < b) (hc : 0 < c) (hac : a ≤ c) (hbd : b ≤ d) :
    a * b = c * d ↔ a = c ∧ b = d := by
  constructor
  · intro h
    have hleft : a * b ≤ c * b := mul_le_mul_of_nonneg_right hac hb.le
    have hright : c * b ≤ c * d := mul_le_mul_of_nonneg_left hbd hc.le
    have hfirst : a * b = c * b := le_antisymm hleft (h ▸ hright)
    have hsecond : c * b = c * d := le_antisymm hright (h ▸ hleft)
    exact ⟨mul_right_cancel₀ hb.ne' hfirst, mul_left_cancel₀ hc.ne' hsecond⟩
  · rintro ⟨rfl, rfl⟩
    rfl

/-- Strictly between two numbers, whichever is the greater. -/
def Between (a s b : K) : Prop := a < s ∧ s < b ∨ b < s ∧ s < a

/-- On the way from one number to another. -/
theorem between_of_lt {u v : K} (hu : u < v) (hv : v < 1) (hne : x ≠ m) :
    Between (m + u * (x - m)) (m + v * (x - m)) x := by
  rcases lt_or_gt_of_ne hne with hlt | hlt
  · right
    constructor
    · nlinarith
    · nlinarith
  · left
    constructor
    · nlinarith
    · nlinarith

end Weights

/-! ## What is collected -/

section Collecting

variable (t : Numerals)

/-- The overall ratings that can be read. -/
def ratingsOf (reviews : List RawReview) : List Rat :=
  reviews.filterMap fun review => parseRating t review.rating

/-- The dates that can be read, of some of the rows. -/
def datesOf (among : RawReview → Bool) (reviews : List RawReview) : List Time :=
  (reviews.filter among).filterMap fun review => parseReviewDate t review.date

variable {t}

/-- A row that counts for nothing has none of the ratings. -/
theorem parseRating_of_not_counts {review : RawReview} (h : review.counts t = false) :
    parseRating t review.rating = none ∧ parseRating t review.reliability = none := by
  have hnone : ∀ r ∈ review.ratings t, r = none := by
    intro r hr
    have hsome : ¬ r.isSome = true := fun hsome =>
      Bool.false_ne_true (h ▸ List.any_eq_true.mpr ⟨r, hr, hsome⟩)
    exact Option.not_isSome_iff_eq_none.mp hsome
  exact ⟨hnone _ (by simp [RawReview.ratings]), hnone _ (by simp [RawReview.ratings])⟩

theorem counts_of_rated {review : RawReview} (h : review.rated t = true) :
    review.counts t = true :=
  List.any_eq_true.mpr ⟨_, by simp [RawReview.ratings], h⟩

/-- The latest of some dates, and one more. -/
theorem later_max? (dates : List Time) (when' : Option Time) :
    later dates.max? when' = (dates ++ when'.toList).max? := by
  cases when' with
  | none =>
    rw [Option.toList_none, List.append_nil]
    rfl
  | some w =>
    rw [Option.toList_some]
    cases dates with
    | nil => rfl
    | cons d ds =>
      rw [List.cons_append, List.max?_cons', List.max?_cons', List.foldl_concat]
      show (if _ < w then some w else some _) = _
      split
      · rename_i hlt
        rw [max_eq_right hlt.le]
      · rename_i hnot
        rw [max_eq_left (not_lt.mp hnot)]

/-- **What has been collected**, by the rows. -/
theorem foldl_add (reviews : List RawReview) :
    reviews.foldl (Collected.add t) {} =
      ⟨ratingsOf t reviews, reviews.filterMap fun review => parseRating t review.reliability,
        (datesOf t (·.counts t) reviews).max?, reviews.countP (·.counts t)⟩ := by
  induction reviews using List.reverseRecOn with
  | nil => rfl
  | append_singleton reviews review ih =>
    rw [List.foldl_concat, ih, Collected.add]
    split
    · rename_i hcounts
      have hdates : datesOf t (·.counts t) (reviews ++ [review]) =
          datesOf t (·.counts t) reviews ++ (parseReviewDate t review.date).toList := by
        rw [datesOf, List.filter_append, List.filterMap_append, List.filter_cons_of_pos hcounts,
          List.filterMap_cons]
        cases parseReviewDate t review.date <;> rfl
      rw [hdates, ← later_max?]
      simp only [ratingsOf, List.filterMap_append, List.countP_append, List.countP_singleton,
        hcounts, if_pos, List.filterMap_cons, List.filterMap_nil]
      cases parseRating t review.rating <;> cases parseRating t review.reliability <;> rfl
    · rename_i hcounts
      rw [Bool.not_eq_true] at hcounts
      obtain ⟨hrating, hreliability⟩ := parseRating_of_not_counts hcounts
      simp [ratingsOf, datesOf, List.filterMap_append, hcounts, hrating, hreliability]

theorem aggregate_eq (reviews : List RawReview) :
    aggregate t exactly reviews = {
      count := reviews.countP (·.counts t)
      ratingAvg := mean exactly (ratingsOf t reviews)
      reliabilityAvg := mean exactly (reviews.filterMap fun review =>
        parseRating t review.reliability)
      latestReviewAt := (datesOf t (·.counts t) reviews).max? } := by
  rw [aggregate, foldl_add]

/-- What is left once the rows without an overall rating are removed. -/
theorem ratingsOf_rated (reviews : List RawReview) :
    ratingsOf t (reviews.filter (·.rated t)) = ratingsOf t reviews := by
  rw [ratingsOf, ratingsOf, List.filterMap_filter]
  congr 1
  funext review
  rw [RawReview.rated]
  cases parseRating t review.rating <;> rfl

theorem countP_rated (reviews : List RawReview) :
    (reviews.filter (·.rated t)).countP (·.counts t) = reviews.countP (·.rated t) := by
  rw [List.countP_filter]
  refine List.countP_congr fun review _ => ?_
  rw [Bool.and_eq_true]
  exact ⟨fun h => h.2, fun h => ⟨counts_of_rated h, h⟩⟩

theorem datesOf_rated (reviews : List RawReview) :
    datesOf t (·.counts t) (reviews.filter (·.rated t)) = datesOf t (·.rated t) reviews := by
  rw [datesOf, datesOf, List.filter_filter]
  congr 2
  funext review
  cases hrated : review.rated t with
  | false => rw [Bool.and_false]
  | true => rw [Bool.and_true, counts_of_rated hrated]

/-- As many ratings as rows that have one. -/
theorem length_ratingsOf (reviews : List RawReview) :
    (ratingsOf t reviews).length = reviews.countP (·.rated t) := by
  rw [ratingsOf, List.length_filterMap_eq_countP]
  rfl

theorem countP_rated_le (reviews : List RawReview) :
    reviews.countP (·.rated t) ≤ reviews.countP (·.counts t) :=
  List.countP_mono_left fun _ _ h => counts_of_rated h

/-- Ratings that can be read are within their bounds. -/
theorem ratingsOf_mem {reviews : List RawReview} {x : Rat} (h : x ∈ ratingsOf t reviews) :
    0 ≤ x ∧ x ≤ 5 := by
  obtain ⟨review, -, hrating⟩ := List.mem_filterMap.mp h
  obtain ⟨text, -, htext⟩ := Option.bind_eq_some_iff.mp hrating
  split at htext
  · cases htext
  · split at htext
    · split at htext
      · rename_i hbounds
        cases htext
        exact hbounds
      · cases htext
    · cases htext

/-- And so is their mean. -/
theorem mean_mem {xs : List Rat} (h : ∀ x ∈ xs, 0 ≤ x ∧ x ≤ 5) {a : Rat}
    (ha : mean exactly xs = some a) : 0 ≤ a ∧ a ≤ 5 := by
  unfold mean at ha
  split at ha
  · cases ha
  · rename_i hne
    have hpos : (0 : Rat) < xs.length := by exact_mod_cast List.length_pos_iff.mpr hne
    rw [← Option.some.inj ha]
    refine ⟨div_nonneg (List.sum_nonneg fun x hx => (h x hx).1) hpos.le, ?_⟩
    refine (div_le_iff₀ hpos).mpr ?_
    have hsum := List.sum_le_card_nsmul xs 5 fun x hx => (h x hx).2
    rwa [nsmul_eq_mul, mul_comm] at hsum

end Collecting

/-! ## Recency -/

/-- **What half-lives do**: less is left the longer it has been, everything at first, and a quarter
after two of them. -/
structure Halving where
  /-- `0.5 ** x` -/
  halved : Rat → Rat
  zero : halved 0 = 1
  two : halved 2 = 1 / 4
  less : StrictAnti halved

/-- How old something is. What is to come is not old. -/
def ageDays (now at' : Time) : Rat := max 0 ((now - at' : Int) / (86400 * 1000000))

section Recency

variable {h : Halving} {now d d' : Time} {policy : ReviewPrior}

/-- Of the half-lives that have passed, two count. -/
theorem recency_some : recency exactly h.halved now policy (some d) =
    h.halved (min (ageDays now d / policy.recencyHalfLifeDays) 2) := by
  have hpos := policy.recencyHalfLifeDays_mem.1
  have hmax : recency exactly h.halved now policy (some d) =
      max (1 / 4) (h.halved (ageDays now d / policy.recencyHalfLifeDays)) :=
    if_neg hpos.not_ge
  rw [hmax, ← h.two, max_comm, h.less.antitone.map_min]

theorem recency_mem (latest : Option Time) :
    0 < recency exactly h.halved now policy latest ∧
      recency exactly h.halved now policy latest ≤ 1 := by
  cases latest with
  | none => exact ⟨zero_lt_one, le_refl 1⟩
  | some d =>
    have hage : 0 ≤ ageDays now d / policy.recencyHalfLifeDays :=
      div_nonneg (le_max_left _ _) policy.recencyHalfLifeDays_mem.1.le
    rw [recency_some]
    constructor
    · refine lt_of_lt_of_le ?_ (h.less.antitone (min_le_right _ 2))
      rw [h.two]
      norm_num
    · rw [← h.zero]
      exact h.less.antitone (le_min hage zero_le_two)

/-- What is later is as recent, or more. -/
theorem recency_le (hle : d' ≤ d) : recency exactly h.halved now policy (some d') ≤
    recency exactly h.halved now policy (some d) := by
  have hage : ageDays now d ≤ ageDays now d' := by
    refine max_le_max le_rfl (div_le_div_of_nonneg_right ?_ (by norm_num))
    exact_mod_cast Int.sub_le_sub_left hle now
  rw [recency_some, recency_some]
  refine h.less.antitone (min_le_min_right 2 ?_)
  exact div_le_div_of_nonneg_right hage policy.recencyHalfLifeDays_mem.1.le

/-- Two dates that are as recent: equally old, or both of them two half-lives old. -/
def SameAge (now : Time) (policy : ReviewPrior) (d d' : Time) : Prop :=
  ageDays now d = ageDays now d' ∨
    2 * policy.recencyHalfLifeDays ≤ ageDays now d ∧ 2 * policy.recencyHalfLifeDays ≤ ageDays now d'

theorem recency_eq_iff : recency exactly h.halved now policy (some d') =
    recency exactly h.halved now policy (some d) ↔ SameAge now policy d' d := by
  have hpos := policy.recencyHalfLifeDays_mem.1
  rw [recency_some, recency_some, h.less.injective.eq_iff, SameAge, ← le_div_iff₀ hpos,
    ← le_div_iff₀ hpos, ← div_left_inj' hpos.ne' (a := ageDays now d')]
  generalize ageDays now d' / policy.recencyHalfLifeDays = a
  generalize ageDays now d / policy.recencyHalfLifeDays = b
  constructor
  · intro heq
    rcases le_total a 2 with ha | ha
    · rcases le_total b 2 with hb | hb
      · rw [min_eq_left ha, min_eq_left hb] at heq
        exact .inl heq
      · rw [min_eq_left ha, min_eq_right hb] at heq
        exact .inr ⟨heq.ge, hb⟩
    · rcases le_total b 2 with hb | hb
      · rw [min_eq_right ha, min_eq_left hb] at heq
        exact .inr ⟨ha, heq.le⟩
      · exact .inr ⟨ha, hb⟩
  · rintro (rfl | ⟨ha, hb⟩)
    · rfl
    · rw [min_eq_right ha, min_eq_right hb]

end Recency

/-! ## The component -/

section Component

variable {h : Halving} {now : Time} {policy : ReviewPrior} {n : Nat} {x : Rat}
  {reliability : Option Rat} {latest : Option Time}

/-- Exactly: the way from the prior to the mean, by the weight of the count and how recent it
is. -/
theorem ratingComponent_eq (hn : 0 < n) (hmin : policy.minReviewsForRating ≤ n)
    (hx : 0 ≤ x ∧ x ≤ 5) :
    ratingComponent exactly h.halved now policy ⟨n, some x, reliability, latest⟩ =
      some (policy.priorMean / 5 + weight (n : Rat) policy.priorWeight *
        recency exactly h.halved now policy latest * ((x - policy.priorMean) / 5)) := by
  have hcount : (0 : Rat) < n := by exact_mod_cast hn
  obtain ⟨hm, hm'⟩ := policy.priorMean_mem
  have hpos := weight_pos hcount policy.priorWeight_mem.1
  have hone := weight_le_one hcount policy.priorWeight_mem.1
  have hclamp {y : Rat} (hy : 0 ≤ y ∧ y ≤ 5) : clamp (y / 5) 0 1 = y / 5 := by
    have hle : y / 5 ≤ 1 := (div_le_one₀ (by norm_num)).mpr hy.2
    rw [clamp, min_eq_right hle, max_eq_right (div_nonneg hy.1 (by norm_num))]
  have hmixed : 0 ≤ policy.priorMean + weight (n : Rat) policy.priorWeight * (x - policy.priorMean) ∧
      policy.priorMean + weight (n : Rat) policy.priorWeight * (x - policy.priorMean) ≤ 5 := by
    constructor <;> nlinarith [hx.1, hx.2]
  rw [ratingComponent, if_neg hn.ne', if_neg hmin.not_gt, shrunk, if_neg hn.ne', Option.map_some,
    Option.map_some, exactly, mixed_eq hcount policy.priorWeight_mem.1, hclamp hmixed,
    hclamp policy.priorMean_mem]
  congr 1
  ring

/-- Nothing is scored by ratings without ratings, or with too few rows. -/
theorem ratingComponent_eq_none {ratingAvg : Option Rat} :
    ratingComponent exactly h.halved now policy ⟨n, ratingAvg, reliability, latest⟩ = none ↔
      n = 0 ∨ n < policy.minReviewsForRating ∨ ratingAvg = none := by
  unfold ratingComponent shrunk
  split
  · rename_i hzero
    exact iff_of_true rfl (.inl hzero)
  · rename_i hzero
    split
    · rename_i hmin
      exact iff_of_true rfl (.inr (.inl hmin))
    · rename_i hmin
      cases ratingAvg with
      | none => exact iff_of_true rfl (.inr (.inr rfl))
      | some x =>
        refine iff_of_false (by simp) ?_
        rintro (h | h | h)
        · exact hzero h
        · exact hmin h
        · cases h

end Component

/-! ## Only real ratings -/

section Results

variable (t : Numerals) (h : Halving) (now : Time) (policy : ReviewPrior)

/-- The component that some rows come to. -/
def componentOf (reviews : List RawReview) : Option Rat :=
  ratingComponent exactly h.halved now policy (aggregate t exactly reviews)

/-- The rating that some rows are taken to have. -/
def shrunkOf (reviews : List RawReview) : Option Rat :=
  shrunk exactly policy (aggregate t exactly reviews).ratingAvg (aggregate t exactly reviews).count

/-- **The prior pulls, and less so the more there is**: where the mean is not what the prior is, the
shrunk rating is strictly between them, and with more rows of that same rating it has moved further
towards it; and so has the component, if the latest review is the same. -/
def PullsLess (reviews : List RawReview) : Prop :=
  ∀ x, mean exactly (ratingsOf t reviews) = some x → x ≠ policy.priorMean →
    0 < policy.priorWeight → ∃ s, shrunkOf t policy reviews = some s ∧
      Between policy.priorMean s x ∧
      ∀ more : List RawReview, more ≠ [] → (∀ r ∈ more, parseRating t r.rating = some x) →
        ∃ s', shrunkOf t policy (reviews ++ more) = some s' ∧ Between s s' x ∧
          ∀ c, componentOf t h now policy reviews = some c →
            (aggregate t exactly (reviews ++ more)).latestReviewAt =
              (aggregate t exactly reviews).latestReviewAt →
            ∃ c', componentOf t h now policy (reviews ++ more) = some c' ∧ Between c c' (x / 5)

/-- **Rows without an overall rating weigh nothing**: there are not more rows than ratings, or no
prior, and the latest of all is as recent as the latest of those with a rating. Where none of those
has a date, they are as recent as can be, and the age of the others may make up for their number. -/
def WeighNothing (reviews : List RawReview) : Prop :=
  let counted := reviews.countP (·.counts t)
  let rated := reviews.countP (·.rated t)
  match (datesOf t (·.rated t) reviews).max?, (datesOf t (·.counts t) reviews).max? with
  | some latestRated, some latest =>
    (counted = rated ∨ policy.priorWeight = 0) ∧ SameAge now policy latestRated latest
  | none, some latest =>
    rated * (counted + policy.priorWeight) = counted * (rated + policy.priorWeight) *
      h.halved (min (ageDays now latest / policy.recencyHalfLifeDays) 2)
  | _, none => counted = rated ∨ policy.priorWeight = 0

/-- They do no harm. -/
def Harmless (reviews : List RawReview) : Prop :=
  reviews.countP (·.rated t) = 0 ∨
    reviews.countP (·.counts t) < policy.minReviewsForRating ∨
    policy.minReviewsForRating ≤ reviews.countP (·.rated t) ∧
      ((ratingsOf t reviews).sum = policy.priorMean * (ratingsOf t reviews).length ∨
        WeighNothing t h now policy reviews)

variable {t h now policy} {reviews : List RawReview}

/-- The latest date of the rows with a rating is one of all dates. -/
theorem le_latest {latestRated : Time}
    (hrated : (datesOf t (·.rated t) reviews).max? = some latestRated) :
    ∃ latest, (datesOf t (·.counts t) reviews).max? = some latest ∧ latestRated ≤ latest := by
  have hmem : latestRated ∈ datesOf t (·.counts t) reviews := by
    have hmem : latestRated ∈ datesOf t (·.rated t) reviews := List.max?_mem (α := Int) hrated
    obtain ⟨review, hreview, hdate⟩ := List.mem_filterMap.mp hmem
    obtain ⟨hin, hrated⟩ := List.mem_filter.mp hreview
    exact List.mem_filterMap.mpr ⟨review, List.mem_filter.mpr ⟨hin, counts_of_rated hrated⟩, hdate⟩
  cases hlatest : (datesOf t (·.counts t) reviews).max? with
  | none =>
    rw [List.max?_eq_none_iff.mp hlatest] at hmem
    cases hmem
  | some latest => exact ⟨latest, rfl, ((List.max?_eq_some_iff (α := Int)).mp hlatest).2 _ hmem⟩

/-- The two ways from the prior are the same. -/
theorem weighNothing_iff (hrated : 0 < reviews.countP (·.rated t)) :
    weight (reviews.countP (·.counts t) : Rat) policy.priorWeight *
        recency exactly h.halved now policy (datesOf t (·.counts t) reviews).max? =
      weight (reviews.countP (·.rated t) : Rat) policy.priorWeight *
        recency exactly h.halved now policy (datesOf t (·.rated t) reviews).max? ↔
    WeighNothing t h now policy reviews := by
  obtain ⟨k, hk⟩ : ∃ k, k = reviews.countP (·.rated t) := ⟨_, rfl⟩
  obtain ⟨n, hn⟩ : ∃ n, n = reviews.countP (·.counts t) := ⟨_, rfl⟩
  have hle : (k : Rat) ≤ n := by exact_mod_cast hk ▸ hn ▸ countP_rated_le reviews
  have hkpos : (0 : Rat) < k := by exact_mod_cast hk ▸ hrated
  have hnpos : (0 : Rat) < n := hkpos.trans_le hle
  have hw := policy.priorWeight_mem.1
  have hweights := weight_eq_weight_iff hkpos hle hw
  rw [Nat.cast_inj] at hweights
  unfold WeighNothing
  rw [← hk, ← hn]
  dsimp only
  split
  · rename_i latestRated latest hlatestRated hlatest
    obtain ⟨latest', hlatest', hdates⟩ := le_latest hlatestRated
    rw [hlatest, Option.some.injEq] at hlatest'
    rw [hlatestRated, hlatest, eq_comm, mul_eq_mul_iff_of_le (recency_mem _).1 (weight_pos hnpos hw)
        (weight_le_weight hkpos hle hw) (recency_le (hlatest' ▸ hdates)), hweights, recency_eq_iff]
  · rename_i latest hlatestRated hlatest
    rw [hlatestRated, hlatest, recency_some]
    show _ = weight (k : Rat) policy.priorWeight * 1 ↔ _
    rw [mul_one, weight, weight, div_mul_eq_mul_div,
      div_eq_div_iff (add_pos_of_pos_of_nonneg hnpos hw).ne'
        (add_pos_of_pos_of_nonneg hkpos hw).ne', eq_comm, mul_right_comm]
  · rename_i hlatest
    have hlatestRated : (datesOf t (·.rated t) reviews).max? = none := by
      cases hrated : (datesOf t (·.rated t) reviews).max? with
      | none => rfl
      | some latestRated =>
        obtain ⟨latest, hsome, -⟩ := le_latest hrated
        rw [hlatest] at hsome
        cases hsome
    rw [hlatestRated, hlatest, mul_left_inj' (recency_mem none).1.ne', eq_comm, hweights]

/-- There is a mean as soon as there is a rating. -/
theorem exists_mean (hrated : 0 < reviews.countP (·.rated t)) :
    ∃ x, mean exactly (ratingsOf t reviews) = some x ∧ (0 ≤ x ∧ x ≤ 5) ∧ (x = policy.priorMean ↔
        (ratingsOf t reviews).sum = policy.priorMean * (ratingsOf t reviews).length) := by
  rw [← length_ratingsOf] at hrated
  have hpos : (0 : Rat) < (ratingsOf t reviews).length := by exact_mod_cast hrated
  have hmean : mean exactly (ratingsOf t reviews) =
      some ((ratingsOf t reviews).sum / (ratingsOf t reviews).length) :=
    if_neg (List.length_pos_iff.mp hrated)
  exact ⟨_, hmean, mean_mem (fun _ => ratingsOf_mem) hmean, div_eq_iff hpos.ne'⟩

/-- **The component is the one of the real ratings** exactly where the other rows do no harm. -/
theorem componentOf_filter_iff :
    componentOf t h now policy reviews =
      componentOf t h now policy (reviews.filter (·.rated t)) ↔ Harmless t h now policy reviews := by
  have hle := countP_rated_le (t := t) reviews
  rw [componentOf, componentOf, aggregate_eq, aggregate_eq, ratingsOf_rated, countP_rated,
    datesOf_rated, Harmless]
  rcases Nat.eq_zero_or_pos (reviews.countP (·.rated t)) with hzero | hpos
  · have hnil : ratingsOf t reviews = [] :=
      List.length_eq_zero_iff.mp ((length_ratingsOf reviews).trans hzero)
    have hnone : mean exactly (ratingsOf t reviews) = none := by rw [hnil]; rfl
    rw [hnone, ratingComponent_eq_none.mpr (.inr (.inr rfl)),
      ratingComponent_eq_none.mpr (.inr (.inr rfl))]
    exact iff_of_true rfl (.inl hzero)
  obtain ⟨x, hmean, hx, hprior⟩ : ∃ x, mean exactly (ratingsOf t reviews) = some x ∧
      (0 ≤ x ∧ x ≤ 5) ∧ (x = policy.priorMean ↔
        (ratingsOf t reviews).sum = policy.priorMean * (ratingsOf t reviews).length) :=
    exists_mean hpos
  rw [hmean]
  by_cases hfew : reviews.countP (·.counts t) < policy.minReviewsForRating
  · rw [ratingComponent_eq_none.mpr (.inr (.inl hfew)),
      ratingComponent_eq_none.mpr (.inr (.inl (hle.trans_lt hfew)))]
    exact iff_of_true rfl (.inr (.inl hfew))
  rw [ratingComponent_eq (hpos.trans_le hle) (not_lt.mp hfew) hx]
  by_cases hrated : reviews.countP (·.rated t) < policy.minReviewsForRating
  · rw [ratingComponent_eq_none.mpr (.inr (.inl hrated))]
    refine iff_of_false (fun h => by cases h) ?_
    rintro (hzero | hfew' | ⟨hmin, -⟩)
    · exact hpos.ne' hzero
    · exact hfew hfew'
    · exact hrated.not_ge hmin
  rw [ratingComponent_eq hpos (not_lt.mp hrated) hx, Option.some.injEq, add_right_inj,
    mul_eq_mul_right_iff, weighNothing_iff hpos, ← hprior]
  constructor
  · rintro (hweigh | hsame)
    · exact .inr (.inr ⟨not_lt.mp hrated, .inr hweigh⟩)
    · have hdiff : x - policy.priorMean = 0 :=
        (div_eq_zero_iff.mp hsame).resolve_right (by norm_num)
      exact .inr (.inr ⟨not_lt.mp hrated, .inl (sub_eq_zero.mp hdiff)⟩)
  · rintro (hzero | hfew' | ⟨-, hsame | hweigh⟩)
    · exact absurd hzero hpos.ne'
    · exact absurd hfew' hfew
    · right
      rw [hsame, sub_self, zero_div]
    · exact .inl hweigh

/-- The shrunk rating, exactly. -/
theorem shrunkOf_eq {x : Rat} (hmean : mean exactly (ratingsOf t reviews) = some x)
    (hcounts : 0 < reviews.countP (·.counts t)) :
    shrunkOf t policy reviews = some (policy.priorMean +
      weight (reviews.countP (·.counts t) : Rat) policy.priorWeight * (x - policy.priorMean)) := by
  have hpos : (0 : Rat) < (reviews.countP (·.counts t) : Nat) := by exact_mod_cast hcounts
  rw [shrunkOf, aggregate_eq, hmean, shrunk, if_neg hcounts.ne', Option.map_some, exactly,
    mixed_eq hpos policy.priorWeight_mem.1]

/-- More rows of the rating that is the mean. -/
theorem ratingsOf_append {x : Rat} (hmean : mean exactly (ratingsOf t reviews) = some x)
    {more : List RawReview} (hmore : ∀ r ∈ more, parseRating t r.rating = some x) :
    mean exactly (ratingsOf t (reviews ++ more)) = some x ∧
      (reviews ++ more).countP (·.counts t) = reviews.countP (·.counts t) + more.length := by
  have hratings : ratingsOf t more = List.replicate more.length x := by
    induction more with
    | nil => rfl
    | cons r more ih =>
      rw [List.forall_mem_cons] at hmore
      rw [ratingsOf, List.filterMap_cons, hmore.1, ← ratingsOf, ih hmore.2]
      rfl
  have hall : more.countP (·.counts t) = more.length := by
    refine List.countP_eq_length.mpr fun r hr => counts_of_rated ?_
    rw [RawReview.rated, hmore r hr]
    rfl
  refine ⟨?_, by rw [List.countP_append, hall]⟩
  unfold mean at hmean ⊢
  split at hmean
  · cases hmean
  · rename_i hne
    have hsum := Option.some.inj hmean
    have hlength : ((ratingsOf t reviews).length : Rat) ≠ 0 := by
      exact_mod_cast (List.length_pos_iff.mpr hne).ne'
    have happend : ratingsOf t (reviews ++ more) =
        ratingsOf t reviews ++ List.replicate more.length x := by
      rw [← hratings, ratingsOf, List.filterMap_append]
      rfl
    have htotal : ((ratingsOf t reviews).length : Rat) + more.length ≠ 0 := by
      exact_mod_cast (Nat.add_pos_left (List.length_pos_iff.mpr hne) _).ne'
    rw [exactly, div_eq_iff hlength] at hsum
    rw [if_neg (by rw [happend]; exact List.append_ne_nil_of_left_ne_nil hne _), exactly, happend,
      List.sum_append, List.length_append, List.sum_replicate, List.length_replicate,
      Option.some.injEq, Nat.cast_add, div_eq_iff htotal, hsum, nsmul_eq_mul]
    ring

theorem pullsLess : PullsLess t h now policy reviews := by
  intro x hmean hne hw
  have hrated : 0 < reviews.countP (·.rated t) := by
    rw [← length_ratingsOf]
    refine List.length_pos_iff.mpr fun hnil => ?_
    rw [hnil] at hmean
    cases hmean
  have hcounts := hrated.trans_le (countP_rated_le reviews)
  have hx := mean_mem (fun _ => ratingsOf_mem) hmean
  have hpos : (0 : Rat) < (reviews.countP (·.counts t) : Nat) := by exact_mod_cast hcounts
  refine ⟨_, shrunkOf_eq hmean hcounts, ?_, ?_⟩
  · have hbetween := between_of_lt (weight_pos hpos hw.le) (weight_lt_one hpos hw) hne
    rwa [zero_mul, add_zero] at hbetween
  intro more hmore hratings
  obtain ⟨hmean', hcounts'⟩ := ratingsOf_append hmean hratings
  have hlength := List.length_pos_iff.mpr hmore
  have hlt : (reviews.countP (·.counts t) : Rat) <
      ((reviews ++ more).countP (·.counts t) : Nat) := by
    exact_mod_cast hcounts' ▸ Nat.lt_add_of_pos_right hlength
  have hless := weight_lt_weight hpos hlt hw
  have hone := weight_lt_one (hpos.trans hlt) hw
  refine ⟨_, shrunkOf_eq hmean' (by omega), between_of_lt hless hone hne, ?_⟩
  intro c hc hlatest
  have hmin : policy.minReviewsForRating ≤ reviews.countP (·.counts t) := by
    by_contra hfew
    rw [componentOf, aggregate_eq, ratingComponent_eq_none.mpr (.inr (.inl (not_le.mp hfew)))] at hc
    cases hc
  obtain ⟨hrecent, hrecent'⟩ : 0 < recency exactly h.halved now policy
        (aggregate t exactly reviews).latestReviewAt ∧
      recency exactly h.halved now policy (aggregate t exactly reviews).latestReviewAt ≤ 1 :=
    recency_mem _
  rw [aggregate_eq, aggregate_eq] at hlatest
  rw [aggregate_eq] at hrecent hrecent'
  dsimp only at hlatest hrecent hrecent'
  rw [componentOf, aggregate_eq, hmean, ratingComponent_eq hcounts hmin hx] at hc
  refine ⟨_, by rw [componentOf, aggregate_eq, hmean',
    ratingComponent_eq (by omega) (by omega) hx], ?_⟩
  rw [← Option.some.inj hc, hlatest, sub_div]
  refine between_of_lt (mul_lt_mul_of_pos_right hless hrecent) ?_ ?_
  · exact (mul_le_of_le_one_right (weight_pos (hpos.trans hlt) hw.le).le hrecent').trans_lt hone
  · exact fun hsame => hne ((div_left_inj' (by norm_num)).mp hsame)

/-- **Only real ratings carry weight**, and the prior pulls less the more of them there are, exactly
where the rows without one do no harm. -/
theorem only_real_ratings_iff (t : Numerals) (h : Halving) (now : Time) (policy : ReviewPrior)
    (reviews : List RawReview) :
    componentOf t h now policy reviews =
        componentOf t h now policy (reviews.filter (·.rated t)) ∧
      PullsLess t h now policy reviews ↔ Harmless t h now policy reviews :=
  (and_iff_left pullsLess).trans componentOf_filter_iff

end Results

/-! ## One rating and four rows more -/

/-- A line down to a quarter, and a hyperbola from there. -/
def twoPieces : Halving where
  halved x := if x ≤ 2 then 1 - 3 / 8 * x else 1 / (2 * x)
  zero := by norm_num
  two := by norm_num
  less := by
    intro x y hxy
    dsimp only
    split
    · rename_i hy
      rw [if_pos (hxy.le.trans hy)]
      linarith
    · rename_i hy
      rw [not_le] at hy
      split
      · rename_i hx
        have hquarter : 1 / (2 * y) < 1 / 4 := one_div_lt_one_div_of_lt (by norm_num) (by linarith)
        linarith
      · rename_i hx
        rw [not_le] at hx
        exact one_div_lt_one_div_of_lt (by linarith) (by linarith)

theorem five_mem : (0 : Rat) ≤ 5 ∧ (5 : Rat) ≤ 100 := by norm_num

theorem twenty_mem : 1 ≤ 20 ∧ 20 ≤ 500 := by decide

/-- A prior of four that weighs as much as five reviews. -/
def fiveOfFour : ReviewPrior where
  priorMean := 4
  priorWeight := 5
  minReviewsForRating := 1
  fullConfidenceAt := 20
  recencyHalfLifeDays := 365
  priorMean_mem := by norm_num
  priorWeight_mem := five_mem
  minReviewsForRating_le := by decide
  fullConfidenceAt_mem := twenty_mem
  recencyHalfLifeDays_mem := by norm_num

/-- Five stars once, and four rows that only praise the expertise. -/
def praised : List RawReview :=
  { rating := some "5" } :: List.replicate 4 { expertise := some "5" }

/-- Rows without an overall rating make it count for more. -/
theorem praise_counts : ¬ ∀ (now : Time) (policy : ReviewPrior) (reviews : List RawReview),
    componentOf Numbers.asciiNumerals twoPieces now policy reviews =
      componentOf Numbers.asciiNumerals twoPieces now policy
        (reviews.filter (·.rated Numbers.asciiNumerals)) := by
  intro hclaim
  have hread : parseRating Numbers.asciiNumerals (some "5") = some 5 := by decide +kernel
  have hnone : parseRating Numbers.asciiNumerals none = none := rfl
  have hrated : praised.countP (·.rated Numbers.asciiNumerals) = 1 := by
    simp [praised, RawReview.rated, hread, hnone, List.replicate_succ]
  have hcounts : praised.countP (·.counts Numbers.asciiNumerals) = 5 := by
    simp [praised, RawReview.counts, RawReview.ratings, hread, hnone, List.replicate_succ]
  have hratings : ratingsOf Numbers.asciiNumerals praised = [5] := by
    simp [praised, ratingsOf, hread, hnone, List.replicate_succ]
  have hdates (among : RawReview → Bool) : datesOf Numbers.asciiNumerals among praised = [] := by
    refine List.filterMap_eq_nil_iff.mpr fun review hreview => ?_
    have hin : review.date = none := by
      rcases List.mem_cons.mp (List.mem_filter.mp hreview).1 with rfl | hmem
      · rfl
      · rw [(List.mem_replicate.mp hmem).2]
    rw [hin]
    rfl
  have hharmless := componentOf_filter_iff.mp (hclaim 0 fiveOfFour praised)
  rw [Harmless, hrated, hcounts, hratings, WeighNothing, hdates, hdates, hrated, hcounts] at hharmless
  rcases hharmless with hzero | hfew | ⟨-, hsame | hweigh⟩
  · cases hzero
  · exact absurd hfew (by decide)
  · norm_num [fiveOfFour] at hsame
  · norm_num [fiveOfFour] at hweigh

end NxTutors.Matching.Reviews
