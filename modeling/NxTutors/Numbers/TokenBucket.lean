import Mathlib.Algebra.Order.Field.Basic
import Mathlib.Algebra.Order.BigOperators.Group.List
import Mathlib.Tactic.Linarith
import Mathlib.Tactic.Ring

/-!
# Token buckets

A bucket holds at most its capacity, and fills at a constant rate until it is full. A request takes
its cost out of the bucket if there is as much in it, and is refused if there is not. What is taken
out within an interval is at most what the bucket can hold and what flows into it meanwhile.

An implementation need not store how full the bucket is now. It *shows* a level at a time when it
would find from then on what a bucket with that level would hold.
-/

set_option linter.unusedSectionVars false

namespace TokenBucket

variable {K : Type} [Field K] [LinearOrder K] [IsStrictOrderedRing K]

/-- How much a bucket holds, and how fast it fills. -/
structure Limits (K : Type) where
  capacity : K
  refill : K

/-- A request for so much at a time. -/
structure Request (K : Type) where
  time : K
  cost : K

namespace Limits

variable {limits : Limits K} {level elapsed more cost t u : K} {view : K → K}

/-! ## Filling -/

/-- The level after some time. -/
def refilled (limits : Limits K) (level elapsed : K) : K :=
  min limits.capacity (level + elapsed * limits.refill)

theorem refilled_le_capacity : limits.refilled level elapsed ≤ limits.capacity :=
  min_le_left _ _

theorem refilled_le_add : limits.refilled level elapsed ≤ level + elapsed * limits.refill :=
  min_le_right _ _

theorem refilled_nonneg (hcapacity : 0 ≤ limits.capacity) (hrefill : 0 ≤ limits.refill)
    (hlevel : 0 ≤ level) (helapsed : 0 ≤ elapsed) : 0 ≤ limits.refilled level elapsed :=
  le_min hcapacity (add_nonneg hlevel (mul_nonneg helapsed hrefill))

/-- A full bucket stays full. -/
theorem refilled_capacity (hrefill : 0 ≤ limits.refill) (helapsed : 0 ≤ elapsed) :
    limits.refilled limits.capacity elapsed = limits.capacity := by
  have hflow : 0 ≤ elapsed * limits.refill := mul_nonneg helapsed hrefill
  exact min_eq_left (by linarith)

/-- **Filling twice is filling once**: what overflows the first time would overflow at the end. -/
theorem refilled_refilled (hrefill : 0 ≤ limits.refill) (hmore : 0 ≤ more) :
    limits.refilled (limits.refilled level elapsed) more
      = limits.refilled level (elapsed + more) := by
  have hflow : 0 ≤ more * limits.refill := mul_nonneg hmore hrefill
  unfold refilled
  rw [min_add, ← min_assoc, min_eq_left (a := limits.capacity) (by linarith), add_mul, add_assoc]

/-- There is enough as soon as what is missing has flown in. -/
theorem le_refilled_of_missing (hrefill : 0 < limits.refill) (hcost : cost ≤ limits.capacity)
    (helapsed : (cost - level) / limits.refill ≤ elapsed) : cost ≤ limits.refilled level elapsed := by
  have hflow : cost - level ≤ elapsed * limits.refill := (div_le_iff₀ hrefill).mp helapsed
  exact le_min hcost (by linarith)

/-! ## What an implementation shows -/

/-- From a time on, what is found is what a bucket with that level would hold. -/
def Shows (limits : Limits K) (view : K → K) (t level : K) : Prop :=
  ∀ u, t ≤ u → view u = limits.refilled level (u - t)

/-- A bucket that shows a level shows, later, what it then holds. -/
theorem Shows.later (h : limits.Shows view t level) (hrefill : 0 ≤ limits.refill) (htu : t ≤ u) :
    limits.Shows view u (limits.refilled level (u - t)) := by
  intro v huv
  rw [refilled_refilled hrefill (sub_nonneg.mpr huv), h v (htu.trans huv)]
  congr 1
  ring

/-! ## Requests -/

/-- Whether a request is granted, of a bucket that holds so much. -/
def grants (level cost : K) : Bool := !decide (level < cost)

/-- What a request leaves. -/
def left (level cost : K) : K := if level < cost then level else level - cost

theorem left_le (hcost : 0 ≤ cost) : left level cost ≤ level := by
  unfold left
  split
  · exact le_rfl
  · linarith

theorem left_nonneg (hlevel : 0 ≤ level) : 0 ≤ left level cost := by
  unfold left
  split
  · exact hlevel
  · linarith

/-- What is taken is what is no longer there. -/
theorem taken_add_left (level cost : K) :
    (if grants level cost then cost else 0) + left level cost = level := by
  by_cases h : level < cost
  · simp [grants, left, h]
  · simp [grants, left, h]

/-- Which requests are granted, of a bucket with a level at a time. -/
def run (limits : Limits K) (t level : K) : List (Request K) → List Bool
  | [] => []
  | r :: rs =>
    let now := limits.refilled level (r.time - t)
    grants now r.cost :: limits.run r.time (left now r.cost) rs

/-- What is granted of these requests from one time to another. -/
def grantedWithin (start stop : K) (requests : List (Request K)) (answers : List Bool) : K :=
  ((requests.zip answers).map fun p =>
    if p.2 ∧ start ≤ p.1.time ∧ p.1.time ≤ stop then p.1.cost else 0).sum

/-! ## The bound -/

variable {start stop : K} {r : Request K} {rs : List (Request K)} {answers : List Bool}

theorem grantedWithin_cons (b : Bool) : grantedWithin start stop (r :: rs) (b :: answers)
    = (if b ∧ start ≤ r.time ∧ r.time ≤ stop then r.cost else 0)
      + grantedWithin start stop rs answers := by
  rw [grantedWithin, List.zip_cons_cons, List.map_cons, List.sum_cons, grantedWithin]

/-- Nothing is granted too late to count. -/
theorem grantedWithin_late (h : ∀ r ∈ rs, stop < r.time) :
    grantedWithin start stop rs answers = 0 := by
  induction rs generalizing answers with
  | nil => rfl
  | cons r rs ih =>
    cases answers with
    | nil => rfl
    | cons b answers =>
      have hlate : ¬r.time ≤ stop := not_le.mpr (h r List.mem_cons_self)
      rw [grantedWithin_cons, ih fun r hr => h r (List.mem_cons_of_mem _ hr)]
      simp [hlate]

/-- Requests that come one after the other, from a time on. -/
def Ordered (t : K) (rs : List (Request K)) : Prop :=
  List.Pairwise (· ≤ ·) (t :: rs.map Request.time)

theorem Ordered.head (h : Ordered t (r :: rs)) : t ≤ r.time :=
  List.rel_of_pairwise_cons h (by simp)

theorem Ordered.tail (h : Ordered t (r :: rs)) : Ordered r.time rs :=
  (List.pairwise_cons.mp h).2

theorem Ordered.le (h : Ordered t rs) (hr : r ∈ rs) : t ≤ r.time :=
  List.rel_of_pairwise_cons h (List.mem_map_of_mem hr)

/-- Until a time, no more is granted than was in the bucket and flows into it. -/
theorem grantedWithin_le_level (hcapacity : 0 ≤ limits.capacity) (hrefill : 0 ≤ limits.refill)
    (hlevel : 0 ≤ level) (hordered : Ordered t rs) (hcosts : ∀ r ∈ rs, 0 ≤ r.cost)
    (hstop : t ≤ stop) :
    grantedWithin start stop rs (limits.run t level rs)
      ≤ level + (stop - t) * limits.refill := by
  induction rs generalizing t level with
  | nil =>
    have hflow : 0 ≤ (stop - t) * limits.refill := mul_nonneg (sub_nonneg.mpr hstop) hrefill
    change (0 : K) ≤ _
    linarith
  | cons r rs ih =>
    have htr : t ≤ r.time := hordered.head
    have hnow : 0 ≤ limits.refilled level (r.time - t) :=
      refilled_nonneg hcapacity hrefill hlevel (sub_nonneg.mpr htr)
    by_cases hr : r.time ≤ stop
    · -- what is taken now is no longer there for the rest
      have hleft : 0 ≤ left (limits.refilled level (r.time - t)) r.cost := left_nonneg hnow
      have hrest := ih hleft hordered.tail (fun r hr => hcosts r (List.mem_cons_of_mem _ hr)) hr
      have htaken : (if grants (limits.refilled level (r.time - t)) r.cost ∧ start ≤ r.time
            ∧ r.time ≤ stop then r.cost else 0)
          ≤ if grants (limits.refilled level (r.time - t)) r.cost then r.cost else 0 := by
        have hcost : 0 ≤ r.cost := hcosts r List.mem_cons_self
        split <;> split <;> simp_all
      have hsplit := taken_add_left (limits.refilled level (r.time - t)) r.cost
      have hfill : limits.refilled level (r.time - t) ≤ level + (r.time - t) * limits.refill :=
        refilled_le_add
      have htimes : (r.time - t) * limits.refill + (stop - r.time) * limits.refill
          = (stop - t) * limits.refill := by ring
      rw [run, grantedWithin_cons]
      linarith
    · have hlate : grantedWithin start stop (r :: rs) (limits.run t level (r :: rs)) = 0 := by
        refine grantedWithin_late fun r' hr' => ?_
        rcases List.mem_cons.mp hr' with rfl | hr'
        · exact not_le.mp hr
        · exact (not_le.mp hr).trans_le (hordered.tail.le hr')
      have hflow : 0 ≤ (stop - t) * limits.refill := mul_nonneg (sub_nonneg.mpr hstop) hrefill
      rw [hlate]
      linarith

/-- **The bound**: within any interval no more is granted than the bucket holds and what flows into
it meanwhile. -/
theorem grantedWithin_le (hcapacity : 0 ≤ limits.capacity) (hrefill : 0 ≤ limits.refill)
    (hlevel : 0 ≤ level) (hordered : Ordered t rs) (hcosts : ∀ r ∈ rs, 0 ≤ r.cost)
    (hstop : start ≤ stop) :
    grantedWithin start stop rs (limits.run t level rs)
      ≤ limits.capacity + (stop - start) * limits.refill := by
  have hflow : 0 ≤ (stop - start) * limits.refill := mul_nonneg (sub_nonneg.mpr hstop) hrefill
  induction rs generalizing t level with
  | nil =>
    change (0 : K) ≤ _
    linarith
  | cons r rs ih =>
    have hnow : 0 ≤ limits.refilled level (r.time - t) :=
      refilled_nonneg hcapacity hrefill hlevel (sub_nonneg.mpr hordered.head)
    have hrest : ∀ r ∈ rs, 0 ≤ r.cost := fun r hr => hcosts r (List.mem_cons_of_mem _ hr)
    have hleft : 0 ≤ left (limits.refilled level (r.time - t)) r.cost := left_nonneg hnow
    rw [run, grantedWithin_cons]
    by_cases hinside : start ≤ r.time ∧ r.time ≤ stop
    · -- the first request that counts: from here on the level is what bounds it
      have hbound : grantedWithin start stop rs
          (limits.run r.time (left (limits.refilled level (r.time - t)) r.cost) rs)
            ≤ left (limits.refilled level (r.time - t)) r.cost + (stop - r.time) * limits.refill :=
        grantedWithin_le_level hcapacity hrefill hleft hordered.tail hrest hinside.2
      have hsplit := taken_add_left (limits.refilled level (r.time - t)) r.cost
      have hfull : limits.refilled level (r.time - t) ≤ limits.capacity := refilled_le_capacity
      have hlater : (stop - r.time) * limits.refill ≤ (stop - start) * limits.refill :=
        mul_le_mul_of_nonneg_right (by linarith [hinside.1]) hrefill
      simp only [hinside, and_true]
      linarith
    · rw [if_neg fun h => hinside h.2, zero_add]
      exact ih hleft hordered.tail hrest

end Limits

end TokenBucket
