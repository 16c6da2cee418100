import NxTutors.DemoAgent.Discounts
import NxTutors.Effect.Path
import NxTutors.Store.Table
import NxTutors.Store.Window
import Mathlib.Algebra.Order.Group.Int

/-!
# How many offers a customer is made

The policy limits the offers a customer is made in so many days. The worker that decides does not
look so many days back: it counts what was offered since the first of January, at the hour it is
now. Decisions are stored by demo, and a demo that is decided on again has one. So the limit holds
while the worker counts enough, and it does not at the turn of the year.
-/

namespace NxTutors.DemoAgent

open Effect Store

/-! ## The decisions that are stored -/

/-- The decisions, one for each demo. -/
abbrev Decisions : Type := Table DiscountDecision.demoId

/-- Whether a decision offers something to a student. -/
def offeredTo (studentRef : String) (d : DiscountDecision) : Bool :=
  d.studentRef = some studentRef && decide (0 < d.percent)

namespace Decisions

/-- What is left of a row when a demo is decided on again. -/
def rewritten (old d : DiscountDecision) : DiscountDecision :=
  { old with
    status := d.status
    bandName := d.bandName
    percent := d.percent
    discountMinor := d.discountMinor
    payableMinor := d.payableMinor
    approvedBy := d.approvedBy
    validUntil := d.validUntil
    decidedAt := d.decidedAt }

def saveDecision (t : Decisions) (d : DiscountDecision) : Decisions :=
  match t.find d.demoId with
  | none => t.put d
  | some old => t.put (rewritten old d)

def offersSince (t : Decisions) (studentRef : Option String) (since : Time) : Nat :=
  match studentRef with
  | none => 0
  | some studentRef =>
    if studentRef = "" then 0
    else countFrom (offeredTo studentRef) DiscountDecision.decidedAt since t.rows

end Decisions

/-! ## The worker -/

/-- The first of January of a year, in days since that of 1970. -/
def firstOfJanuary (year : Int) : Int :=
  365 * (year - 1) + (year - 1) / 4 - (year - 1) / 100 + (year - 1) / 400 - 719162

/-- `now.replace(month=1, day=1)`: the hour stays. -/
def inJanuary (now : Time) : Time := firstOfJanuary (civilDate (now / day)).1 * day + now % day

example : inJanuary (364 * day + hour) = hour := by decide

/-- One run of the worker: when it counts the offers, and when it decides. -/
structure Evaluation where
  case : DiscountCase
  counted : Time
  decided : Time
  deriving DecidableEq, Repr

/-- `_discounts`: the offers are counted, the case is evaluated, and the decision is saved. -/
def discounts (policy : DiscountPolicy) (t : Decisions) (e : Evaluation) : Decisions :=
  match policy.evaluate e.case (t.offersSince e.case.studentRef (inJanuary e.counted)) e.decided with
  | .ok d => t.saveDecision d
  | .error _ => t

/-! ## What is decided -/

section Decided

variable {policy : DiscountPolicy} {c : DiscountCase} {now : Time} {d : DiscountDecision}

/-- **What a decision is about**, and that it offers something only below the limit. -/
structure DecidedOn (c : DiscountCase) (now : Time) (mayOffer : Prop) (d : DiscountDecision) :
    Prop where
  demo : d.demoId = c.demoId
  student : d.studentRef = c.studentRef
  time : d.decidedAt = now
  limit : d.percent ≠ 0 → mayOffer

theorem decision_decided {band : Option DiscountBand} {percent floor : Nat}
    {status : DiscountStatus} {reason : DenialReason} {triggers : List ObjectionCategory}
    {requiresHuman : Bool} {mayOffer : Prop} (hlimit : percent ≠ 0 → mayOffer)
    (h : policy.decision c band percent floor status reason triggers now requiresHuman = .ok d) :
    DecidedOn c now mayOffer d := by
  obtain ⟨rfl, -⟩ := DiscountDecision.validate_iff.mp h
  exact ⟨rfl, rfl, rfl, hlimit⟩

/-- A decision that offers nothing. -/
theorem nothing_decided {floor : Nat} {status : DiscountStatus} {reason : DenialReason}
    {requiresHuman : Bool} {mayOffer : Prop}
    (h : policy.decision c none 0 floor status reason [] now requiresHuman = .ok d) :
    DecidedOn c now mayOffer d := decision_decided (fun hne => absurd rfl hne) h

theorem evaluate_decided {priorOffers : Nat} (h : policy.evaluate c priorOffers now = .ok d) :
    DecidedOn c now (priorOffers < policy.maxOffersPerCustomerPerDays) d := by
  unfold DiscountPolicy.evaluate at h
  split at h
  · cases h
  · dsimp only at h
    split_ifs at h with henabled houtcome hlimit hrepeat
    · exact nothing_decided h
    · exact nothing_decided h
    · exact nothing_decided h
    · exact nothing_decided h
    · split at h
      · exact nothing_decided h
      · unfold DiscountPolicy.evaluateIn at h
        dsimp only at h
        split at h
        · exact nothing_decided h
        · exact decision_decided (fun _ => Nat.not_le.mp hlimit) h

end Decided

/-! ## A run of the worker -/

section Runs

variable {policy : DiscountPolicy} {studentOf : String → Option String} {studentRef : String}

/-- **The worker counts enough**: if it finds fewer offers than the limit, then other demos have
fewer in the days that the policy looks back. -/
def CountsEnough (policy : DiscountPolicy) (t : Decisions) (e : Evaluation) : Prop :=
  t.offersSince e.case.studentRef (inJanuary e.counted) < policy.maxOffersPerCustomerPerDays →
    ∀ studentRef ∈ e.case.studentRef,
      countFrom (offeredTo studentRef) DiscountDecision.decidedAt
        (e.decided - policy.lookbackDays * day)
        (t.rows.filter fun d => d.demoId ≠ e.case.demoId) < policy.maxOffersPerCustomerPerDays

instance (policy : DiscountPolicy) (t : Decisions) (e : Evaluation) :
    Decidable (CountsEnough policy t e) := inferInstanceAs (Decidable (_ → ∀ _ ∈ _, _))

/-- The worker runs, for the student whose demo it is. -/
structure Evaluates (policy : DiscountPolicy) (studentOf : String → Option String) (t : Decisions)
    (e : Evaluation) (t' : Decisions) : Prop where
  student : e.case.studentRef = studentOf e.case.demoId
  saved : t' = discounts policy t e

/-- A run, in which the worker counts enough whenever it decides about a student. -/
abbrev CountingRun (policy : DiscountPolicy) (studentOf : String → Option String)
    (studentRef : String) : List Evaluation → Decisions → Prop :=
  Path (fun t e t' => Evaluates policy studentOf t e t' ∧
    (e.case.studentRef = some studentRef → CountsEnough policy t e)) Table.empty

/-- The rows are those of their students, and the offers to one are spaced. -/
structure Limited (policy : DiscountPolicy) (studentOf : String → Option String)
    (studentRef : String) (t : Decisions) : Prop where
  students : ∀ d ∈ t.rows, d.studentRef = studentOf d.demoId
  spaced : Spaced (offeredTo studentRef) DiscountDecision.decidedAt (policy.lookbackDays * day)
    policy.maxOffersPerCustomerPerDays t.rows

/-- What is saved is a row with the percentage and the time of the decision. -/
theorem saveDecision_put {t : Decisions} {d : DiscountDecision}
    (hstudents : ∀ old ∈ t.rows, old.studentRef = studentOf old.demoId)
    (hstudent : d.studentRef = studentOf d.demoId) :
    ∃ row, t.saveDecision d = t.put row ∧ row.demoId = d.demoId ∧ row.studentRef = d.studentRef ∧
      row.percent = d.percent ∧ row.decidedAt = d.decidedAt := by
  unfold Decisions.saveDecision
  cases hfind : t.find d.demoId with
  | none => exact ⟨d, rfl, rfl, rfl, rfl, rfl⟩
  | some old =>
    obtain ⟨hmem, hdemo⟩ := Table.find_eq_some_iff.mp hfind
    refine ⟨Decisions.rewritten old d, rfl, hdemo, ?_, rfl, rfl⟩
    exact (hstudents old hmem).trans (hdemo ▸ hstudent.symm)

/-- **One run of the worker keeps the limit.** -/
theorem Limited.step {t t' : Decisions} {e : Evaluation} (h : Limited policy studentOf studentRef t)
    (hknown : studentRef ≠ "") (hstep : Evaluates policy studentOf t e t')
    (hcounts : e.case.studentRef = some studentRef → CountsEnough policy t e) :
    Limited policy studentOf studentRef t' := by
  obtain ⟨hstudent, rfl⟩ := hstep
  unfold discounts
  cases hdecision : policy.evaluate e.case
      (t.offersSince e.case.studentRef (inJanuary e.counted)) e.decided with
  | error message => exact h
  | ok d =>
    obtain ⟨hdemo, hsame, htime, hlimit⟩ := evaluate_decided hdecision
    have hown : d.studentRef = studentOf d.demoId := by rw [hsame, hdemo, hstudent]
    obtain ⟨row, hput, hrowDemo, hrowStudent, hpercent, hrowTime⟩ :=
      saveDecision_put h.students hown
    dsimp only
    rw [hput]
    have hothers : Spaced (offeredTo studentRef) DiscountDecision.decidedAt
        (policy.lookbackDays * day) policy.maxOffersPerCustomerPerDays
        (t.rows.filter fun y => y.demoId ≠ row.demoId) := h.spaced.sublist List.filter_sublist
    refine ⟨fun x hx => ?_, Spaced.perm ?_ (t.put_perm row)⟩
    · rcases Table.mem_put.mp hx with rfl | ⟨hx, -⟩
      · rw [hrowStudent, hrowDemo, hown]
      · exact h.students x hx
    · cases hoffer : offeredTo studentRef row with
      | false => exact hothers.cons_of_not hoffer
      | true =>
        -- something is offered to the student, so the worker has found fewer than the limit
        rw [offeredTo, Bool.and_eq_true, decide_eq_true_eq, decide_eq_true_eq] at hoffer
        have hcase : e.case.studentRef = some studentRef := by rw [← hsame, ← hrowStudent, hoffer.1]
        have hfound := hlimit (by omega)
        refine hothers.cons ?_
        rw [hrowTime, htime, hrowDemo, hdemo]
        exact hcounts hcase hfound studentRef hcase

/-- **The limit holds in every window**, in every run in which the worker counts enough. -/
theorem offers_limited {evaluations : List Evaluation} {t : Decisions}
    (h : CountingRun policy studentOf studentRef evaluations t) (hknown : studentRef ≠ "") :
    Spaced (offeredTo studentRef) DiscountDecision.decidedAt (policy.lookbackDays * day)
      policy.maxOffersPerCustomerPerDays t.rows := by
  have hlimited : Limited policy studentOf studentRef t := by
    refine Path.invariant h ⟨fun _ hd => absurd hd List.not_mem_nil, spaced_nil⟩ ?_
    intro a e b ha ⟨hstep, hcounts⟩
    exact ha.step hknown hstep hcounts
  exact hlimited.spaced

end Runs

/-! ## Four offers in two weeks -/

/-- A parent finds a plan expensive, after a good demo. -/
def askedAbout (demoId : String) (now : Time) : Evaluation where
  case :=
    { conversationRef := "c", demoId, studentRef := some "stu", quote := ⟨100000, "INR"⟩,
      objections := some [⟨.price, .explicit⟩], outcome := .positive }
  counted := now
  decided := now

/-- The decisions after some runs of the worker. -/
def decisionsAfter (evaluations : List Evaluation) : Decisions :=
  evaluations.foldl (discounts priceSensitive) Table.empty

/-- Two offers before Christmas, and two after New Year. -/
def aroundNewYear : List Evaluation :=
  [askedAbout "d1" (355 * day), askedAbout "d2" (356 * day), askedAbout "d3" (366 * day),
    askedAbout "d4" (367 * day)]

theorem evaluates_path (evaluations : List Evaluation) (t : Decisions)
    (h : ∀ e ∈ evaluations, e.case.studentRef = some "stu") :
    Path (Evaluates priceSensitive fun _ => some "stu") t evaluations
      (evaluations.foldl (discounts priceSensitive) t) := by
  induction evaluations generalizing t with
  | nil => exact .nil
  | cons e rest ih =>
    have hfirst : Evaluates priceSensitive (fun _ => some "stu") t e (discounts priceSensitive t e) :=
      ⟨h e List.mem_cons_self, rfl⟩
    exact .cons hfirst (ih _ fun e' he' => h e' (List.mem_cons_of_mem _ he'))

/-- In spring, the limit of two holds. -/
theorem spring_limited : ∃ t, CountingRun priceSensitive (fun _ => some "stu") "stu"
      [askedAbout "d1" (100 * day), askedAbout "d2" (101 * day), askedAbout "d3" (102 * day)] t ∧
    Spaced (offeredTo "stu") DiscountDecision.decidedAt (priceSensitive.lookbackDays * day)
      priceSensitive.maxOffersPerCustomerPerDays t.rows := by
  have hrun : CountingRun priceSensitive (fun _ => some "stu") "stu"
      [askedAbout "d1" (100 * day), askedAbout "d2" (101 * day), askedAbout "d3" (102 * day)]
      (decisionsAfter [askedAbout "d1" (100 * day), askedAbout "d2" (101 * day),
        askedAbout "d3" (102 * day)]) :=
    .cons ⟨⟨rfl, rfl⟩, fun _ => by decide⟩ (.cons ⟨⟨rfl, rfl⟩, fun _ => by decide⟩
      (.cons ⟨⟨rfl, rfl⟩, fun _ => by decide⟩ .nil))
  exact ⟨_, hrun, offers_limited hrun (by decide)⟩

/-- **Around New Year it does not**: the offers of December are not counted in January. -/
theorem new_year_unlimited : ∃ (policy : DiscountPolicy) (studentOf : String → Option String)
    (studentRef : String) (evaluations : List Evaluation) (t : Decisions),
    Path (Evaluates policy studentOf) Table.empty evaluations t ∧ studentRef ≠ "" ∧
      evaluations.Pairwise (fun e e' => e.decided ≤ e'.counted) ∧
      ¬ Spaced (offeredTo studentRef) DiscountDecision.decidedAt (policy.lookbackDays * day)
        policy.maxOffersPerCustomerPerDays t.rows := by
  refine ⟨priceSensitive, fun _ => some "stu", "stu", aroundNewYear, decisionsAfter aroundNewYear,
    evaluates_path aroundNewYear Table.empty (by decide), by decide, by decide, fun h => ?_⟩
  have hfour : inWindow (offeredTo "stu") DiscountDecision.decidedAt
      (priceSensitive.lookbackDays * day) (300 * day) (decisionsAfter aroundNewYear).rows = 4 := by
    decide
  have htwo := h (300 * day)
  rw [hfour] at htwo
  exact absurd htwo (by decide)

end NxTutors.DemoAgent
