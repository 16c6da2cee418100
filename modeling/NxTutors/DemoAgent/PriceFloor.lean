import NxTutors.DemoAgent.Discounts

/-!
# The floor of a price

A decision that was approved when it was constructed was checked against the floor. A decision that
a human signs was constructed as an escalated one, and was not; neither was the list price of one
that is denied, which may be agreed to all the same. So there are prices below the floor, and prices
with a discount that nobody approved, and they are the ones of decisions that the constructor should
have refused.
-/

namespace NxTutors.DemoAgent

/-- **A price that respects the floor**: between the floor and the list price, more than nothing,
and the list price where no discount was approved. -/
structure RespectsFloor (d : DiscountDecision) (offer : ApprovedOffer) : Prop where
  floor : d.floorMinor ≤ offer.amountMinor
  ceiling : offer.amountMinor ≤ offer.listPriceMinor
  positive : 0 < offer.amountMinor
  undiscounted : d.status = .denied ∨ d.status = .notApplicable →
    offer.amountMinor = offer.listPriceMinor

/-- A decision as its constructor accepts it, and then perhaps as a human has signed it. -/
def decided (policy : DiscountPolicy) (tables : Text.Tables) (d : DiscountDecision) :
    Option (String × Time) → Except String DiscountDecision
  | none => d.validate
  | some (approver, now) =>
    match d.validate with
    | .ok d => policy.approveEscalated tables d approver now
    | .error e => .error e

/-- What the constructor leaves unchecked: the price of an escalated decision, when it is signed,
and the list price where no discount was approved. -/
def PriceChecked (d : DiscountDecision) (signature : Option (String × Time)) : Prop :=
  d.payableMinor = 0 ∨
    match d.status with
    | .approved => True
    | .escalated => signature ≠ none → d.floorMinor ≤ d.payableMinor
    | .denied | .notApplicable => d.discountMinor = 0 ∧ d.floorMinor ≤ d.listPriceMinor

namespace DiscountDecision

/-- Something can be agreed to at some time, unless it is live at none. -/
theorem exists_live (d : DiscountDecision) : ∃ now, d.live now = true := by
  unfold live
  cases d.validUntil with
  | none => exact ⟨0, rfl⟩
  | some t =>
    have hbefore : t - 1 < t := Int.sub_lt_self t one_pos
    exact ⟨t - 1, decide_eq_true hbefore⟩

/-- **What respecting the floor comes to**, of a decision whose numbers add up. -/
theorem respects_iff {d : DiscountDecision}
    (hbalances : (d.listPriceMinor : Int) - d.discountMinor = d.payableMinor) :
    (∀ now offer, d.approve now = .ok offer → RespectsFloor d offer) ↔
      d.status = .escalated ∨ d.payableMinor = 0 ∨ (d.floorMinor ≤ d.payableMinor ∧
        (d.status = .denied ∨ d.status = .notApplicable → d.discountMinor = 0)) := by
  constructor
  · intro h
    by_cases hescalated : d.status = .escalated
    · exact .inl hescalated
    · by_cases hzero : d.payableMinor = 0
      · exact .inr (.inl hzero)
      · obtain ⟨now, hlive⟩ := d.exists_live
        obtain ⟨offer, hoffer⟩ := approve_iff.mpr ⟨hescalated, hzero, hlive⟩
        obtain ⟨-, -, hamount, hlist⟩ := of_approve hoffer
        obtain ⟨hfloor, -, -, hundiscounted⟩ := h now offer hoffer
        refine .inr (.inr ⟨hamount ▸ hfloor, fun hstatus => ?_⟩)
        have hsame : d.payableMinor = d.listPriceMinor := by
          rw [← hamount, ← hlist]
          exact hundiscounted hstatus
        omega
  · intro h now offer hoffer
    obtain ⟨hescalated, hzero, hamount, hlist⟩ := of_approve hoffer
    obtain ⟨hfloor, hdiscount⟩ := (h.resolve_left hescalated).resolve_left hzero
    refine ⟨hamount ▸ hfloor, ?_, ?_, fun hstatus => ?_⟩
    · rw [hamount, hlist]
      omega
    · rw [hamount]
      exact Nat.pos_of_ne_zero hzero
    · have hnone : d.discountMinor = 0 := hdiscount hstatus
      rw [hamount, hlist]
      omega

end DiscountDecision

/-- What a signature leaves of a decision. -/
theorem of_approveEscalated {policy : DiscountPolicy} {tables : Text.Tables}
    {d signed : DiscountDecision} {approver : String} {now : Time}
    (h : policy.approveEscalated tables d approver now = .ok signed) :
    d.status = .escalated ∧ signed.status = .approved ∧ signed.listPriceMinor = d.listPriceMinor ∧
      signed.discountMinor = d.discountMinor ∧ signed.payableMinor = d.payableMinor ∧
      signed.floorMinor = d.floorMinor := by
  unfold DiscountPolicy.approveEscalated at h
  split_ifs at h with hstatus
  cases h
  exact ⟨not_not.mp hstatus, rfl, rfl, rfl, rfl, rfl⟩

/-- **Every price respects the floor, except where the constructor did not check it.** -/
theorem floor_respected_iff {policy : DiscountPolicy} {tables : Text.Tables}
    {d final : DiscountDecision} {signature : Option (String × Time)}
    (h : decided policy tables d signature = .ok final) :
    (∀ now offer, final.approve now = .ok offer → RespectsFloor final offer) ↔
      PriceChecked d signature := by
  cases signature with
  | none =>
    obtain ⟨rfl, hvalid⟩ := DiscountDecision.validate_iff.mp h
    rw [DiscountDecision.respects_iff hvalid.balances, PriceChecked]
    have hbalances := hvalid.balances
    cases hstatus : final.status with
    | approved =>
      have hfloor := hvalid.aboveFloor hstatus
      simp [hfloor]
    | escalated => simp
    | denied =>
      simp only [reduceCtorEq, false_or, true_or, true_implies]
      omega
    | notApplicable =>
      simp only [reduceCtorEq, false_or, or_true, true_implies]
      omega
  | some signature =>
    obtain ⟨approver, now⟩ := signature
    rw [decided] at h
    cases hbuilt : d.validate with
    | error e =>
      rw [hbuilt] at h
      cases h
    | ok built =>
      rw [hbuilt] at h
      obtain ⟨rfl, hvalid⟩ := DiscountDecision.validate_iff.mp hbuilt
      obtain ⟨hescalated, happroved, hlist, hdiscount, hpayable, hfloor⟩ := of_approveEscalated h
      have hbalances : (final.listPriceMinor : Int) - final.discountMinor = final.payableMinor := by
        rw [hlist, hdiscount, hpayable]
        exact hvalid.balances
      rw [DiscountDecision.respects_iff hbalances, PriceChecked, hescalated, happroved, hpayable,
        hfloor]
      simp

/-! ## Prices below the floor -/

/-- A decision for a human, with something off a price of 1000, and a floor of 700. -/
def toBeSigned (discount : Nat) : DiscountDecision where
  conversationRef := "c"
  demoId := "d"
  status := .escalated
  percent := 20
  listPriceMinor := 1000
  discountMinor := discount
  payableMinor := 1000 - discount
  floorMinor := 700
  requiresHumanApproval := true
  policyStamp := "discount@v1"
  decidedAt := 0

/-- The same, signed. -/
def signedOff (discount : Nat) : DiscountDecision :=
  { toBeSigned discount with
    status := .approved
    approvedBy := "ops"
    validUntil := some (48 * hour) }

/-- Two hundred off are above the floor. -/
theorem two_hundred_off : ∃ offer, (signedOff 200).approve 0 = .ok offer ∧
    RespectsFloor (signedOff 200) offer := by
  have hdecided : decided priceSensitive Text.ascii (toBeSigned 200) (some ("ops", 0)) =
      .ok (signedOff 200) := by decide
  obtain ⟨offer, hoffer⟩ : ∃ offer, (signedOff 200).approve 0 = .ok offer := ⟨_, rfl⟩
  have hrespects := (floor_respected_iff hdecided).mpr (.inr fun _ => by decide)
  exact ⟨offer, hoffer, hrespects 0 offer hoffer⟩

/-- **Four hundred off are below it**, and the decision is constructed, signed and agreed to. -/
theorem four_hundred_off : ∃ (policy : DiscountPolicy) (tables : Text.Tables)
    (d final : DiscountDecision) (signature : Option (String × Time)) (now : Time)
    (offer : ApprovedOffer), decided policy tables d signature = .ok final ∧
      final.approve now = .ok offer ∧ ¬ RespectsFloor final offer := by
  have hdecided : decided priceSensitive Text.ascii (toBeSigned 400) (some ("ops", 0)) =
      .ok (signedOff 400) := by decide
  obtain ⟨offer, hoffer⟩ : ∃ offer, (signedOff 400).approve 0 = .ok offer := ⟨_, rfl⟩
  refine ⟨_, _, _, _, _, 0, offer, hdecided, hoffer, fun h => ?_⟩
  obtain ⟨-, -, hamount, -⟩ := DiscountDecision.of_approve hoffer
  have hbelow : (signedOff 400).floorMinor ≤ (signedOff 400).payableMinor := hamount ▸ h.floor
  exact absurd hbelow (by decide)

end NxTutors.DemoAgent
