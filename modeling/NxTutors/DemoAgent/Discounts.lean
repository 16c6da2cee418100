import NxTutors.DemoAgent.Records
import NxTutors.Text.Strings

/-!
# Discounts

The engine is deterministic. It reads a policy, the authoritative quote of a plan, and the
objections that were raised, and answers with a decision. Gates come first: a demo that was not
held, a customer who had his offers already, one who keeps asking. Then a band is selected, by
explicit objections only; then come the ceiling of the band, and the floor of the price.

A decision is checked when it is constructed, since it is stored and read again. The approval of a
human is a copy with some fields changed, and a copy is not checked.
-/

namespace NxTutors.DemoAgent

/-! ## Decisions -/

/-- The name a status is stored under. -/
def DiscountStatus.value : DiscountStatus → String
  | .approved => "approved"
  | .escalated => "escalated"
  | .denied => "denied"
  | .notApplicable => "not_applicable"

namespace DiscountDecision

/-- What the constructor checks: the percentage is one, the numbers add up, an approved price is not
below the floor, an approval that needs a human is signed, and what is not applicable gives
nothing. -/
def validate (d : DiscountDecision) : Except String DiscountDecision :=
  if 100 < d.percent then .error "percent: input should be less than or equal to 100"
  else if (d.listPriceMinor : Int) - d.discountMinor ≠ d.payableMinor then
    .error ("discount arithmetic does not balance: " ++ toString d.listPriceMinor ++ " - " ++
      toString d.discountMinor ++ " != " ++ toString d.payableMinor)
  else if d.status = .approved ∧ d.payableMinor < d.floorMinor then
    .error ("approved payable " ++ toString d.payableMinor ++ " is below the price floor " ++
      toString d.floorMinor)
  else if d.status = .approved ∧ d.requiresHumanApproval ∧ d.approvedBy = "" then
    .error "a decision needing human approval cannot be APPROVED unsigned"
  else if 0 < d.percent ∧ d.status = .notApplicable then
    .error "NOT_APPLICABLE cannot carry a non-zero percent"
  else .ok d

/-- A decision that its constructor accepts. -/
structure Valid (d : DiscountDecision) : Prop where
  percent : d.percent ≤ 100
  balances : (d.listPriceMinor : Int) - d.discountMinor = d.payableMinor
  aboveFloor : d.status = .approved → d.floorMinor ≤ d.payableMinor
  signed : d.status = .approved → d.requiresHumanApproval = true → d.approvedBy ≠ ""
  notApplicable : d.status = .notApplicable → d.percent = 0

theorem validate_iff {d d' : DiscountDecision} : d.validate = .ok d' ↔ d' = d ∧ d.Valid := by
  unfold validate
  split_ifs with hpercent hbalances hfloor hsigned happlicable
  · refine ⟨nofun, fun ⟨_, hvalid⟩ => ?_⟩
    exact absurd hvalid.percent (Nat.not_le.mpr hpercent)
  · exact ⟨nofun, fun ⟨_, hvalid⟩ => absurd hvalid.balances hbalances⟩
  · refine ⟨nofun, fun ⟨_, hvalid⟩ => ?_⟩
    exact absurd (hvalid.aboveFloor hfloor.1) (Nat.not_le.mpr hfloor.2)
  · exact ⟨nofun, fun ⟨_, hvalid⟩ => absurd hsigned.2.2 (hvalid.signed hsigned.1 hsigned.2.1)⟩
  · refine ⟨nofun, fun ⟨_, hvalid⟩ => ?_⟩
    have hzero : d.percent = 0 := hvalid.notApplicable happlicable.2
    omega
  · constructor
    · intro h
      cases h
      refine ⟨rfl, Nat.not_lt.mp hpercent, not_not.mp hbalances, fun happroved => ?_,
        fun happroved hneeds hunsigned => hsigned ⟨happroved, hneeds, hunsigned⟩, fun hnot => ?_⟩
      · exact Nat.not_lt.mp fun hbelow => hfloor ⟨happroved, hbelow⟩
      · exact Nat.eq_zero_of_not_pos fun hpos => happlicable ⟨hpos, hnot⟩
    · rintro ⟨rfl, -⟩
      rfl

/-- What a price that was agreed to is. -/
theorem approve_iff {d : DiscountDecision} {now : Time} :
    (∃ offer, d.approve now = .ok offer) ↔
      d.status ≠ .escalated ∧ d.payableMinor ≠ 0 ∧ d.live now = true := by
  unfold approve
  split_ifs with hescalated hzero hlive
  · exact ⟨nofun, fun h => absurd hescalated h.1⟩
  · exact ⟨nofun, fun h => absurd hzero h.2.1⟩
  · refine ⟨nofun, fun h => ?_⟩
    rw [h.2.2] at hlive
    cases hlive
  · exact ⟨fun _ => ⟨hescalated, hzero, by simpa using hlive⟩, fun _ => ⟨_, rfl⟩⟩

theorem of_approve {d : DiscountDecision} {now : Time} {offer : ApprovedOffer}
    (h : d.approve now = .ok offer) : d.status ≠ .escalated ∧ d.payableMinor ≠ 0 ∧
      offer.amountMinor = d.payableMinor ∧ offer.listPriceMinor = d.listPriceMinor := by
  obtain ⟨hstatus, hpayable, -⟩ := approve_iff.mp ⟨offer, h⟩
  unfold approve at h
  split_ifs at h
  cases h
  exact ⟨hstatus, hpayable, rfl, rfl⟩

end DiscountDecision

/-! ## The policy -/

/-- The name a category of objections has in a policy. -/
def ObjectionCategory.value : ObjectionCategory → String
  | .price => "price_concern"
  | .tutorFit => "tutor_fit_concern"
  | .timing => "timing_concern"
  | .trust => "trust_concern"
  | .learningNeed => "learning_need_concern"
  | .decisionMaker => "decision_maker_dependency"
  | .competitor => "competitor_mention"
  | .logistics => "logistics_concern"
  | .none => "no_objection"

/-- The categories, sorted by name. -/
def ObjectionCategory.sorted : List ObjectionCategory :=
  [.competitor, .decisionMaker, .learningNeed, .logistics, .none, .price, .timing, .trust, .tutorFit]

structure DiscountBand where
  name : String
  minPercent : Nat
  maxPercent : Nat
  /-- the objections that justify the band, all of them -/
  triggers : List String := []
  conditions : List String := []
  ordered : minPercent ≤ maxPercent ∧ maxPercent ≤ 100 := by decide
  deriving DecidableEq, Repr

structure DiscountPolicy where
  /-- the identifier, the version and the checksum of the document -/
  stamp : String
  bands : List DiscountBand
  maxAutoApprovePercent : Nat := 10
  absoluteMaxPercent : Nat := 25
  priceFloorPercentOfList : Nat := 70
  validityHours : Nat := 48
  maxOffersPerCustomerPerDays : Nat := 2
  lookbackDays : Nat := 90
  escalateAfterRepeatRequests : Nat := 2
  /-- there is a band, and none goes over the ceiling -/
  bandsWithinCeiling : bands ≠ [] ∧ ∀ band ∈ bands, band.maxPercent ≤ absoluteMaxPercent
  autoWithinCeiling : maxAutoApprovePercent ≤ absoluteMaxPercent := by decide
  bounded : absoluteMaxPercent ≤ 100 ∧ 1 ≤ priceFloorPercentOfList ∧
    priceFloorPercentOfList ≤ 100 ∧ 1 ≤ validityHours ∧ validityHours ≤ 720 ∧
    1 ≤ maxOffersPerCustomerPerDays ∧ maxOffersPerCustomerPerDays ≤ 10 ∧
    1 ≤ lookbackDays ∧ lookbackDays ≤ 365 ∧ 1 ≤ escalateAfterRepeatRequests ∧
    escalateAfterRepeatRequests ≤ 10 := by decide

/-! ## The engine -/

/-- An authoritative price. -/
structure PlanQuote where
  listPriceMinor : Nat
  currency : String := "INR"
  deriving DecidableEq, Repr

/-- A percentage of an amount, rounded half-up to the paise. -/
def percentOf (minor percent : Nat) : Nat := (minor * percent + 50) / 100

/-- What an amount of money needs: three characters, in upper case. -/
def isCurrency (currency : String) : Bool :=
  currency.length = 3 && currency.toList.any Char.isUpper && !currency.toList.any Char.isLower

/-- How a derived fact was established. -/
inductive ObjectionItem.Evidence
  | explicit | inferred | unknown
  deriving DecidableEq, Repr

/-- One objection, and how it was established. -/
structure ObjectionItem where
  category : ObjectionCategory
  evidence : ObjectionItem.Evidence
  deriving DecidableEq, Repr

/-- `categories(explicit_only=True)`: what was objected to in so many words. -/
def explicitCategories (objections : List ObjectionItem) : List ObjectionCategory :=
  ObjectionCategory.sorted.filter fun category => category ≠ .none &&
    objections.any fun o => o.category = category && o.evidence = .explicit

/-- What is decided about: a demo, the price of its plan, and what was objected. -/
structure DiscountCase where
  conversationRef : String
  demoId : String
  studentRef : Option String := none
  quote : PlanQuote
  /-- the analysis of the conversation, if there is one -/
  objections : Option (List ObjectionItem) := none
  outcome : DemoOutcome
  repeatRequests : Int := 0
  enabled : Bool := true
  deriving DecidableEq, Repr

namespace DiscountPolicy

variable (policy : DiscountPolicy)

/-- The first of the bands that pay most. -/
def highest (bands : List DiscountBand) : Option DiscountBand :=
  bands.foldl (fun best band =>
    match best with
    | none => some band
    | some b =>
      if b.maxPercent < band.maxPercent ∨
          b.maxPercent = band.maxPercent ∧ b.minPercent < band.minPercent then some band
      else some b) none

/-- Highest-paying band whose triggers are all satisfied. A band with none matches never. -/
def selectBand (triggers : List ObjectionCategory) : Option DiscountBand :=
  if triggers = [] then none
  else
    highest (policy.bands.filter fun band => band.triggers ≠ [] &&
      band.triggers.all fun t => t ∈ triggers.map ObjectionCategory.value)

/-- The decision on a case: `percent` of the list price, in a band or in none. -/
def decision (c : DiscountCase) (band : Option DiscountBand) (percent floor : Nat)
    (status : DiscountStatus) (reason : DenialReason) (triggers : List ObjectionCategory)
    (now : Time) (requiresHuman : Bool := false) : Except String DiscountDecision :=
  let discount := if percent = 0 then 0 else percentOf c.quote.listPriceMinor percent
  DiscountDecision.validate
    { conversationRef := c.conversationRef, demoId := c.demoId, studentRef := c.studentRef,
      status, bandName := (band.map DiscountBand.name).getD "", percent,
      listPriceMinor := c.quote.listPriceMinor, discountMinor := discount,
      payableMinor := c.quote.listPriceMinor - discount, floorMinor := floor,
      currency := c.quote.currency, triggers,
      conditions := (band.map DiscountBand.conditions).getD [], reasonCode := reason,
      requiresHumanApproval := requiresHuman, policyStamp := policy.stamp,
      validUntil := if percent = 0 then none else some (now + policy.validityHours * hour),
      decidedAt := now }

/-- What the percentage leaves to pay. -/
def payable (c : DiscountCase) (percent : Nat) : Nat :=
  c.quote.listPriceMinor - percentOf c.quote.listPriceMinor percent

/-- The case is in a band: the most it pays, or the least if that goes below the floor. -/
def evaluateIn (c : DiscountCase) (band : DiscountBand) (floor : Nat)
    (triggers : List ObjectionCategory) (now : Time) : Except String DiscountDecision :=
  let percent := if payable c band.maxPercent < floor then band.minPercent else band.maxPercent
  if payable c band.maxPercent < floor ∧
      (payable c band.minPercent < floor ∨ band.minPercent = 0) then
    policy.decision c none 0 floor .denied .priceFloorBreached [] now
  else
    let needsHuman := policy.maxAutoApprovePercent < percent
    policy.decision c (some band) percent floor (if needsHuman then .escalated else .approved) .none
      (ObjectionCategory.sorted.filter fun t => t ∈ triggers && t.value ∈ band.triggers) now
      needsHuman

/-- **The single entry point.** The gates, the band, the ceiling and the floor. -/
def evaluate (c : DiscountCase) (priorOffers : Nat) (now : Time) :
    Except String DiscountDecision :=
  if !isCurrency c.quote.currency then
    .error ("currency must be an ISO-4217 code, got '" ++ c.quote.currency ++ "'")
  else
    let floor := percentOf c.quote.listPriceMinor policy.priceFloorPercentOfList
    if !c.enabled then policy.decision c none 0 floor .notApplicable .policyDisabled [] now
    else if c.outcome = .notHeld ∨ c.outcome = .unknown then
      policy.decision c none 0 floor .denied .demoNotCompleted [] now
    else if policy.maxOffersPerCustomerPerDays ≤ priorOffers then
      policy.decision c none 0 floor .denied .offerLimitReached [] now
    else if (policy.escalateAfterRepeatRequests : Int) ≤ c.repeatRequests then
      policy.decision c none 0 floor .escalated .repeatRequests [] now true
    else
      let triggers := explicitCategories (c.objections.getD [])
      match (policy.selectBand triggers).filter fun band => band.maxPercent ≠ 0 with
      | none => policy.decision c none 0 floor .notApplicable .noQualifyingObjection [] now
      | some band => policy.evaluateIn c band floor triggers now

/-- **A human signs off**, and does not change the numbers. The copy is not checked again. -/
def approveEscalated (tables : Text.Tables) (d : DiscountDecision) (approver : String) (now : Time) :
    Except String DiscountDecision :=
  if d.status ≠ .escalated then .error ("cannot approve a " ++ d.status.value ++ " decision")
  else if Text.strip tables approver = "" then .error "approval requires an identified approver"
  else if policy.absoluteMaxPercent < d.percent then
    .error "decision exceeds the absolute policy ceiling"
  else
    .ok { d with status := .approved, approvedBy := Text.take approver 64, decidedAt := now,
                 validUntil := some (now + policy.validityHours * hour) }

end DiscountPolicy

def priceSensitiveBand : DiscountBand where
  name := "price_sensitive"
  minPercent := 8
  maxPercent := 10
  triggers := ["price_concern"]

/-- The usual policy, with a single band. -/
def priceSensitive : DiscountPolicy where
  stamp := "discount@v1"
  bands := [priceSensitiveBand]
  bandsWithinCeiling := by decide

end NxTutors.DemoAgent
