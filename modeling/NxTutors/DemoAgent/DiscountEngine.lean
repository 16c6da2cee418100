import NxTutors.DemoAgent.Discounts
import NxTutors.Numbers.Decimal

/-!
# The discount engine, with its money

`DiscountPolicy.evaluate` says what is decided when percentages are taken exactly. The engine takes
them with decimals of 28 digits, and keeps amounts as money, whose constructor wants a currency in
upper case. A quote wants three characters only, and its price has no upper bound. So the engine
raises on some quotes, and on enormous prices it rounds twice.
-/

namespace NxTutors.DemoAgent

open Numbers

/-! ## Money -/

/-- What Unicode says of the case of a character. -/
structure Letters where
  isUpper : Char → Bool
  isLower : Char → Bool
  isTitle : Char → Bool

/-- The letters of ASCII. -/
def asciiLetters : Letters where
  isUpper := Char.isUpper
  isLower := Char.isLower
  isTitle _ := false

/-- `s.isupper()`: there is a letter with a case, and none has another one. -/
def Letters.isupper (u : Letters) (s : String) : Bool :=
  s.toList.any u.isUpper && s.toList.all fun c => !u.isLower c && !u.isTitle c

/-- An exact amount. -/
structure Money where
  minor : Nat
  currency : String
  deriving DecidableEq, Repr

namespace Money

variable (u : Letters)

/-- What the constructor checks. -/
def make (minor : Int) (currency : String) : Except String Money :=
  if minor < 0 then .error "Money cannot be negative; model a discount as a separate amount"
  else if currency.length ≠ 3 ∨ !u.isupper currency then
    .error ("currency must be an ISO-4217 code, got '" ++ currency ++ "'")
  else .ok ⟨minor.toNat, currency⟩

/-- A percentage of an amount, rounded half-up to the paise. -/
def percent (m : Money) (pct : Nat) : Except String Money :=
  let factor := div DEFAULT_PRECISION pct 100
  match quantize DEFAULT_PRECISION (mul DEFAULT_PRECISION m.minor factor) with
  | none => .error "InvalidOperation"
  | some minor => make u minor m.currency

/-- `a - b`. -/
def sub (a b : Money) : Except String Money :=
  if a.currency ≠ b.currency then
    .error ("cannot combine " ++ a.currency ++ " and " ++ b.currency)
  else if a.minor < b.minor then .error "subtraction would produce a negative amount"
  else make u (a.minor - b.minor) a.currency

end Money

/-! ## The engine -/

namespace DiscountDecision

/-- The lengths the constructor checks, by the names of the fields. -/
def lengths (d : DiscountDecision) : List (String × Bool) :=
  [("conversation_ref", d.conversationRef.length ≤ 128), ("demo_id", d.demoId.length ≤ 64),
    ("band_name", d.bandName.length ≤ 48), ("currency", d.currency.length = 3),
    ("approved_by", d.approvedBy.length ≤ 64), ("policy_stamp", d.policyStamp.length ≤ 96)]

/-- The constructor: the fields one by one, and then what `validate` checks. -/
def construct (d : DiscountDecision) : Except String DiscountDecision :=
  match d.lengths.filter fun field => !field.2 with
  | [] => d.validate
  | refused => .error (", ".intercalate (refused.map Prod.fst))

end DiscountDecision

namespace DiscountCapability

variable (u : Letters) (policy : DiscountPolicy) (c : DiscountCase) (now : Time)

/-- `_decision`. -/
def decision (price : Money) (band : Option DiscountBand) (percent : Nat) (floor : Money)
    (status : DiscountStatus) (reason : DenialReason) (triggers : List ObjectionCategory)
    (requiresHuman : Bool) : Except String DiscountDecision := do
  let discount ← if percent = 0 then Money.make u 0 c.quote.currency else price.percent u percent
  let payable ← price.sub u discount
  DiscountDecision.construct
    { conversationRef := c.conversationRef, demoId := c.demoId, studentRef := c.studentRef,
      status, bandName := (band.map DiscountBand.name).getD "", percent,
      listPriceMinor := c.quote.listPriceMinor, discountMinor := discount.minor,
      payableMinor := payable.minor, floorMinor := floor.minor,
      currency := c.quote.currency, triggers,
      conditions := (band.map DiscountBand.conditions).getD [], reasonCode := reason,
      requiresHumanApproval := requiresHuman, policyStamp := policy.stamp,
      validUntil := if percent = 0 then none else some (now + policy.validityHours * hour),
      decidedAt := now }

/-- A decision without a discount. -/
def refuse (price floor : Money) (reason : DenialReason) (status : DiscountStatus)
    (requiresHuman : Bool := false) : Except String DiscountDecision :=
  decision u policy c now price none 0 floor status reason [] requiresHuman

/-- What a band gives, a human's approval being asked for above the limit. -/
def award (price floor : Money) (band : DiscountBand) (percent : Nat)
    (triggers : List ObjectionCategory) : Except String DiscountDecision :=
  let needsHuman : Bool := policy.maxAutoApprovePercent < percent
  decision u policy c now price (some band) percent floor
    (if needsHuman then .escalated else .approved) .none
    (ObjectionCategory.sorted.filter fun t => t ∈ triggers && t.value ∈ band.triggers) needsHuman

/-- **`DiscountCapability.evaluate`.** -/
def evaluate (priorOffers : Int) : Except String DiscountDecision := do
  let price ← Money.make u c.quote.listPriceMinor c.quote.currency
  let floor ← price.percent u policy.priceFloorPercentOfList
  if !c.enabled then refuse u policy c now price floor .policyDisabled .notApplicable
  else if c.outcome = .notHeld ∨ c.outcome = .unknown then
    refuse u policy c now price floor .demoNotCompleted .denied
  else if (policy.maxOffersPerCustomerPerDays : Int) ≤ priorOffers then
    refuse u policy c now price floor .offerLimitReached .denied
  else if (policy.escalateAfterRepeatRequests : Int) ≤ c.repeatRequests then
    refuse u policy c now price floor .repeatRequests .escalated true
  else
    let triggers := explicitCategories (c.objections.getD [])
    match (policy.selectBand triggers).filter fun band => band.maxPercent ≠ 0 with
    | none => refuse u policy c now price floor .noQualifyingObjection .notApplicable
    | some band =>
      let payable ← price.sub u (← price.percent u band.maxPercent)
      if payable.minor < floor.minor then
        -- the floor may permit the smaller end of the band
        let payable ← price.sub u (← price.percent u band.minPercent)
        if payable.minor < floor.minor ∨ band.minPercent = 0 then
          refuse u policy c now price floor .priceFloorBreached .denied
        else award u policy c now price floor band band.minPercent triggers
      else award u policy c now price floor band band.maxPercent triggers

end DiscountCapability

/-! ## Which band is selected -/

/-- A band applies to a case: it has triggers, and each is an objection made in so many words. -/
def DiscountBand.Qualifies (band : DiscountBand) (c : DiscountCase) : Prop :=
  band.triggers ≠ [] ∧ ∀ t ∈ band.triggers, ∃ o ∈ c.objections.getD [],
    o.evidence = .explicit ∧ o.category ≠ .none ∧ o.category.value = t

namespace DiscountPolicy

/-- The search keeps the best band so far. -/
theorem foldl_highest {bands : List DiscountBand} {b₀ b : DiscountBand}
    (h : bands.foldl (fun best band =>
      match best with
      | none => some band
      | some b =>
        if b.maxPercent < band.maxPercent ∨
            b.maxPercent = band.maxPercent ∧ b.minPercent < band.minPercent then some band
        else some b) (some b₀) = some b) :
    (b = b₀ ∨ b ∈ bands) ∧ b₀.maxPercent ≤ b.maxPercent ∧
      ∀ band ∈ bands, band.maxPercent ≤ b.maxPercent := by
  induction bands generalizing b₀ with
  | nil =>
    cases h
    exact ⟨.inl rfl, le_rfl, nofun⟩
  | cons x xs ih =>
    rw [List.foldl_cons] at h
    dsimp only at h
    split at h
    · rename_i hbetter
      obtain ⟨hmem, hle, hall⟩ := ih h
      refine ⟨.inr ?_, by omega, ?_⟩
      · rcases hmem with rfl | hmem
        · exact List.mem_cons_self
        · exact List.mem_cons_of_mem _ hmem
      · exact List.forall_mem_cons.mpr ⟨hle, hall⟩
    · rename_i hworse
      obtain ⟨hmem, hle, hall⟩ := ih h
      refine ⟨hmem.imp_right (List.mem_cons_of_mem _), hle, ?_⟩
      exact List.forall_mem_cons.mpr ⟨by omega, hall⟩

/-- The band that is found is one of the bands, and none pays more. -/
theorem of_highest {bands : List DiscountBand} {b : DiscountBand} (h : highest bands = some b) :
    b ∈ bands ∧ ∀ band ∈ bands, band.maxPercent ≤ b.maxPercent := by
  cases bands with
  | nil => cases h
  | cons x xs =>
    obtain ⟨hmem, hle, hall⟩ := @foldl_highest _ x _ h
    exact ⟨List.mem_cons.mpr hmem, List.forall_mem_cons.mpr ⟨hle, hall⟩⟩

/-- A name is among those of the explicit objections exactly if someone objected so. -/
theorem mem_explicit_iff {objections : List ObjectionItem} {t : String} :
    t ∈ (explicitCategories objections).map ObjectionCategory.value ↔
      ∃ o ∈ objections, o.evidence = .explicit ∧ o.category ≠ .none ∧ o.category.value = t := by
  have hsorted (category : ObjectionCategory) : category ∈ ObjectionCategory.sorted := by
    cases category <;> decide
  simp only [explicitCategories, List.mem_map, List.mem_filter, Bool.and_eq_true,
    decide_eq_true_eq, List.any_eq_true]
  constructor
  · rintro ⟨category, ⟨-, hnone, o, ho, rfl, hexplicit⟩, rfl⟩
    exact ⟨o, ho, hexplicit, hnone, rfl⟩
  · rintro ⟨o, ho, hexplicit, hnone, rfl⟩
    exact ⟨o.category, ⟨hsorted _, hnone, o, ho, rfl, hexplicit⟩, rfl⟩

/-- **The band that is selected** applies, and of those that apply none pays more. -/
theorem of_selectBand {policy : DiscountPolicy} {c : DiscountCase} {band : DiscountBand}
    (h : policy.selectBand (explicitCategories (c.objections.getD [])) = some band) :
    band ∈ policy.bands ∧ band.Qualifies c ∧
      ∀ other ∈ policy.bands, other.Qualifies c → other.maxPercent ≤ band.maxPercent := by
  have happlies (b : DiscountBand) : (decide (b.triggers ≠ []) && b.triggers.all fun t =>
      t ∈ (explicitCategories (c.objections.getD [])).map ObjectionCategory.value) = true ↔
        b.Qualifies c := by
    simp only [Bool.and_eq_true, decide_eq_true_eq, List.all_eq_true, mem_explicit_iff,
      DiscountBand.Qualifies]
  rw [selectBand] at h
  split at h
  · cases h
  · obtain ⟨hmem, hall⟩ := of_highest h
    obtain ⟨hband, hqualifies⟩ := List.mem_filter.mp hmem
    exact ⟨hband, (happlies band).mp hqualifies,
      fun other hother hq => hall other (List.mem_filter.mpr ⟨hother, (happlies other).mpr hq⟩)⟩

end DiscountPolicy

/-! ## What the money comes to -/

namespace Money

variable {u : Letters} {currency : String}

/-- Money of a currency in upper case. -/
theorem make_of_upper (minor : Nat) (hlength : currency.length = 3) (hupper : u.isupper currency = true) :
    make u minor currency = .ok ⟨minor, currency⟩ := by
  simp [make, hlength, hupper]

/-- A percentage, in hundredths that are rounded twice. -/
theorem percent_of_upper {m : Money} {pct : Nat} (hlength : m.currency.length = 3)
    (hupper : u.isupper m.currency = true) (hpct : pct ≤ 100) :
    m.percent u pct =
      match hundredths DEFAULT_PRECISION (m.minor * pct) with
      | none => .error "InvalidOperation"
      | some share => .ok ⟨share, m.currency⟩ := by
  have hfits : |(pct : Int)| < 10 ^ DEFAULT_PRECISION := by
    rw [Nat.abs_cast, DEFAULT_PRECISION]
    omega
  have hcents : (pct : ℚ) / 100 = ((pct : Int) : ℚ) * 10 ^ (-2 : Int) := by
    push_cast
    norm_num
    ring
  have hfactor : div DEFAULT_PRECISION (pct : ℚ) 100 = (pct : ℚ) / 100 := by
    rw [div, hcents, rounded_of_fits hfits]
  have hproduct : (m.minor : ℚ) * ((pct : ℚ) / 100) = ((m.minor * pct : Nat) : ℚ) / 100 := by
    push_cast
    ring
  rw [percent, hfactor, mul, hproduct, quantize_rounded_hundredths (by decide)]
  cases hundredths DEFAULT_PRECISION (m.minor * pct) with
  | none => rfl
  | some share => exact make_of_upper share hlength hupper

theorem sub_of_le {a b : Money} (hcurrency : a.currency = b.currency) (hle : b.minor ≤ a.minor)
    (hlength : a.currency.length = 3) (hupper : u.isupper a.currency = true) :
    a.sub u b = .ok ⟨a.minor - b.minor, a.currency⟩ := by
  have hcast : (a.minor : Int) - b.minor = ((a.minor - b.minor : Nat) : Int) := by omega
  rw [sub, if_neg (not_not.mpr hcurrency), if_neg (Nat.not_lt.mpr hle), hcast,
    make_of_upper _ hlength hupper]

end Money

/-! ## What is decided -/

namespace DiscountDecision

/-- What the validators of the policy, of the quote and of the demo have promised. -/
structure Promised (policy : DiscountPolicy) (c : DiscountCase) : Prop where
  currency : c.quote.currency.length = 3
  conversationRef : c.conversationRef.length ≤ 128
  demoId : c.demoId.length ≤ 64
  stamp : policy.stamp.length ≤ 96
  names : ∀ band ∈ policy.bands, band.name.length ≤ 48

theorem construct_of_valid {d : DiscountDecision} (hlengths : ∀ field ∈ d.lengths, field.2 = true)
    (hvalid : d.Valid) : d.construct = .ok d := by
  have hnone : (d.lengths.filter fun field => !field.2) = [] := by
    rw [List.filter_eq_nil_iff]
    intro field hfield
    rw [hlengths field hfield]
    decide
  rw [construct, hnone]
  exact validate_iff.mpr ⟨rfl, hvalid⟩

end DiscountDecision

namespace DiscountCapability

open DiscountDecision

variable {u : Letters} {policy : DiscountPolicy} {c : DiscountCase} {now : Time}

/-- The decision that takes `share` off the price. -/
def made (policy : DiscountPolicy) (c : DiscountCase) (now : Time) (band : Option DiscountBand)
    (percent share floor : Nat) (status : DiscountStatus) (reason : DenialReason)
    (triggers : List ObjectionCategory) (requiresHuman : Bool) : DiscountDecision where
  conversationRef := c.conversationRef
  demoId := c.demoId
  studentRef := c.studentRef
  status
  bandName := (band.map DiscountBand.name).getD ""
  percent
  listPriceMinor := c.quote.listPriceMinor
  discountMinor := share
  payableMinor := c.quote.listPriceMinor - share
  floorMinor := floor
  currency := c.quote.currency
  triggers
  conditions := (band.map DiscountBand.conditions).getD []
  reasonCode := reason
  requiresHumanApproval := requiresHuman
  policyStamp := policy.stamp
  validUntil := if percent = 0 then none else some (now + policy.validityHours * hour)
  decidedAt := now

variable {band : Option DiscountBand} {percent share floor : Nat} {status : DiscountStatus}
  {reason : DenialReason} {triggers : List ObjectionCategory} {requiresHuman : Bool}

/-- **A decision is constructed**, if its share comes out and its status allows it. -/
theorem decision_of_share (hpromised : Promised policy c)
    (hupper : u.isupper c.quote.currency = true)
    (hband : ∀ b ∈ band, b ∈ policy.bands) (hpercent : percent ≤ 100)
    (hshare : hundredths DEFAULT_PRECISION (c.quote.listPriceMinor * percent) = some share)
    (happroved : status = .approved →
      floor ≤ c.quote.listPriceMinor - share ∧ requiresHuman = false)
    (hnone : status = .notApplicable → percent = 0) :
    decision u policy c now ⟨c.quote.listPriceMinor, c.quote.currency⟩ band percent
        ⟨floor, c.quote.currency⟩ status reason triggers requiresHuman =
      .ok (made policy c now band percent share floor status reason triggers requiresHuman) := by
  have hle : share ≤ c.quote.listPriceMinor :=
    hundredths_le (Nat.mul_le_mul_left _ hpercent) hshare
  have hsub := Money.sub_of_le (u := u) (a := ⟨c.quote.listPriceMinor, c.quote.currency⟩)
    (b := ⟨share, c.quote.currency⟩) rfl hle hpromised.currency hupper
  have hname : ((band.map DiscountBand.name).getD "").length ≤ 48 := by
    cases band with
    | none => decide
    | some b => exact hpromised.names b (hband b rfl)
  have hconstruct : (made policy c now band percent share floor status reason triggers
      requiresHuman).construct = .ok (made policy c now band percent share floor status reason
        triggers requiresHuman) := by
    apply construct_of_valid
    · simp [lengths, made, hpromised.conversationRef, hpromised.demoId, hname, hpromised.currency,
        hpromised.stamp]
    · refine ⟨hpercent, ?_, fun h => (happroved h).1, fun h hhuman => ?_, hnone⟩
      · simp only [made]
        omega
      · rw [made, (happroved h).2] at hhuman
        cases hhuman
  by_cases hzero : percent = 0
  · subst hzero
    have hshare' : share = 0 := by
      rw [Nat.mul_zero] at hshare
      exact (Option.some.inj hshare).symm
    subst hshare'
    have hmake := Money.make_of_upper 0 hpromised.currency hupper
    rw [Nat.cast_zero] at hmake
    simp only [decision, if_true, hmake, hsub, bind, Except.bind]
    exact hconstruct
  · have hdiscount := Money.percent_of_upper (m := ⟨c.quote.listPriceMinor, c.quote.currency⟩)
      hpromised.currency hupper hpercent
    rw [hshare] at hdiscount
    simp only [made, if_neg hzero] at hconstruct
    simp only [decision, made, if_neg hzero, hdiscount, hsub, bind, Except.bind]
    exact hconstruct

/-- A refusal always is constructed. -/
theorem refuse_eq (hpromised : Promised policy c) (hupper : u.isupper c.quote.currency = true)
    {floor : Nat} {reason : DenialReason} {status : DiscountStatus} {human : Bool}
    (hstatus : status ≠ .approved) :
    refuse u policy c now ⟨c.quote.listPriceMinor, c.quote.currency⟩ ⟨floor, c.quote.currency⟩
        reason status human =
      .ok (made policy c now none 0 0 floor status reason [] human) :=
  decision_of_share hpromised hupper nofun (Nat.zero_le _) (by rw [Nat.mul_zero]; rfl)
    (fun h => absurd h hstatus) fun _ => rfl

/-- The status and the triggers of what a band gives. -/
def awarded (policy : DiscountPolicy) (c : DiscountCase) (now : Time) (band : DiscountBand)
    (percent share floor : Nat) (triggers : List ObjectionCategory) : DiscountDecision :=
  made policy c now (some band) percent share floor
    (if policy.maxAutoApprovePercent < percent then .escalated else .approved) .none
    (ObjectionCategory.sorted.filter fun t => t ∈ triggers && t.value ∈ band.triggers)
    (policy.maxAutoApprovePercent < percent)

/-- What a band gives is constructed, if its share comes out and does not go below the floor. -/
theorem award_eq (hpromised : Promised policy c) (hupper : u.isupper c.quote.currency = true)
    {band : DiscountBand} (hband : band ∈ policy.bands) {percent share floor : Nat}
    {triggers : List ObjectionCategory} (hpercent : percent ≤ 100)
    (hshare : hundredths DEFAULT_PRECISION (c.quote.listPriceMinor * percent) = some share)
    (hfloor : floor ≤ c.quote.listPriceMinor - share) :
    award u policy c now ⟨c.quote.listPriceMinor, c.quote.currency⟩ ⟨floor, c.quote.currency⟩ band
        percent triggers =
      .ok (awarded policy c now band percent share floor triggers) := by
  have hmem : ∀ b ∈ some band, b ∈ policy.bands := by
    rintro _ ⟨⟩
    exact hband
  by_cases hhuman : policy.maxAutoApprovePercent < percent
  · simp only [award, awarded, hhuman, decide_true, if_true]
    exact decision_of_share hpromised hupper hmem hpercent hshare nofun nofun
  · simp only [award, awarded, hhuman, decide_false, Bool.false_eq_true, if_false]
    exact decision_of_share hpromised hupper hmem hpercent hshare (fun _ => ⟨hfloor, rfl⟩) nofun

/-- The gates that a case has to pass before a band is looked for. -/
structure Admitted (policy : DiscountPolicy) (c : DiscountCase) (priorOffers : Int) : Prop where
  enabled : c.enabled = true
  held : c.outcome ≠ .notHeld ∧ c.outcome ≠ .unknown
  offers : priorOffers < policy.maxOffersPerCustomerPerDays
  requests : c.repeatRequests < policy.escalateAfterRepeatRequests

instance (policy : DiscountPolicy) (c : DiscountCase) (priorOffers : Int) :
    Decidable (Admitted policy c priorOffers) :=
  decidable_of_iff (c.enabled = true ∧ (c.outcome ≠ .notHeld ∧ c.outcome ≠ .unknown) ∧
      priorOffers < policy.maxOffersPerCustomerPerDays ∧
      c.repeatRequests < policy.escalateAfterRepeatRequests)
    ⟨fun ⟨h₁, h₂, h₃, h₄⟩ => ⟨h₁, h₂, h₃, h₄⟩, fun ⟨h₁, h₂, h₃, h₄⟩ => ⟨h₁, h₂, h₃, h₄⟩⟩

/-- The band a case is in, if it comes to one that gives anything. -/
def reached (policy : DiscountPolicy) (c : DiscountCase) (priorOffers : Int) :
    Option DiscountBand :=
  if Admitted policy c priorOffers then
    (policy.selectBand (explicitCategories (c.objections.getD []))).filter fun band =>
      band.maxPercent ≠ 0
  else none

/-- What the engine does with a band, once the floor is known. -/
def inBand (u : Letters) (policy : DiscountPolicy) (c : DiscountCase) (now : Time)
    (price floor : Money) (band : DiscountBand) : Except String DiscountDecision := do
  let triggers := explicitCategories (c.objections.getD [])
  let payable ← price.sub u (← price.percent u band.maxPercent)
  if payable.minor < floor.minor then
    let payable ← price.sub u (← price.percent u band.minPercent)
    if payable.minor < floor.minor ∨ band.minPercent = 0 then
      refuse u policy c now price floor .priceFloorBreached .denied
    else award u policy c now price floor band band.minPercent triggers
  else award u policy c now price floor band band.maxPercent triggers

/-- **Either the case is refused, or it is in a band.** -/
theorem evaluate_of_floor (hpromised : Promised policy c)
    (hupper : u.isupper c.quote.currency = true) {priorOffers : Int} {floor : Nat}
    (hfloor : hundredths DEFAULT_PRECISION
      (c.quote.listPriceMinor * policy.priceFloorPercentOfList) = some floor) :
    match reached policy c priorOffers with
    | some band => evaluate u policy c now priorOffers =
        inBand u policy c now ⟨c.quote.listPriceMinor, c.quote.currency⟩
          ⟨floor, c.quote.currency⟩ band
    | none => ∃ status reason human, status ≠ .approved ∧ evaluate u policy c now priorOffers =
        .ok (made policy c now none 0 0 floor status reason [] human) := by
  have hmake := Money.make_of_upper c.quote.listPriceMinor hpromised.currency hupper
  have hpercent := Money.percent_of_upper (m := ⟨c.quote.listPriceMinor, c.quote.currency⟩)
    hpromised.currency hupper policy.bounded.2.2.1
  rw [hfloor] at hpercent
  simp only [evaluate, hmake, hpercent, bind, Except.bind]
  by_cases hadmitted : Admitted policy c priorOffers
  · obtain ⟨henabled, hheld, hoffers, hrequests⟩ := hadmitted
    rw [reached, if_pos ⟨henabled, hheld, hoffers, hrequests⟩]
    have houtcome : ¬ (c.outcome = .notHeld ∨ c.outcome = .unknown) := not_or.mpr hheld
    simp only [henabled, Bool.not_true, Bool.false_eq_true, if_false, houtcome,
      Int.not_le.mpr hoffers, Int.not_le.mpr hrequests]
    split
    · rename_i band hband
      rw [hband]
      rfl
    · rename_i hband
      rw [hband]
      exact ⟨_, _, _, by decide, refuse_eq hpromised hupper (by decide)⟩
  · rw [reached, if_neg hadmitted]
    split_ifs with henabled houtcome hoffers hrequests
    · exact ⟨_, _, _, by decide, refuse_eq hpromised hupper (by decide)⟩
    · exact ⟨_, _, _, by decide, refuse_eq hpromised hupper (by decide)⟩
    · exact ⟨_, _, _, by decide, refuse_eq hpromised hupper (by decide)⟩
    · exact ⟨_, _, _, by decide, refuse_eq hpromised hupper (by decide)⟩
    · refine absurd ⟨by simpa using henabled, not_or.mp houtcome, Int.not_le.mp hoffers,
        Int.not_le.mp hrequests⟩ hadmitted

/-- **What the engine does with a band.** It gives the most, or the least, or nothing. -/
theorem inBand_eq (hpromised : Promised policy c) (hupper : u.isupper c.quote.currency = true)
    {band : DiscountBand} (hband : band ∈ policy.bands) (floor : Nat) :
    inBand u policy c now ⟨c.quote.listPriceMinor, c.quote.currency⟩ ⟨floor, c.quote.currency⟩
        band =
      match hundredths DEFAULT_PRECISION (c.quote.listPriceMinor * band.maxPercent) with
      | none => .error "InvalidOperation"
      | some most =>
        if c.quote.listPriceMinor - most < floor then
          match hundredths DEFAULT_PRECISION (c.quote.listPriceMinor * band.minPercent) with
          | none => .error "InvalidOperation"
          | some least =>
            if c.quote.listPriceMinor - least < floor ∨ band.minPercent = 0 then
              .ok (made policy c now none 0 0 floor .denied .priceFloorBreached [] false)
            else .ok (awarded policy c now band band.minPercent least floor
              (explicitCategories (c.objections.getD [])))
        else .ok (awarded policy c now band band.maxPercent most floor
          (explicitCategories (c.objections.getD []))) := by
  have hmax : band.maxPercent ≤ 100 := band.ordered.2
  have hmin : band.minPercent ≤ 100 := band.ordered.1.trans hmax
  have hpercent {percent : Nat} (h : percent ≤ 100) :=
    Money.percent_of_upper (u := u) (m := ⟨c.quote.listPriceMinor, c.quote.currency⟩)
      hpromised.currency hupper h
  have hsub {percent share : Nat} (h : percent ≤ 100)
      (hshare : hundredths DEFAULT_PRECISION (c.quote.listPriceMinor * percent) = some share) :=
    Money.sub_of_le (u := u) (a := ⟨c.quote.listPriceMinor, c.quote.currency⟩)
      (b := ⟨share, c.quote.currency⟩) rfl (hundredths_le (Nat.mul_le_mul_left _ h) hshare)
      hpromised.currency hupper
  simp only [inBand, hpercent hmax, hpercent hmin, bind, Except.bind]
  cases hmost : hundredths DEFAULT_PRECISION (c.quote.listPriceMinor * band.maxPercent) with
  | none => rfl
  | some most =>
    simp only [hsub hmax hmost]
    split_ifs with hbelow
    · cases hleast : hundredths DEFAULT_PRECISION
          (c.quote.listPriceMinor * band.minPercent) with
      | none => rfl
      | some least =>
        simp only [hsub hmin hleast]
        split_ifs with hnothing
        · exact refuse_eq hpromised hupper (by decide)
        · exact award_eq hpromised hupper hband hmin hleast
            (Nat.not_lt.mp (not_or.mp hnothing).1)
    · exact award_eq hpromised hupper hband hmax hmost (Nat.not_lt.mp hbelow)

/-! ## The engine stays within its policy -/

/-- **A decision within the policy.** What is to be paid is the list price without its percentage,
rounded half-up, and not below the floor; the percentage is the least or the most of a band that
applies, none that applies giving more; and nothing is approved that a human, the limits or the demo
stand against. -/
structure WithinPolicy (policy : DiscountPolicy) (c : DiscountCase) (priorOffers : Int)
    (d : DiscountDecision) : Prop where
  list : d.listPriceMinor = c.quote.listPriceMinor
  floor : d.floorMinor = percentOf c.quote.listPriceMinor policy.priceFloorPercentOfList
  payable : (d.payableMinor : Int) =
    c.quote.listPriceMinor - percentOf c.quote.listPriceMinor d.percent
  aboveFloor : d.floorMinor ≤ d.payableMinor
  percent : d.percent = 0 ∨ ∃ band ∈ policy.bands, band.Qualifies c ∧
    (∀ other ∈ policy.bands, other.Qualifies c → other.maxPercent ≤ band.maxPercent) ∧
    d.bandName = band.name ∧ (d.percent = band.minPercent ∨ d.percent = band.maxPercent)
  approved : d.status = .approved → d.percent ≤ policy.maxAutoApprovePercent ∧
    priorOffers < policy.maxOffersPerCustomerPerDays ∧
    c.repeatRequests < policy.escalateAfterRepeatRequests ∧
    c.outcome ≠ .notHeld ∧ c.outcome ≠ .unknown

/-- The percentage of the price comes out of decimals as it should. -/
def ComesOut (c : DiscountCase) (percent : Nat) : Prop :=
  RoundsOnce DEFAULT_PRECISION (c.quote.listPriceMinor * percent)

/-- What the band's percentages need: the most it gives does not raise, and comes out unless it goes
below the floor; then the least comes out, if it gives anything and does not. -/
def BandComesOut (policy : DiscountPolicy) (c : DiscountCase) (band : DiscountBand) : Prop :=
  let floor := percentOf c.quote.listPriceMinor policy.priceFloorPercentOfList
  ∃ most, hundredths DEFAULT_PRECISION (c.quote.listPriceMinor * band.maxPercent) = some most ∧
    if floor ≤ c.quote.listPriceMinor - most then ComesOut c band.maxPercent
    else ∀ least,
      hundredths DEFAULT_PRECISION (c.quote.listPriceMinor * band.minPercent) = some least →
        floor ≤ c.quote.listPriceMinor - least → band.minPercent ≠ 0 → ComesOut c band.minPercent

theorem comesOut_iff {percent : Nat} : ComesOut c percent ↔
    hundredths DEFAULT_PRECISION (c.quote.listPriceMinor * percent) =
      some (percentOf c.quote.listPriceMinor percent) :=
  (hundredths_eq_iff (by decide)).symm

/-- A percentage is not more than the amount. -/
theorem percentOf_le (minor : Nat) {percent : Nat} (h : percent ≤ 100) :
    percentOf minor percent ≤ minor := by
  have hle := Nat.mul_le_mul_left minor h
  unfold percentOf
  omega

/-- A refusal is within the policy exactly if its floor is the right one. -/
theorem within_refusal_iff {priorOffers : Int} {floor : Nat} {status : DiscountStatus}
    {reason : DenialReason} {human : Bool} (hstatus : status ≠ .approved) :
    WithinPolicy policy c priorOffers (made policy c now none 0 0 floor status reason [] human) ↔
      floor = percentOf c.quote.listPriceMinor policy.priceFloorPercentOfList := by
  constructor
  · exact fun h => h.floor
  · rintro rfl
    refine ⟨rfl, rfl, ?_, ?_, .inl rfl, fun h => absurd h hstatus⟩
    · simp [made, percentOf]
    · exact percentOf_le _ policy.bounded.2.2.1

/-- What a band gives is within the policy exactly if its percentage came out. -/
theorem within_awarded_iff (now : Time) (triggers : List ObjectionCategory) {priorOffers : Int}
    {band : DiscountBand}
    (hreached : reached policy c priorOffers = some band) {percent share : Nat}
    (hpercent : percent = band.minPercent ∨ percent = band.maxPercent) (hle : percent ≤ 100)
    (hshare : hundredths DEFAULT_PRECISION (c.quote.listPriceMinor * percent) = some share)
    (hfloor : percentOf c.quote.listPriceMinor policy.priceFloorPercentOfList ≤
      c.quote.listPriceMinor - share) :
    WithinPolicy policy c priorOffers (awarded policy c now band percent share
        (percentOf c.quote.listPriceMinor policy.priceFloorPercentOfList) triggers) ↔
      ComesOut c percent := by
  have hsmall : share ≤ c.quote.listPriceMinor :=
    hundredths_le (Nat.mul_le_mul_left _ hle) hshare
  have hright := percentOf_le c.quote.listPriceMinor hle
  rw [comesOut_iff, hshare, Option.some_inj]
  constructor
  · intro h
    have hpayable := h.payable
    simp only [awarded, made] at hpayable
    omega
  · rintro rfl
    unfold reached at hreached
    split at hreached
    · rename_i hadmitted
      obtain ⟨hselected, -⟩ := Option.filter_eq_some_iff.mp hreached
      obtain ⟨hband, hqualifies, hbest⟩ := DiscountPolicy.of_selectBand hselected
      refine ⟨rfl, rfl, ?_, hfloor, .inr ⟨band, hband, hqualifies, hbest, rfl, hpercent⟩, ?_⟩
      · simp only [awarded, made]
        omega
      · intro happroved
        refine ⟨?_, hadmitted.offers, hadmitted.requests, hadmitted.held⟩
        have hstatus : (if policy.maxAutoApprovePercent < percent then DiscountStatus.escalated
            else .approved) = .approved := happroved
        split_ifs at hstatus with hhuman
        exact Nat.not_lt.mp hhuman
    · cases hreached

theorem mem_of_reached {priorOffers : Int} {band : DiscountBand}
    (h : reached policy c priorOffers = some band) : band ∈ policy.bands := by
  unfold reached at h
  split at h
  · exact (DiscountPolicy.of_selectBand (Option.filter_eq_some_iff.mp h).1).1
  · cases h

/-- Whatever is decided in a band, its floor is the one that was computed. -/
theorem floorMinor_of_inBand (hpromised : Promised policy c)
    (hupper : u.isupper c.quote.currency = true) {band : DiscountBand}
    (hband : band ∈ policy.bands) {floor : Nat} {d : DiscountDecision}
    (h : inBand u policy c now ⟨c.quote.listPriceMinor, c.quote.currency⟩
      ⟨floor, c.quote.currency⟩ band = .ok d) : d.floorMinor = floor := by
  rw [inBand_eq hpromised hupper hband] at h
  split at h
  · cases h
  · split_ifs at h
    · split at h
      · cases h
      · split_ifs at h <;> (cases h; rfl)
    · cases h
      rfl

/-- **In a band the engine stays within its policy**, exactly if the percentages come out. -/
theorem inBand_within_iff (hpromised : Promised policy c)
    (hupper : u.isupper c.quote.currency = true) {priorOffers : Int} {band : DiscountBand}
    (hreached : reached policy c priorOffers = some band) (hband : band ∈ policy.bands) :
    (∃ d, inBand u policy c now ⟨c.quote.listPriceMinor, c.quote.currency⟩
        ⟨percentOf c.quote.listPriceMinor policy.priceFloorPercentOfList, c.quote.currency⟩ band =
          .ok d ∧ WithinPolicy policy c priorOffers d) ↔ BandComesOut policy c band := by
  have hmax : band.maxPercent ≤ 100 := band.ordered.2
  have hmin : band.minPercent ≤ 100 := band.ordered.1.trans hmax
  rw [inBand_eq hpromised hupper hband, BandComesOut]
  cases hmost : hundredths DEFAULT_PRECISION (c.quote.listPriceMinor * band.maxPercent) with
  | none => simp
  | some most =>
    simp only [Option.some_inj, exists_eq_left']
    by_cases hbelow : c.quote.listPriceMinor - most <
        percentOf c.quote.listPriceMinor policy.priceFloorPercentOfList
    · -- the least that the band gives does not raise, since the most did not
      obtain ⟨least, hleast⟩ : ∃ least, hundredths DEFAULT_PRECISION
          (c.quote.listPriceMinor * band.minPercent) = some least := by
        rw [← Option.ne_none_iff_exists']
        intro hnone
        have hnot : hundredths DEFAULT_PRECISION (c.quote.listPriceMinor * band.maxPercent) =
            none := by
          rw [hundredths_eq_none_iff (by decide)] at hnone ⊢
          exact hnone.trans (Nat.add_le_add_right
            (Nat.mul_le_mul_left _ band.ordered.1) 50)
        rw [hmost] at hnot
        cases hnot
      rw [if_pos hbelow, if_neg (Nat.not_le.mpr hbelow), hleast]
      simp only [Option.some_inj, forall_eq']
      by_cases hnothing : c.quote.listPriceMinor - least <
          percentOf c.quote.listPriceMinor policy.priceFloorPercentOfList ∨ band.minPercent = 0
      · rw [if_pos hnothing]
        refine ⟨fun _ hfloor hgives => ?_, fun _ => ⟨_, rfl, ?_⟩⟩
        · exact absurd hnothing (not_or.mpr ⟨Nat.not_lt.mpr hfloor, hgives⟩)
        · exact (within_refusal_iff (by decide)).mpr rfl
      · rw [if_neg hnothing]
        obtain ⟨hfloor, hgives⟩ := not_or.mp hnothing
        have hwithin := within_awarded_iff now (explicitCategories (c.objections.getD []))
          hreached (.inl rfl) hmin hleast (Nat.not_lt.mp hfloor)
        constructor
        · rintro ⟨d, ⟨⟩, hd⟩ - -
          exact hwithin.mp hd
        · exact fun h => ⟨_, rfl, hwithin.mpr (h (Nat.not_lt.mp hfloor) hgives)⟩
    · rw [if_neg hbelow, if_pos (Nat.not_lt.mp hbelow)]
      have hwithin := within_awarded_iff now (explicitCategories (c.objections.getD []))
        hreached (.inr rfl) hmax hmost (Nat.not_lt.mp hbelow)
      constructor
      · rintro ⟨d, ⟨⟩, hd⟩
        exact hwithin.mp hd
      · exact fun h => ⟨_, rfl, hwithin.mpr h⟩

/-- Percentages of a price of 26 digits have 28, and come out. -/
theorem comesOut_of_lt (hprice : c.quote.listPriceMinor < 10 ^ 26) {percent : Nat}
    (hpercent : percent ≤ 100) : ComesOut c percent := by
  have hlt : c.quote.listPriceMinor * percent < 10 ^ DEFAULT_PRECISION := by
    have hle := Nat.mul_le_mul_left c.quote.listPriceMinor hpercent
    rw [DEFAULT_PRECISION]
    omega
  rw [ComesOut, RoundsOnce, if_pos hlt]
  trivial

theorem bandComesOut_of_lt (hprice : c.quote.listPriceMinor < 10 ^ 26) (band : DiscountBand) :
    BandComesOut policy c band := by
  have hmax : band.maxPercent ≤ 100 := band.ordered.2
  refine ⟨_, comesOut_iff.mp (comesOut_of_lt hprice hmax), ?_⟩
  split_ifs
  · exact comesOut_of_lt hprice hmax
  · exact fun _ _ _ _ => comesOut_of_lt hprice (band.ordered.1.trans hmax)

/-! ## A quote in small letters -/

/-- Someone who finds it too dear, a price in a currency. -/
def tooDear (price : Nat) (currency : String) : DiscountCase where
  conversationRef := "c"
  demoId := "d"
  quote := { listPriceMinor := price, currency }
  objections := some [⟨.price, .explicit⟩]
  outcome := .neutral

theorem tooDear_promised {price : Nat} {currency : String} (h : currency.length = 3) :
    Promised priceSensitive (tooDear price currency) where
  currency := h
  conversationRef := (by decide : "c".length ≤ 128)
  demoId := (by decide : "d".length ≤ 64)
  stamp := by decide
  names := by decide

end DiscountCapability

end NxTutors.DemoAgent
