import NxTutors.DemoAgent.Ingress
import NxTutors.Numbers.Decimal

/-!
# What the payment provider is sent, and what is read of what it sends

An order goes out with its amount in rupees, and a body comes back with the amount of the payment
or, without one, of the order. On the way back the amount goes through decimals of 28 digits. An
event is stored under the provider's id of the payment, or under the order and the type of the
event where there is none.

So two things depend on what a body leaves out. An amount that is there and is null counts as the
amount. And events of one payment are told apart by their type only where the payment has no id.
-/

namespace NxTutors.DemoAgent

open Text (Json)
open Numbers

/-! ## The order that is sent -/

namespace PaymentOrder

/-- What the constructor checks. -/
structure Accepted (o : PaymentOrder) : Prop where
  orderRef : o.orderRef.length ≤ 64
  conversationRef : o.conversationRef.length ≤ 128
  demoId : o.demoId.length ≤ 64
  amountMinor : 1 ≤ o.amountMinor
  currency : o.currency.length = 3
  expires : o.createdAt < o.expiresAt

end PaymentOrder

/-- The body of the request that creates an order. -/
structure CashfreeOrder where
  orderId : String
  /-- major units -/
  orderAmount : ℚ
  orderCurrency : String
  customerId : String
  returnUrl : Option String
  orderNote : String

/-- `CashfreeClient.create_order`, up to the request. -/
def CashfreeOrder.create (enabled : Bool) (order : PaymentOrder) (offer : ApprovedOffer)
    (returnUrl : String) : Except Exn CashfreeOrder :=
  if !enabled then .error (.other "ProviderUnavailable")
  else if order.amountMinor ≠ offer.amountMinor ∨ order.currency ≠ offer.currency then
    .error (.other "ProviderRejected")
  else
    .ok { orderId := order.orderRef
          orderAmount := div DEFAULT_PRECISION order.amountMinor 100
          orderCurrency := order.currency
          customerId := (order.studentRef.filter (· ≠ "")).getD order.conversationRef
          returnUrl := if returnUrl = "" then none else some returnUrl
          orderNote := "NXTutors demo conversion " ++ order.demoId }

/-! ## The event that is read -/

/-- The types of events that are known. -/
def CASHFREE_KINDS : List (String × PaymentEventKind) :=
  [("PAYMENT_SUCCESS_WEBHOOK", .success), ("PAYMENT_FAILED_WEBHOOK", .failed),
    ("PAYMENT_USER_DROPPED_WEBHOOK", .userDropped)]

def cashfreeKind (type : String) : PaymentEventKind := (CASHFREE_KINDS.lookup type).getD .unknown

/-- Only one type is a success. -/
theorem cashfreeKind_eq_success_iff {type : String} :
    cashfreeKind type = .success ↔ type = "PAYMENT_SUCCESS_WEBHOOK" := by
  constructor
  · intro h
    by_contra hne
    rw [cashfreeKind, CASHFREE_KINDS, List.lookup_cons, beq_false_of_ne hne] at h
    simp only [List.lookup_cons, List.lookup_nil] at h
    split at h
    · cases h
    · split at h <;> cases h
  · rintro rfl
    decide

/-- An event, with what is kept of the body. -/
structure CashfreeEvent extends PaymentEvent where
  providerReference : String
  rawDigest : String
  deriving DecidableEq, Repr

namespace CashfreeEvent

/-- The limits the constructor checks, by the names of the fields. -/
def checks (e : CashfreeEvent) : List (String × Bool) :=
  [("provider_event_id", e.providerEventId.length ≤ 128), ("order_ref", e.orderRef.length ≤ 64),
    ("amount_minor", 0 ≤ e.amountMinor), ("currency", e.currency.length = 3),
    ("provider_reference", e.providerReference.length ≤ 128),
    ("raw_digest", e.rawDigest.length ≤ 64)]

/-- The fields that are over their limits. -/
def refused (e : CashfreeEvent) : List String := (e.checks.filter fun c => !c.2).map Prod.fst

/-- An event that is within all limits. -/
structure Accepted (e : CashfreeEvent) : Prop where
  providerEventId : e.providerEventId.length ≤ 128
  orderRef : e.orderRef.length ≤ 64
  amountMinor : 0 ≤ e.amountMinor
  currency : e.currency.length = 3
  providerReference : e.providerReference.length ≤ 128
  rawDigest : e.rawDigest.length ≤ 64

theorem refused_eq_nil_iff {e : CashfreeEvent} : e.refused = [] ↔ e.Accepted := by
  have hchecks : e.refused = [] ↔ ∀ c ∈ e.checks, c.2 = true := by
    simp [refused]
  rw [hchecks]
  constructor
  · intro h
    simp only [checks, List.forall_mem_cons, decide_eq_true_eq] at h
    exact ⟨h.1, h.2.1, h.2.2.1, h.2.2.2.1, h.2.2.2.2.1, h.2.2.2.2.2.1⟩
  · rintro ⟨hid, href, hamount, hcurrency, hreference, hdigest⟩
    simp [checks, hid, href, hamount, hcurrency, hreference, hdigest]

end CashfreeEvent

/-- What reading a body rests on: how digits are written, what a text says of time, taken as
universal where it names no zone (there may be no such instant), and the clock. -/
structure BodyReader where
  numerals : Numerals
  fromisoformat : String → Option (Option Time)
  now : Time

/-- When an event happened, if there is such an instant: what is no time is now. -/
def BodyReader.occurred (r : BodyReader) (raw : String) : Option Time :=
  match r.fromisoformat raw with
  | none => some r.now
  | some instant => instant

/-- `int((Decimal(str(raw_amount)) * 100).quantize(...))`. -/
def minorUnits (t : Numerals) (raw : String) : Except Exn Int :=
  match ofText t raw with
  | none => .error (.other "InvalidOperation")
  | some major =>
    match quantize DEFAULT_PRECISION (mul DEFAULT_PRECISION major 100) with
    | none => .error (.other "InvalidOperation")
    | some minor => .ok minor

/-- `value.get(key, default)`, which raises unless the value is a dictionary. -/
def fieldOr (j : Json) (key : String) (default : Json) : Except Exn Json :=
  match j.getOr? key default with
  | some value => .ok value
  | none => .error (.other "AttributeError")

/-- The dictionaries of a body: the order, and the payment. -/
def bodyParts (payload : Json) : Except Exn (Json × Json) := do
  let data := (← field payload "data").orDict
  let order := (← field data "order").orDict
  let payment := (← field data "payment").orDict
  return (order, payment)

/-- The constructor of an event, at an instant if there is one. -/
def CashfreeEvent.construct (occurred : Option Time) (event : Time → CashfreeEvent) :
    Except Exn CashfreeEvent :=
  if (event (occurred.getD 0)).refused ≠ [] then .error (.other "ValidationError")
  else
    match occurred with
    | none => .error (.other "OverflowError")
    | some t => .ok (event t)

/-- **`parse_cashfree_event`.** None is a body without an order. -/
def parseCashfreeEvent (r : BodyReader) (payload : Json) (rawDigest : String) :
    Except Exn (Option CashfreeEvent) := do
  let (order, payment) ← bodyParts payload
  let orderRef := (← field order "order_id").textOrEmpty
  if orderRef = "" then return none
  else
    let type ← field payload "type"
    let orderAmount ← fieldOr order "order_amount" (.number true "0")
    let amountMinor ← minorUnits r.numerals (← fieldOr payment "payment_amount" orderAmount).text
    let occurred := r.occurred (← field payload "event_time").textOrEmpty
    let paymentId ← field payment "cf_payment_id"
    let currency := ((← field payment "payment_currency").either
      (← field order "order_currency")).either (.string "INR")
    let reference ← field payment "bank_reference"
    let event ← CashfreeEvent.construct occurred fun occurredAt =>
      { providerEventId := (paymentId.either (.string (orderRef ++ ":" ++ type.text))).text
        kind := cashfreeKind type.textOrEmpty
        orderRef, amountMinor, currency := currency.text, occurredAt
        signatureVerified := true
        providerReference := reference.textOrEmpty, rawDigest }
    return some event

/-! ## Bodies of the provider's shape -/

/-- A body that holds an order and a payment, both dictionaries. -/
structure HoldsPayment (payload order payment : Json) : Prop where
  parts : bodyParts payload = .ok (order, payment)
  orderDict : ∃ text fields, order = .object text fields
  paymentDict : ∃ text fields, payment = .object text fields

/-- What a dictionary has under a key; nothing is null. -/
def itemOf (j : Json) (key : String) : Json := (j.item? key).getD .null

/-- What an event is made of, once the amount is known. -/
def eventOf (payload order payment : Json) (amountMinor : Int) (rawDigest : String)
    (occurredAt : Time) : CashfreeEvent where
  providerEventId := ((itemOf payment "cf_payment_id").either
    (.string ((itemOf order "order_id").textOrEmpty ++ ":" ++ (itemOf payload "type").text))).text
  kind := cashfreeKind (itemOf payload "type").textOrEmpty
  orderRef := (itemOf order "order_id").textOrEmpty
  amountMinor
  currency := (((itemOf payment "payment_currency").either
    (itemOf order "order_currency")).either (.string "INR")).text
  occurredAt
  signatureVerified := true
  providerReference := (itemOf payment "bank_reference").textOrEmpty
  rawDigest

/-- The amount the parser reads. -/
def rawAmount (order payment : Json) : Json :=
  (payment.item? "payment_amount").getD ((order.item? "order_amount").getD (.number true "0"))

section Reading

variable {r : BodyReader} {payload order payment : Json} {rawDigest : String}

theorem field_object (text : String) (fields : List (String × Json)) (key : String) :
    field (.object text fields) key = .ok (itemOf (.object text fields) key) := rfl

theorem fieldOr_object (text : String) (fields : List (String × Json)) (key : String)
    (default : Json) : fieldOr (.object text fields) key default =
      .ok (((Json.object text fields).item? key).getD default) := rfl

/-- A body that has parts is a dictionary. -/
theorem object_of_parts (h : bodyParts payload = .ok (order, payment)) :
    ∃ text fields, payload = .object text fields := by
  cases payload with
  | object text fields => exact ⟨text, fields, rfl⟩
  | _ => cases h

/-- **What the parser does** with a body of the provider's shape. -/
theorem parse_of_holds (h : HoldsPayment payload order payment) :
    parseCashfreeEvent r payload rawDigest =
      if (itemOf order "order_id").textOrEmpty = "" then .ok none
      else
        (minorUnits r.numerals (rawAmount order payment).text).bind fun amountMinor =>
          (CashfreeEvent.construct (r.occurred (itemOf payload "event_time").textOrEmpty)
            (eventOf payload order payment amountMinor rawDigest)).map some := by
  obtain ⟨orderText, orderFields, rfl⟩ := h.orderDict
  obtain ⟨paymentText, paymentFields, rfl⟩ := h.paymentDict
  obtain ⟨text, fields, rfl⟩ := object_of_parts h.parts
  simp only [parseCashfreeEvent, h.parts, field_object, fieldOr_object, bind, Except.bind, pure,
    Except.pure, rawAmount]
  split_ifs with hnamed
  · rfl
  · split
    · rfl
    · rename_i amountMinor _
      unfold eventOf
      cases CashfreeEvent.construct (r.occurred _) _ with
      | error exn => rfl
      | ok e => rfl

theorem construct_eq_ok_iff {occurred : Option Time} {event : Time → CashfreeEvent}
    {e : CashfreeEvent} : CashfreeEvent.construct occurred event = .ok e ↔
      (event (occurred.getD 0)).Accepted ∧ ∃ t, occurred = some t ∧ e = event t := by
  unfold CashfreeEvent.construct
  split_ifs with hrefused
  · refine ⟨nofun, fun ⟨haccepted, _⟩ => ?_⟩
    exact absurd (CashfreeEvent.refused_eq_nil_iff.mpr haccepted) hrefused
  · have haccepted := CashfreeEvent.refused_eq_nil_iff.mp (not_not.mp hrefused)
    cases occurred with
    | none => exact ⟨nofun, fun ⟨_, _, h, _⟩ => nomatch h⟩
    | some t =>
      constructor
      · intro h
        cases h
        exact ⟨haccepted, t, rfl, rfl⟩
      · rintro ⟨-, t', ht, rfl⟩
        cases ht
        rfl

/-- **What is read, and when.** -/
theorem parse_eq_some_iff (h : HoldsPayment payload order payment) {e : CashfreeEvent} :
    parseCashfreeEvent r payload rawDigest = .ok (some e) ↔
      (itemOf order "order_id").textOrEmpty ≠ "" ∧ ∃ amountMinor,
        minorUnits r.numerals (rawAmount order payment).text = .ok amountMinor ∧ ∃ t,
          r.occurred (itemOf payload "event_time").textOrEmpty = some t ∧
          (eventOf payload order payment amountMinor rawDigest t).Accepted ∧
          e = eventOf payload order payment amountMinor rawDigest t := by
  rw [parse_of_holds h]
  split_ifs with hnamed
  · exact ⟨nofun, fun h => absurd hnamed h.1⟩
  cases hminor : minorUnits r.numerals (rawAmount order payment).text with
  | error exn => exact ⟨nofun, fun ⟨_, _, h, _⟩ => nomatch h⟩
  | ok amountMinor =>
    simp only [Except.bind]
    cases hmade : CashfreeEvent.construct (r.occurred (itemOf payload "event_time").textOrEmpty)
        (eventOf payload order payment amountMinor rawDigest) with
    | error exn =>
      refine ⟨nofun, ?_⟩
      rintro ⟨-, _, ⟨⟩, t, ht, haccepted, -⟩
      have hok := (construct_eq_ok_iff (e := _)).mpr ⟨by rw [ht]; exact haccepted, t, ht, rfl⟩
      rw [hok] at hmade
      cases hmade
    | ok made =>
      obtain ⟨haccepted, t, ht, rfl⟩ := construct_eq_ok_iff.mp hmade
      rw [ht] at haccepted
      constructor
      · intro hsome
        cases hsome
        exact ⟨hnamed, amountMinor, rfl, t, ht, haccepted, rfl⟩
      · rintro ⟨-, _, ⟨⟩, t', ht', -, rfl⟩
        rw [ht] at ht'
        cases ht'
        rfl

end Reading

/-! ## The amount comes back -/

/-- A whole number of paise, sent in rupees, read, and taken to paise again. -/
theorem minor_of_major {n : Nat} :
    quantize DEFAULT_PRECISION (mul DEFAULT_PRECISION (div DEFAULT_PRECISION (n : ℚ) 100) 100) =
      if n < 10 ^ DEFAULT_PRECISION then some (n : Int) else none := by
  have hcents : (n : ℚ) / 100 = ((n : Int) : ℚ) * 10 ^ (-2 : Int) := by
    push_cast
    norm_num
    ring
  split_ifs with hn
  · have hfits : |(n : Int)| < 10 ^ DEFAULT_PRECISION := by
      rw [Nat.abs_cast]
      exact_mod_cast hn
    have hmajor : div DEFAULT_PRECISION (n : ℚ) 100 = (n : ℚ) / 100 := by
      rw [div, hcents, rounded_of_fits hfits]
    have hminor : (n : ℚ) / 100 * 100 = n := by ring
    rw [hmajor, mul, hminor, quantize_rounded_natCast (by decide), if_pos hn]
  · -- the rupees have too many digits, and so have the paise
    have hmajor : (10 : ℚ) ^ (26 : Int) ≤ div DEFAULT_PRECISION (n : ℚ) 100 := by
      apply zpow_le_rounded (by decide)
      rw [le_div_iff₀ (by norm_num)]
      have hle : ((10 ^ 28 : Nat) : ℚ) ≤ n := Nat.cast_le.mpr (Nat.not_lt.mp hn)
      norm_num at hle ⊢
      exact hle
    have hminor : (10 : ℚ) ^ (28 : Int) ≤
        rounded DEFAULT_PRECISION (div DEFAULT_PRECISION (n : ℚ) 100 * 100) := by
      apply zpow_le_rounded (by decide)
      norm_num at hmajor ⊢
      linarith
    apply quantize_of_le
    exact_mod_cast hminor

/-- The amount a body reports: that of the payment, or that of the order. -/
def reportedAmount (order payment : Json) : Json :=
  match payment.item? "payment_amount" with
  | none | some .null => itemOf order "order_amount"
  | some amount => amount

/-- **A body that echoes an order**: its reference, its currency, and its amount. -/
structure Echoes (t : Numerals) (sent : CashfreeOrder) (payload order payment : Json) : Prop
    extends HoldsPayment payload order payment where
  orderId : itemOf order "order_id" = .string sent.orderId
  currency : (itemOf payment "payment_currency").either (itemOf order "order_currency") =
    .string sent.orderCurrency
  amount : ofText t (reportedAmount order payment).text = some sent.orderAmount

/-- The body leaves the parser what it needs: a reference, an amount that decimals of 28 digits
hold and that is not hidden behind a null, and for the rest no more than an event may hold. -/
structure Readable (r : BodyReader) (o : PaymentOrder) (payload payment : Json)
    (rawDigest : String) : Prop where
  named : o.orderRef ≠ ""
  amount : o.amountMinor < 10 ^ DEFAULT_PRECISION
  given : payment.item? "payment_amount" ≠ some .null
  paymentId : ((itemOf payment "cf_payment_id").either
    (.string (o.orderRef ++ ":" ++ (itemOf payload "type").text))).text.length ≤ 128
  reference : (itemOf payment "bank_reference").textOrEmpty.length ≤ 128
  digest : rawDigest.length ≤ 64
  instant : r.fromisoformat (itemOf payload "event_time").textOrEmpty ≠ some none

section Echo

variable {r : BodyReader} {o : PaymentOrder} {offer : ApprovedOffer} {sent : CashfreeOrder}
  {enabled : Bool} {returnUrl : String} {payload order payment : Json} {rawDigest : String}

/-- What the request of an order says. -/
theorem of_create (h : CashfreeOrder.create enabled o offer returnUrl = .ok sent) :
    sent.orderId = o.orderRef ∧ sent.orderCurrency = o.currency ∧
      sent.orderAmount = div DEFAULT_PRECISION o.amountMinor 100 := by
  unfold CashfreeOrder.create at h
  split at h
  · cases h
  · split at h
    · cases h
    · cases h
      exact ⟨rfl, rfl, rfl⟩

/-- The parser reads the amount that is reported, unless it is hidden behind a null. -/
theorem minorUnits_rawAmount (hecho : Echoes r.numerals sent payload order payment) {m : Int} :
    minorUnits r.numerals (rawAmount order payment).text = .ok m ↔
      payment.item? "payment_amount" ≠ some .null ∧
        quantize DEFAULT_PRECISION (mul DEFAULT_PRECISION sent.orderAmount 100) = some m := by
  have hshown := hecho.amount
  have hread {raw : Json} (hraw : ofText r.numerals raw.text = some sent.orderAmount) :
      minorUnits r.numerals raw.text = .ok m ↔
        quantize DEFAULT_PRECISION (mul DEFAULT_PRECISION sent.orderAmount 100) = some m := by
    simp only [minorUnits, hraw]
    cases quantize DEFAULT_PRECISION (mul DEFAULT_PRECISION sent.orderAmount 100) <;> simp
  cases hpaid : payment.item? "payment_amount" with
  | none =>
    rw [reportedAmount, hpaid] at hshown
    -- nothing is no amount, so the order has one
    cases hordered : order.item? "order_amount" with
    | none =>
      rw [itemOf, hordered] at hshown
      exact absurd hshown (by rw [Option.getD_none, Json.text, ofText_none]; nofun)
    | some amount =>
      rw [itemOf, hordered, Option.getD_some] at hshown
      have hraw : rawAmount order payment = amount := by simp [rawAmount, hpaid, hordered]
      rw [hraw, hread hshown]
      simp
  | some amount =>
    have hraw : rawAmount order payment = amount := by simp [rawAmount, hpaid]
    rw [hraw]
    by_cases hnull : amount = .null
    · subst hnull
      simp [minorUnits, Json.text, ofText_none]
    · have hreported : reportedAmount order payment = amount := by
        unfold reportedAmount
        rw [hpaid]
        cases amount <;> first | rfl | exact absurd rfl hnull
      rw [hreported] at hshown
      rw [hread hshown]
      simp [hnull]

/-- **What is sent comes back**, exactly if the body leaves the parser what it needs. -/
theorem parse_echo_iff (haccepted : o.Accepted)
    (hsent : CashfreeOrder.create enabled o offer returnUrl = .ok sent)
    (hecho : Echoes r.numerals sent payload order payment) :
    (∃ e, parseCashfreeEvent r payload rawDigest = .ok (some e) ∧
        e.amountMinor = o.amountMinor ∧ e.orderRef = o.orderRef ∧ e.currency = o.currency) ↔
      Readable r o payload payment rawDigest := by
  obtain ⟨hid, hcurrency, hamount⟩ := of_create hsent
  have hpos : 0 ≤ o.amountMinor := (show (0 : Int) ≤ 1 by decide).trans haccepted.amountMinor
  obtain ⟨n, hn⟩ := Int.eq_ofNat_of_zero_le hpos
  have href : (itemOf order "order_id").textOrEmpty = o.orderRef := by
    rw [hecho.orderId, hid]
    by_cases hempty : o.orderRef = "" <;> simp [Json.textOrEmpty, Json.truthy, Json.text, hempty]
  have hcur : (((itemOf payment "payment_currency").either
      (itemOf order "order_currency")).either (.string "INR")).text = o.currency := by
    have hne : o.currency ≠ "" := by
      intro hempty
      have := haccepted.currency
      rw [hempty] at this
      cases this
    rw [hecho.currency, hcurrency]
    simp [Json.either, Json.truthy, Json.text, hne]
  have hminor (m : Int) : quantize DEFAULT_PRECISION
      (mul DEFAULT_PRECISION sent.orderAmount 100) = some m ↔
      o.amountMinor < 10 ^ DEFAULT_PRECISION ∧ m = o.amountMinor := by
    have hrat : ((o.amountMinor : Int) : ℚ) = (n : ℚ) := by rw [hn]; rfl
    rw [hamount, hrat, minor_of_major, hn]
    have hcast : ((n : Int) < 10 ^ DEFAULT_PRECISION) ↔ n < 10 ^ DEFAULT_PRECISION := by
      exact_mod_cast Iff.rfl
    rw [hcast]
    split_ifs with hlt
    · simp [hlt, eq_comm]
    · simp [hlt]
  have hinstant (t : Time) : r.occurred (itemOf payload "event_time").textOrEmpty = some t →
      r.fromisoformat (itemOf payload "event_time").textOrEmpty ≠ some none := by
    intro h hnone
    rw [BodyReader.occurred, hnone] at h
    cases h
  constructor
  · rintro ⟨e, hparse, -⟩
    obtain ⟨hnamed, m, hm, t, ht, hfits, rfl⟩ :=
      (parse_eq_some_iff hecho.toHoldsPayment).mp hparse
    obtain ⟨hgiven, hm⟩ := (minorUnits_rawAmount hecho).mp hm
    rw [href] at hnamed
    have hlong := hfits.providerEventId
    simp only [eventOf, href] at hlong
    exact ⟨hnamed, ((hminor m).mp hm).1, hgiven, hlong, hfits.providerReference, hfits.rawDigest,
      hinstant t ht⟩
  · intro h
    have hm := (minorUnits_rawAmount (m := o.amountMinor) hecho).mpr
      ⟨h.given, (hminor _).mpr ⟨h.amount, rfl⟩⟩
    obtain ⟨t, ht⟩ : ∃ t, r.occurred (itemOf payload "event_time").textOrEmpty = some t := by
      have hsome := h.instant
      rw [BodyReader.occurred]
      cases hread : r.fromisoformat (itemOf payload "event_time").textOrEmpty with
      | none => exact ⟨r.now, rfl⟩
      | some instant =>
        cases instant with
        | none => exact absurd hread hsome
        | some t => exact ⟨t, rfl⟩
    have hfits : (eventOf payload order payment o.amountMinor rawDigest t).Accepted := by
      refine ⟨?_, ?_, ?_, ?_, h.reference, h.digest⟩
      · simpa only [eventOf, href] using h.paymentId
      · simpa only [eventOf, href] using haccepted.orderRef
      · exact hpos
      · simpa only [eventOf, hcur] using haccepted.currency
    refine ⟨_, (parse_eq_some_iff hecho.toHoldsPayment).mpr
      ⟨by rw [href]; exact h.named, _, hm, t, ht, hfits, rfl⟩, rfl, href, hcur⟩

end Echo

/-! ## Events of one payment -/

/-- **Two bodies about one payment**, with types that differ. If both name the payment they give it
one name. -/
structure SamePayment (payload₁ order₁ payment₁ payload₂ order₂ payment₂ : Json) : Prop where
  first : HoldsPayment payload₁ order₁ payment₁
  second : HoldsPayment payload₂ order₂ payment₂
  order : (itemOf order₁ "order_id").textOrEmpty = (itemOf order₂ "order_id").textOrEmpty
  payment : (itemOf payment₁ "cf_payment_id").truthy → (itemOf payment₂ "cf_payment_id").truthy →
    (itemOf payment₁ "cf_payment_id").text = (itemOf payment₂ "cf_payment_id").text
  types : (itemOf payload₁ "type").text ≠ (itemOf payload₂ "type").text

/-- A success and another event of the payment are told apart: they do not both name the payment,
and a name that one of them has is not made up of the order and the type of the other. -/
structure ToldApart (order payment₁ payload₂ payment₂ : Json) : Prop where
  unnamed : ¬ ((itemOf payment₁ "cf_payment_id").truthy ∧ (itemOf payment₂ "cf_payment_id").truthy)
  first : (itemOf payment₁ "cf_payment_id").truthy → (itemOf payment₁ "cf_payment_id").text ≠
    (itemOf order "order_id").textOrEmpty ++ ":" ++ (itemOf payload₂ "type").text
  second : (itemOf payment₂ "cf_payment_id").truthy → (itemOf payment₂ "cf_payment_id").text ≠
    (itemOf order "order_id").textOrEmpty ++ ":" ++ "PAYMENT_SUCCESS_WEBHOOK"

section Dedup

variable {r₁ r₂ : BodyReader} {digest₁ digest₂ : String}
  {payload₁ order₁ payment₁ payload₂ order₂ payment₂ : Json} {e₁ e₂ : CashfreeEvent}

/-- The name an event is stored under. -/
theorem providerEventId_of_parse (h : HoldsPayment payload₁ order₁ payment₁)
    (hparse : parseCashfreeEvent r₁ payload₁ digest₁ = .ok (some e₁)) :
    e₁.providerEventId =
      if (itemOf payment₁ "cf_payment_id").truthy then (itemOf payment₁ "cf_payment_id").text
      else (itemOf order₁ "order_id").textOrEmpty ++ ":" ++ (itemOf payload₁ "type").text := by
  obtain ⟨-, m, -, t, -, -, rfl⟩ := (parse_eq_some_iff h).mp hparse
  simp only [eventOf, Json.either]
  split_ifs <;> rfl

/-- A success has the type of one. -/
theorem type_of_success (h : HoldsPayment payload₁ order₁ payment₁)
    (hparse : parseCashfreeEvent r₁ payload₁ digest₁ = .ok (some e₁)) (hkind : e₁.kind = .success) :
    (itemOf payload₁ "type").text = "PAYMENT_SUCCESS_WEBHOOK" := by
  obtain ⟨-, m, -, t, -, -, rfl⟩ := (parse_eq_some_iff h).mp hparse
  have htype := cashfreeKind_eq_success_iff.mp hkind
  rw [Json.textOrEmpty] at htype
  split at htype
  · exact htype
  · exact absurd htype (by decide)

/-- **A success has its own name**, exactly if it is told apart from the other event. -/
theorem providerEventId_ne_iff
    (hsame : SamePayment payload₁ order₁ payment₁ payload₂ order₂ payment₂)
    (h₁ : parseCashfreeEvent r₁ payload₁ digest₁ = .ok (some e₁))
    (h₂ : parseCashfreeEvent r₂ payload₂ digest₂ = .ok (some e₂)) (hkind : e₁.kind = .success) :
    e₁.providerEventId ≠ e₂.providerEventId ↔ ToldApart order₁ payment₁ payload₂ payment₂ := by
  have htype := type_of_success hsame.first h₁ hkind
  have htypes := hsame.types
  rw [htype] at htypes
  rw [providerEventId_of_parse hsame.first h₁, providerEventId_of_parse hsame.second h₂, htype,
    ← hsame.order]
  by_cases hname₁ : (itemOf payment₁ "cf_payment_id").truthy = true <;>
    by_cases hname₂ : (itemOf payment₂ "cf_payment_id").truthy = true
  · rw [if_pos hname₁, if_pos hname₂]
    exact ⟨fun hne => absurd (hsame.payment hname₁ hname₂) hne,
      fun h => absurd ⟨hname₁, hname₂⟩ h.unnamed⟩
  · rw [if_pos hname₁, if_neg hname₂]
    exact ⟨fun hne => ⟨fun h => hname₂ h.2, fun _ => hne, fun h => absurd h hname₂⟩,
      fun h => h.first hname₁⟩
  · rw [if_neg hname₁, if_pos hname₂]
    exact ⟨fun hne => ⟨fun h => hname₁ h.1, fun h => absurd h hname₁, fun _ => hne.symm⟩,
      fun h => (h.second hname₂).symm⟩
  · rw [if_neg hname₁, if_neg hname₂]
    refine ⟨fun _ => ⟨fun h => hname₁ h.1, fun h => absurd h hname₁, fun h => absurd h hname₂⟩,
      fun _ heq => htypes ?_⟩
    exact String.append_right_inj _ |>.mp heq

variable {C : Type} [ConversationRepository C]

/-- An event is recorded after another exactly if it has another name. -/
theorem recordEvent_after {w : World C} {event other : PaymentEvent} {now : Time}
    (hnew : event.providerEventId ∉ w.eventIds) :
    ((w.answer (.recordEvent other now)).2.answer (.recordEvent event now)).1 = .ok true ↔
      event.providerEventId ≠ other.providerEventId := by
  by_cases hother : other.providerEventId ∈ w.eventIds
  · have hne : event.providerEventId ≠ other.providerEventId := by
      intro heq
      exact hnew (heq ▸ hother)
    simp [World.answer, hother, hnew, hne]
  · simp only [World.answer, if_neg hother, List.mem_cons, hnew, or_false]
    split_ifs with heq
    · exact ⟨(fun hfalse => by cases hfalse), fun hne => absurd heq hne⟩
    · exact ⟨fun _ => heq, fun _ => rfl⟩

end Dedup

/-- **The round of a payment.** What is sent for an order comes back in the event exactly if the
body leaves the parser what it needs; and a success has a name of its own, so that another event
of the payment does not keep it from being recorded, exactly if the two are told apart. -/
theorem payment_round_iff {C : Type} [ConversationRepository C] {r r₁ r₂ : BodyReader}
    {o : PaymentOrder} {offer : ApprovedOffer} {sent : CashfreeOrder} {enabled : Bool}
    {returnUrl rawDigest digest₁ digest₂ : String}
    {payload order payment payload₁ order₁ payment₁ payload₂ order₂ payment₂ : Json}
    {e₁ e₂ : CashfreeEvent} (haccepted : o.Accepted)
    (hsent : CashfreeOrder.create enabled o offer returnUrl = .ok sent)
    (hecho : Echoes r.numerals sent payload order payment)
    (hsame : SamePayment payload₁ order₁ payment₁ payload₂ order₂ payment₂)
    (h₁ : parseCashfreeEvent r₁ payload₁ digest₁ = .ok (some e₁))
    (h₂ : parseCashfreeEvent r₂ payload₂ digest₂ = .ok (some e₂)) (hkind : e₁.kind = .success) :
    ((∃ e, parseCashfreeEvent r payload rawDigest = .ok (some e) ∧
        e.amountMinor = o.amountMinor ∧ e.orderRef = o.orderRef ∧ e.currency = o.currency) ↔
      Readable r o payload payment rawDigest) ∧
    ((e₁.providerEventId ≠ e₂.providerEventId ∧
        ∀ (w : World C) (now : Time), e₁.providerEventId ∉ w.eventIds →
          ((w.answer (.recordEvent e₂.toPaymentEvent now)).2.answer
            (.recordEvent e₁.toPaymentEvent now)).1 = .ok true) ↔
      ToldApart order₁ payment₁ payload₂ payment₂) := by
  refine ⟨parse_echo_iff haccepted hsent hecho, ?_⟩
  rw [← providerEventId_ne_iff hsame h₁ h₂ hkind]
  exact ⟨And.left, fun hne => ⟨hne, fun _ _ hnew => (recordEvent_after hnew).mpr hne⟩⟩

/-! ## Two attempts at one payment -/

/-- The clock stands still, and no text says a time. -/
def stillReader : BodyReader where
  numerals := asciiNumerals
  fromisoformat _ := none
  now := 0

/-- The amount of the order, in rupees. -/
def rupees : Json := .number false "4799.99"

/-- The order in a body. -/
def bodyOrder : Json :=
  .object "" [("order_id", .string "nxo_1"), ("order_amount", rupees),
    ("order_currency", .string "INR")]

/-- The payment in a body: its amount, and a name or none. -/
def bodyPayment (amount : Json) (name : Option String) : Json :=
  .object "" (("payment_amount", amount) ::
    (name.map fun id => ("cf_payment_id", Json.string id)).toList)

/-- A body with an order and a payment. -/
def bodyOf (type : String) (payment : Json) : Json :=
  .object "" [("data", .object "" [("order", bodyOrder), ("payment", payment)]),
    ("type", .string type)]

/-- The order that was sent. -/
def sentOrder : PaymentOrder where
  orderRef := "nxo_1"
  conversationRef := "c"
  demoId := "d"
  amountMinor := 479999
  createdAt := 0
  expiresAt := 1

/-- The offer it was made of. -/
def sentOffer : ApprovedOffer where
  conversationRef := "c"
  demoId := "d"
  amountMinor := 479999
  listPriceMinor := 479999
  discountPercent := 0
  policyStamp := "discount@v1"
  approvedAt := 0

/-- The request that is sent for it. -/
def sentRequest : CashfreeOrder where
  orderId := "nxo_1"
  orderAmount := 479999 / 100
  orderCurrency := "INR"
  customerId := "c"
  returnUrl := none
  orderNote := "NXTutors demo conversion d"

/-- What the parser makes of a body about it. -/
def attemptEvent (type name : String) : CashfreeEvent where
  providerEventId := name
  kind := cashfreeKind type
  orderRef := "nxo_1"
  amountMinor := 479999
  occurredAt := 0
  signatureVerified := true
  providerReference := ""
  rawDigest := ""

theorem sentOrder_accepted : sentOrder.Accepted := by
  refine ⟨?_, ?_, ?_, ?_, ?_, ?_⟩ <;> decide

theorem sentRequest_created :
    CashfreeOrder.create true sentOrder sentOffer "" = .ok sentRequest := by
  have hamount : div DEFAULT_PRECISION 479999 100 = 479999 / 100 := by decide +kernel
  simp [CashfreeOrder.create, sentOrder, sentOffer, sentRequest, hamount]

theorem holds_bodyOf (type : String) (amount : Json) (name : Option String) :
    HoldsPayment (bodyOf type (bodyPayment amount name)) bodyOrder (bodyPayment amount name) :=
  ⟨rfl, ⟨_, _, rfl⟩, ⟨_, _, rfl⟩⟩

/-- A payment whose amount is the order's, or is null, echoes the order. -/
theorem echoes_bodyOf {type : String} {amount : Json} {name : Option String}
    (hamount : amount = rupees ∨ amount = .null) :
    Echoes asciiNumerals sentRequest (bodyOf type (bodyPayment amount name)) bodyOrder
      (bodyPayment amount name) where
  toHoldsPayment := holds_bodyOf type amount name
  orderId := rfl
  currency := by cases name <;> rfl
  amount := by
    have hrupees : ofText asciiNumerals "4799.99" = some (479999 / 100) := by decide +kernel
    rcases hamount with rfl | rfl <;> exact hrupees

theorem samePayment_bodyOf {amount₁ amount₂ : Json} {name : Option String} {type : String}
    (htype : "PAYMENT_SUCCESS_WEBHOOK" ≠ type) :
    SamePayment (bodyOf "PAYMENT_SUCCESS_WEBHOOK" (bodyPayment amount₁ name)) bodyOrder
      (bodyPayment amount₁ name) (bodyOf type (bodyPayment amount₂ name)) bodyOrder
      (bodyPayment amount₂ name) where
  first := holds_bodyOf _ amount₁ name
  second := holds_bodyOf type amount₂ name
  order := rfl
  payment _ _ := by cases name <;> rfl
  types := htype

/-- Without a name for the payment the amount comes back, and a failure that was recorded does not
keep the success from being recorded. -/
theorem first_failure_spared :
    (∃ e, parseCashfreeEvent stillReader
          (bodyOf "PAYMENT_SUCCESS_WEBHOOK" (bodyPayment rupees none)) "" = .ok (some e) ∧
        e.amountMinor = 479999 ∧ e.orderRef = "nxo_1" ∧ e.currency = "INR") ∧
      ("nxo_1:PAYMENT_SUCCESS_WEBHOOK" ≠ "nxo_1:PAYMENT_FAILED_WEBHOOK" ∧
        ∀ (w : World InMemoryConversations) (now : Time),
          "nxo_1:PAYMENT_SUCCESS_WEBHOOK" ∉ w.eventIds →
          ((w.answer (.recordEvent (attemptEvent "PAYMENT_FAILED_WEBHOOK"
              "nxo_1:PAYMENT_FAILED_WEBHOOK").toPaymentEvent now)).2.answer
            (.recordEvent (attemptEvent "PAYMENT_SUCCESS_WEBHOOK"
              "nxo_1:PAYMENT_SUCCESS_WEBHOOK").toPaymentEvent now)).1 = .ok true) := by
  have hsuccess : parseCashfreeEvent stillReader
      (bodyOf "PAYMENT_SUCCESS_WEBHOOK" (bodyPayment rupees none)) "" =
        .ok (some (attemptEvent "PAYMENT_SUCCESS_WEBHOOK" "nxo_1:PAYMENT_SUCCESS_WEBHOOK")) := by
    decide +kernel
  have hfailure : parseCashfreeEvent stillReader
      (bodyOf "PAYMENT_FAILED_WEBHOOK" (bodyPayment rupees none)) "" =
        .ok (some (attemptEvent "PAYMENT_FAILED_WEBHOOK" "nxo_1:PAYMENT_FAILED_WEBHOOK")) := by
    decide +kernel
  obtain ⟨hecho, htold⟩ := payment_round_iff (C := InMemoryConversations) (r := stillReader)
    sentOrder_accepted sentRequest_created (echoes_bodyOf (.inl rfl))
    (samePayment_bodyOf (by decide)) hsuccess hfailure rfl
  refine ⟨hecho.mpr ⟨by decide, by decide, nofun, ?_, ?_, by decide, nofun⟩,
    htold.mpr ⟨?_, nofun, nofun⟩⟩
  · decide
  · decide
  · decide

/-- No event has been recorded. -/
def untold : World InMemoryConversations where
  conversations := {}

/-- **A null hides the amount, and a name hides the success.** The order's amount is echoed beside
a payment whose amount is null, and nothing is read. And a payment that first failed and then went
through has one name for both: the success counts as a replay of the failure. -/
theorem success_dropped :
    (Echoes asciiNumerals sentRequest (bodyOf "PAYMENT_SUCCESS_WEBHOOK" (bodyPayment .null none))
        bodyOrder (bodyPayment .null none) ∧
      parseCashfreeEvent stillReader
        (bodyOf "PAYMENT_SUCCESS_WEBHOOK" (bodyPayment .null none)) "" =
          .error (.other "InvalidOperation")) ∧
    (SamePayment (bodyOf "PAYMENT_SUCCESS_WEBHOOK" (bodyPayment rupees (some "cf_1"))) bodyOrder
        (bodyPayment rupees (some "cf_1"))
        (bodyOf "PAYMENT_FAILED_WEBHOOK" (bodyPayment rupees (some "cf_1"))) bodyOrder
        (bodyPayment rupees (some "cf_1")) ∧
      parseCashfreeEvent stillReader
        (bodyOf "PAYMENT_SUCCESS_WEBHOOK" (bodyPayment rupees (some "cf_1"))) "" =
          .ok (some (attemptEvent "PAYMENT_SUCCESS_WEBHOOK" "cf_1")) ∧
      parseCashfreeEvent stillReader
        (bodyOf "PAYMENT_FAILED_WEBHOOK" (bodyPayment rupees (some "cf_1"))) "" =
          .ok (some (attemptEvent "PAYMENT_FAILED_WEBHOOK" "cf_1")) ∧
      ((untold.answer (.recordEvent
          (attemptEvent "PAYMENT_FAILED_WEBHOOK" "cf_1").toPaymentEvent 0)).2.answer (.recordEvent
          (attemptEvent "PAYMENT_SUCCESS_WEBHOOK" "cf_1").toPaymentEvent 0)).1 = .ok false) := by
  refine ⟨⟨echoes_bodyOf (.inr rfl), ?_⟩, samePayment_bodyOf (by decide), ?_, ?_, rfl⟩
  all_goals decide +kernel

end NxTutors.DemoAgent
