import NxTutors.DemoAgent.Machine

/-!
# Payment orders and verified payment events

`reconcile` checks the provider's report against our order (reference, currency, amount,
whether it is paid already, whether its link has expired) before anything is treated as paid.

One detail of the source matters here. The status of an order is an enumeration, but
`model_copy(update={"status": "paid"})` performs no validation, so a copy made that way holds
the *text* `"paid"`, which is equal to the member `OrderStatus.PAID` and is not the same
object. `StatusRef` keeps the two apart: `isEqual` is `==`, `isMember` is `is`.
-/

namespace NxTutors.DemoAgent

inductive OrderStatus
  | created | linkSent | paid | failed | expired | cancelled
  deriving DecidableEq, Repr

/-- The name an order status is stored under. -/
def OrderStatus.value : OrderStatus → String
  | .created => "created"
  | .linkSent => "link_sent"
  | .paid => "paid"
  | .failed => "failed"
  | .expired => "expired"
  | .cancelled => "cancelled"

/-- What the status attribute of an order refers to: a member of the enumeration, as
validation leaves it, or a plain text, as an unvalidated copy does. -/
inductive StatusRef
  | member (s : OrderStatus)
  | text (s : String)
  deriving DecidableEq, Repr

/-- `status == member`: members of the enumeration are texts, and compare as texts. -/
def StatusRef.isEqual : StatusRef → OrderStatus → Bool
  | .member s, m => s = m
  | .text s, m => s = m.value

/-- `status is member`. -/
def StatusRef.isMember : StatusRef → OrderStatus → Bool
  | .member s, m => s = m
  | .text _, _ => false

inductive PaymentEventKind
  | success | failed | userDropped | refund | unknown
  deriving DecidableEq, Repr

/-- The name a kind of event is reported under. -/
def PaymentEventKind.value : PaymentEventKind → String
  | .success => "payment_success"
  | .failed => "payment_failed"
  | .userDropped => "payment_user_dropped"
  | .refund => "refund"
  | .unknown => "unknown"

/-- Why a verified event was still refused. -/
inductive ReconciliationFailure
  | orderNotFound | orderMismatch | amountMismatch | currencyMismatch | orderAlreadyPaid
  | orderExpired
  deriving DecidableEq, Repr

/-- The name a refusal is reported under. -/
def ReconciliationFailure.value : ReconciliationFailure → String
  | .orderNotFound => "order_not_found"
  | .orderMismatch => "order_mismatch"
  | .amountMismatch => "amount_mismatch"
  | .currencyMismatch => "currency_mismatch"
  | .orderAlreadyPaid => "order_already_paid"
  | .orderExpired => "order_expired"

/-- An order we created with the provider. -/
structure PaymentOrder where
  orderRef : String
  conversationRef : String
  demoId : String
  studentRef : Option String := none
  amountMinor : Int
  currency : String := "INR"
  status : StatusRef := .member .created
  paymentLink : String := ""
  createdAt : Time
  expiresAt : Time
  paidAt : Option Time := none
  deriving DecidableEq, Repr

namespace PaymentOrder

/-- The order counts as paid. -/
def paid (o : PaymentOrder) : Bool := o.status.isEqual .paid

/-- `status in (PAID, CANCELLED)`. -/
def settled (o : PaymentOrder) : Bool :=
  o.status.isEqual .paid || o.status.isEqual .cancelled

def expired (o : PaymentOrder) (now : Time) : Bool := o.expiresAt ≤ now

end PaymentOrder

/-- A provider event; `signatureVerified` is set by the verifier. -/
structure PaymentEvent where
  /-- the provider's event id, which deduplication is on -/
  providerEventId : String
  kind : PaymentEventKind
  orderRef : String
  amountMinor : Int
  currency : String := "INR"
  occurredAt : Time
  signatureVerified : Bool := false
  deriving DecidableEq, Repr

namespace PaymentEvent

def isSuccess (e : PaymentEvent) : Bool := e.kind = .success && e.signatureVerified

/-- Refuse unless this event genuinely settles `order`. -/
def reconcile (e : PaymentEvent) (order : Option PaymentOrder) (now : Time) :
    Except ReconciliationFailure Unit :=
  if !e.signatureVerified then .error .orderMismatch
  else
    match order with
    | none => .error .orderNotFound
    | some order =>
      if order.orderRef ≠ e.orderRef then .error .orderMismatch
      else if order.currency ≠ e.currency then .error .currencyMismatch
      else if order.amountMinor ≠ e.amountMinor then .error .amountMismatch
      else if order.status.isMember .paid then .error .orderAlreadyPaid
      else if order.expired now && e.kind = .success then .error .orderExpired
      else .ok ()

/-- **What reconciliation checks.** An event passes exactly when it is verified, is about
this order, in its currency and for its amount, the order is not the paid member, and a
success has not come after the order expired. -/
theorem reconcile_eq_ok_iff {e : PaymentEvent} {order : Option PaymentOrder} {now : Time} :
    e.reconcile order now = .ok () ↔ e.signatureVerified = true ∧ ∃ o, order = some o ∧
      o.orderRef = e.orderRef ∧ o.currency = e.currency ∧ o.amountMinor = e.amountMinor ∧
      o.status.isMember .paid = false ∧ (e.kind = .success → o.expired now = false) := by
  cases hv : e.signatureVerified with
  | false => simp [reconcile, hv]
  | true =>
    cases order with
    | none => simp [reconcile, hv]
    | some o =>
      simp only [reconcile, hv, Bool.not_true, Bool.false_eq_true, if_false, true_and,
        Option.some.injEq, exists_eq_left']
      split_ifs with h₁ h₂ h₃ h₄ h₅
      · simp [h₁]
      · simp [h₂]
      · simp [h₃]
      · simp [h₄]
      · simp only [Bool.and_eq_true, decide_eq_true_eq] at h₅
        simp [h₅.1, h₅.2]
      · simp only [Bool.and_eq_true, decide_eq_true_eq, not_and] at h₅
        refine ⟨fun _ => ⟨not_not.mp h₁, not_not.mp h₂, not_not.mp h₃, by simpa using h₄, ?_⟩,
          fun _ => rfl⟩
        intro hk
        cases hexp : o.expired now with
        | false => rfl
        | true => exact absurd hk (h₅ hexp)

end PaymentEvent

/-- One attempt to turn a verified payment into an active subscription. -/
structure SubscriptionActivation where
  orderRef : String
  attempt : Nat := 1
  succeeded : Bool := false
  subscriptionRef : String := ""
  errorCode : String := ""
  deriving DecidableEq, Repr

end NxTutors.DemoAgent
