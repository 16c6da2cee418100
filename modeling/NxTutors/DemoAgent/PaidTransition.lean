import NxTutors.DemoAgent.World
import NxTutors.Effect.Path

/-!
# Payment webhooks

`accept_webhook` deduplicates a verified event on the provider's event id, reconciles it
against the stored order, and stores a copy of the order with another status. It makes three
repository calls, each of which may raise.

The row that deduplicates is written before the effect it protects. A delivery that fails in
between leaves the event *torn*: recorded, and its order not paid. Nothing mends that, since
every redelivery is a duplicate from then on, and duplicates are answered as accepted.
-/

namespace NxTutors.DemoAgent

open Effect
open PaymentEvent (reconcile_eq_ok_iff)

/-- The outcome of one webhook. -/
structure WebhookResult where
  accepted : Bool := false
  duplicate : Bool := false
  order : Option PaymentOrder := none
  reason : String := ""
  deriving DecidableEq, Repr

/-- The end of `accept_webhook`: the order is stored with the status the event gives it. -/
def settle (event : PaymentEvent) (order : PaymentOrder) : Act WebhookResult :=
  if !event.isSuccess then do
    ask (.saveOrder { order with status := .text "failed" })
    pure { accepted := true, order := some order, reason := event.kind.value }
  else do
    let paid := { order with status := .text "paid", paidAt := some event.occurredAt }
    ask (.saveOrder paid)
    pure { accepted := true, order := some paid }

/-- `accept_webhook`, at the time the clock says. -/
def acceptWebhookAt (event : PaymentEvent) (now : Time) : Act WebhookResult :=
  if !event.signatureVerified then pure { reason := "unverified_event" }
  else do
    let firstTime : Bool ← ask (.recordEvent event now)
    if !firstTime then
      pure { accepted := true, duplicate := true, reason := "duplicate_event" }
    else
      let stored : Option PaymentOrder ← ask (.loadOrder event.orderRef)
      match event.reconcile stored now, stored with
      | .error failure, _ => pure { reason := failure.value }
      -- `assert order is not None`
      | .ok (), none => throw (.other "AssertionError")
      | .ok (), some order => settle event order

/-- Dedupe, then reconcile. -/
def acceptWebhook (event : PaymentEvent) : Act WebhookResult := ask .now >>= acceptWebhookAt event

/-! ## What the calls do -/

section Calls

variable {C : Type} [ConversationRepository C] {w w' : World C}

theorem World.order_saveOrder (order : PaymentOrder) (ref : String) :
    (w.answer (.saveOrder order)).2.order ref =
      if order.orderRef = ref then some order else w.order ref := by
  simp only [World.answer, World.order]
  split
  · rename_i h
    subst h
    exact find?_upsert_self PaymentOrder.orderRef order w.orders
  · rename_i h
    exact find?_upsert_of_ne h w.orders

/-- Recording an event answers whether it is the first of its id, or raises; its id is recorded
then, unless the call raised before that. -/
theorem Answers.of_recordEvent {event : PaymentEvent} {now : Time} {r : Except Exn Bool}
    (h : Answers (.recordEvent event now) w r w') :
    (event.providerEventId ∈ w.eventIds ∧ w' = w ∧ r ≠ .ok true) ∨
      (event.providerEventId ∉ w.eventIds ∧ r ≠ .ok false ∧
        ((w' = w ∧ r ≠ .ok true) ∨
          w' = { w with eventIds := event.providerEventId :: w.eventIds })) := by
  have hfail (name : String) (b : Bool) : (.error (.other name) : Except Exn Bool) ≠ .ok b :=
    fun hfalse => by cases hfalse
  have hcases := h.repository rfl
  simp only [World.answer] at hcases
  by_cases hin : event.providerEventId ∈ w.eventIds
  · rw [if_pos hin] at hcases
    rcases hcases with ⟨rfl, rfl⟩ | ⟨⟨name, rfl⟩, rfl | rfl⟩
    · exact .inl ⟨hin, rfl, fun hfalse => by cases hfalse⟩
    · exact .inl ⟨hin, rfl, hfail name true⟩
    · exact .inl ⟨hin, rfl, hfail name true⟩
  · rw [if_neg hin] at hcases
    rcases hcases with ⟨rfl, rfl⟩ | ⟨⟨name, rfl⟩, rfl | rfl⟩
    · exact .inr ⟨hin, (fun hfalse => by cases hfalse), .inr rfl⟩
    · exact .inr ⟨hin, hfail name false, .inl ⟨rfl, hfail name true⟩⟩
    · exact .inr ⟨hin, hfail name false, .inr rfl⟩

/-- Loading an order answers the stored one, or raises. -/
theorem Answers.of_loadOrder {ref : String} {r : Except Exn (Option PaymentOrder)}
    (h : Answers (.loadOrder ref) w r w') :
    w' = w ∧ (r = .ok (w.order ref) ∨ ∃ name, r = .error (.other name)) :=
  h.read rfl rfl

/-- Saving an order saves it, or raises and may have saved it. -/
theorem Answers.of_saveOrder {order : PaymentOrder} {r : Except Exn Unit}
    (h : Answers (.saveOrder order) w r w') :
    w' = (w.answer (.saveOrder order)).2 ∨ (w' = w ∧ r ≠ .ok ()) := by
  rcases h.repository rfl with ⟨_, hw⟩ | ⟨⟨name, rfl⟩, hw | hw⟩
  · exact .inl hw
  · exact .inr ⟨hw, nofun⟩
  · exact .inl hw

end Calls

/-! ## Redelivered payments -/

section Redelivery

variable {C : Type}

/-- The event has been recorded. -/
def Recorded (e : PaymentEvent) (w : World C) : Prop := e.providerEventId ∈ w.eventIds

/-- The order of the event is stored as paid. -/
def OrderPaid (e : PaymentEvent) (w : World C) : Prop :=
  ∃ order, w.order e.orderRef = some order ∧ order.paid = true

/-- The event has been recorded, and its order is not paid. -/
def Torn (e : PaymentEvent) (w : World C) : Prop := Recorded e w ∧ ¬ OrderPaid e w

/-- Others leave the record of the event, and its order, alone. -/
structure LeavesEvent (e : PaymentEvent) (w w' : World C) : Prop where
  recorded : Recorded e w' ↔ Recorded e w
  order : w'.order e.orderRef = w.order e.orderRef

theorem LeavesEvent.refl (e : PaymentEvent) (w : World C) : LeavesEvent e w w := ⟨Iff.rfl, rfl⟩

theorem LeavesEvent.orderPaid {e : PaymentEvent} {w w' : World C} (h : LeavesEvent e w w') :
    OrderPaid e w' ↔ OrderPaid e w := by
  rw [OrderPaid, OrderPaid, h.order]

theorem LeavesEvent.torn {e : PaymentEvent} {w w' : World C} (h : LeavesEvent e w w') :
    Torn e w' ↔ Torn e w :=
  and_congr h.recorded (not_congr h.orderPaid)

/-- What one delivery does: a torn event stays torn, and where it was not torn, an answer
means that its order is paid. -/
structure Delivers (e : PaymentEvent) (w : World C) (out : Except Exn WebhookResult)
    (w' : World C) : Prop where
  torn : Torn e w → Torn e w'
  paid : ¬ Torn e w → ∀ r, out = .ok r → OrderPaid e w'

theorem Delivers.raised {e : PaymentEvent} {w w' : World C} {exn : Exn} (h : ¬ Torn e w) :
    Delivers e w (.error exn) w' :=
  ⟨fun ht => absurd ht h, fun _ r hr => by cases hr⟩

variable [ConversationRepository C] {e : PaymentEvent} {w w' w₀ w₁ w₂ : World C}

/-- The setting in which others leave the event alone. -/
def besides (e : PaymentEvent) : Setting ports Exn (World C) := ⟨Answers, LeavesEvent e⟩

/-- Storing the order pays it, if the event is a success. -/
theorem settle_delivers {order : PaymentOrder} (hsuccess : e.isSuccess = true)
    (horder : order.orderRef = e.orderRef) (hw : ¬ Torn e w₀) :
    Meets (besides e) (fun _ _ => True) (Delivers e w₀) (settle e order) w := by
  rw [settle, if_neg (by simp [hsuccess])]
  refine Meets.perform_bind fun w₁ _ r w₂ ha => ⟨trivial, fun _ hr => ?_, fun exn _ => .raised hw⟩
  subst hr
  refine ⟨fun ht => absurd ht hw, fun _ _ _ => ?_⟩
  rcases ha.of_saveOrder with rfl | ⟨_, hne⟩
  · refine ⟨{ order with status := .text "paid", paidAt := some e.occurredAt }, ?_, rfl⟩
    rw [World.order_saveOrder, if_pos horder]
  · exact absurd rfl hne

/-- **One delivery** of a success that reconciles with its stored order. -/
theorem acceptWebhookAt_delivers {now : Time} (hsuccess : e.isSuccess = true)
    (hrec : e.reconcile (w.order e.orderRef) now = .ok ()) :
    Meets (besides e) (fun _ _ => True) (Delivers e w) (acceptWebhookAt e now) w := by
  obtain ⟨hverified, order, hstored, hord, -⟩ := reconcile_eq_ok_iff.mp hrec
  rw [acceptWebhookAt, if_neg (by simp [hverified])]
  refine Meets.perform_bind fun w₁ hm r w₂ ha => ?_
  rcases Answers.of_recordEvent ha with ⟨hin, rfl, hr⟩ | ⟨hnew, hr, hw₂⟩
  · -- recorded before: nothing happens, and whatever it was it stays
    have hstay : Torn e w → Torn e w₂ := hm.torn.mpr
    refine ⟨trivial, fun first hfirst => ?_, fun exn _ => ⟨hstay, fun _ r hr => by cases hr⟩⟩
    subst hfirst
    cases first with
    | true => exact absurd rfl hr
    | false =>
      refine ⟨hstay, fun ht _ _ => ?_⟩
      by_contra hpaid
      exact ht (hm.torn.mp ⟨hin, hpaid⟩)
  · -- not recorded before, so not torn
    have hw : ¬ Torn e w := fun ht => hnew (hm.recorded.mpr ht.1)
    refine ⟨trivial, fun first hfirst => ?_, fun exn _ => .raised hw⟩
    subst hfirst
    cases first with
    | false => exact absurd rfl hr
    | true =>
      have horder : w₂.order e.orderRef = some order := by
        rcases hw₂ with ⟨_, hne⟩ | rfl
        · exact absurd rfl hne
        · exact hm.order.trans hstored
      refine Meets.perform_bind fun w₃ hm₃ r' w₄ ha' => ?_
      obtain ⟨rfl, hr' | ⟨name, hr'⟩⟩ := Answers.of_loadOrder ha'
      · refine ⟨trivial, fun loaded hloaded => ?_, fun exn _ => .raised hw⟩
        obtain rfl : loaded = some order := by
          rw [hloaded, hm₃.order, horder] at hr'
          exact Except.ok.inj hr'
        rw [hstored] at hrec
        simp only [hrec]
        exact settle_delivers hsuccess (by simpa using hord) hw
      · exact ⟨trivial, fun _ hok => by (rw [hr'] at hok; cases hok), fun exn _ => .raised hw⟩

/-- One delivery of the event, at a time at which it reconciles with its stored order. -/
def Delivered (e : PaymentEvent) (w : World C) (out : Except Exn WebhookResult)
    (w' : World C) : Prop :=
  ∃ now, e.reconcile (w.order e.orderRef) now = .ok () ∧
    Run (besides e) (acceptWebhookAt e now) w out w'

theorem Delivered.delivers {out : Except Exn WebhookResult} (hsuccess : e.isSuccess = true)
    (h : Delivered e w out w') : Delivers e w out w' := by
  obtain ⟨now, hrec, hrun⟩ := h
  exact (acceptWebhookAt_delivers hsuccess hrec).run hrun

/-- **When an answer means that the order is paid.** The provider delivers a success until it
is answered. The order is paid then exactly when no delivery that failed has left the event
torn, which is to say that none failed after its id was recorded and before its order was
stored. -/
theorem answered_paid_iff (e : PaymentEvent) (hsuccess : e.isSuccess = true)
    (hwhole : ¬ Torn e w₀) {failures : List Exn}
    (hfailed : Path (fun w exn w' => Delivered e w (.error exn) w') w₀ failures w₁)
    {r : WebhookResult} (hanswered : Delivered e w₁ (.ok r) w₂) :
    OrderPaid e w₂ ↔
      Path (fun w exn w' => Delivered e w (.error exn) w' ∧ ¬ Torn e w') w₀ failures w₁ := by
  have hlast := hanswered.delivers hsuccess
  constructor
  · intro hpaid
    refine hfailed.avoid (fun a exn b h => (h.delivers hsuccess).torn) fun htorn => ?_
    exact (hlast.torn htorn).2 hpaid
  · intro hwhole'
    exact hlast.paid (hwhole'.invariant hwhole fun _ _ _ _ h => h.2) r rfl

end Redelivery

/-! ## A payment that is lost -/

/-- An order of the conversation `c`. -/
def pendingOrder : PaymentOrder :=
  { orderRef := "o", conversationRef := "c", demoId := "d", amountMinor := 100000,
    createdAt := 0, expiresAt := 24 * hour }

/-- The provider says that it has been paid. -/
def paymentSuccess (eventId : String) : PaymentEvent :=
  { providerEventId := eventId, kind := .success, orderRef := "o", amountMinor := 100000,
    occurredAt := 0, signatureVerified := true }

/-- The order waits to be paid. -/
def awaitingPayment : World InMemoryConversations :=
  { conversations := {}, orders := [pendingOrder] }

/-- A delivery in which the `k`-th call raises, or none. -/
theorem delivered_failingAt (k : Nat) (now : Time) (w : World InMemoryConversations)
    (hrec : (paymentSuccess "1").reconcile (w.order "o") now = .ok ()) :
    Delivered (paymentSuccess "1") w
      (play (World.failingAt k) 0 (acceptWebhookAt (paymentSuccess "1") now) w).1
      (play (World.failingAt k) 0 (acceptWebhookAt (paymentSuccess "1") now) w).2 :=
  ⟨now, hrec, (run_failingAt k _ w).mono (besides (paymentSuccess "1")) rfl
    fun _ _ h => h ▸ LeavesEvent.refl _ _⟩

/-- A delivery whose first call raises leaves nothing torn, and the redelivery pays the
order. -/
theorem retried_payment_paid :
    ∃ exn w₁ r w₂, Delivered (paymentSuccess "1") awaitingPayment (.error exn) w₁ ∧
      Delivered (paymentSuccess "1") w₁ (.ok r) w₂ ∧ OrderPaid (paymentSuccess "1") w₂ := by
  have h₁ := delivered_failingAt 0 0 awaitingPayment (by decide)
  have h₂ := delivered_failingAt 9 hour awaitingPayment (by decide)
  have hfresh : ∀ w : World InMemoryConversations, w.eventIds = [] →
      ¬ Torn (paymentSuccess "1") w := fun w hw ht => by
    have hrecorded := ht.1
    rw [Recorded, hw] at hrecorded
    cases hrecorded
  have hfailed : Path (fun w exn w' => Delivered (paymentSuccess "1") w (.error exn) w')
      awaitingPayment [_] _ := .snoc .nil h₁
  exact ⟨_, _, _, _, h₁, h₂, (answered_paid_iff (paymentSuccess "1") rfl
    (hfresh awaitingPayment rfl) hfailed h₂).mpr (.snoc .nil ⟨h₁, hfresh _ rfl⟩)⟩

/-- A delivery whose second call raises has recorded the event. The redelivery is answered as
an accepted duplicate, and the order is not paid. -/
theorem redelivered_payment_lost :
    ∃ exn w₁ r w₂, Delivered (paymentSuccess "1") awaitingPayment (.error exn) w₁ ∧
      Delivered (paymentSuccess "1") w₁ (.ok r) w₂ ∧ r.accepted = true ∧ r.duplicate = true ∧
      w₂.order "o" = some pendingOrder := by
  have h₁ := delivered_failingAt 1 0 awaitingPayment (by decide)
  have h₂ := delivered_failingAt 9 hour
    (play (World.failingAt 1) 0 (acceptWebhookAt (paymentSuccess "1") 0) awaitingPayment).2
    (by decide)
  exact ⟨_, _, _, _, h₁, h₂, by decide, by decide, by decide⟩

end NxTutors.DemoAgent
