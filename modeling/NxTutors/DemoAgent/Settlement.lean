import NxTutors.DemoAgent.PaidTransition
import NxTutors.Effect.Logged

/-!
# Settling an order once

Deduplication is per provider event, settlement is per order. What should keep two events from
settling one order is the check of `reconcile` against an order that is paid already. That
check asks whether the status *is* the member `PAID`, and `accept_webhook` stores the text
`"paid"`, so the check never fires on an order that a webhook has settled.

`settled_once_iff` draws the line exactly: over given events, every interleaving settles every
order at most once if and only if no order has two events with different ids that could each
settle it. The proof follows the log of the calls: a call that settles has recorded its event
id first, and an id is recorded by one call only.
-/

namespace NxTutors.DemoAgent

open Effect
open PaymentEvent (reconcile_eq_ok_iff)

/-! ## The property -/

/-- The name of a call: its number and its event. -/
abbrev Webhook : Type := Nat × PaymentEvent

/-- The call accepted a success that was no duplicate: it settled the order. -/
def WebhookResult.settles (r : WebhookResult) (e : PaymentEvent) : Prop :=
  e.isSuccess = true ∧ r.accepted = true ∧ r.duplicate = false

/-- As things stand in `w`, the event is a success of a new id that reconciles with its
order. -/
structure Settleable {C : Type} (w : World C) (e : PaymentEvent) : Prop where
  success : e.isSuccess = true
  fresh : e.providerEventId ∉ w.eventIds
  reconciles : e.reconcile (w.order e.orderRef) w.clock = .ok ()

/-- No order is settled twice, and where one call has settled an order, another event that
could settle it is refused because the order is paid. -/
structure SettledOnce {C : Type} (w : World C)
    (finished : List (Webhook × Except Exn WebhookResult)) : Prop where
  once : ∀ t r t' r', (t, .ok r) ∈ finished → (t', .ok r') ∈ finished → r.settles t.2 →
    r'.settles t'.2 → t.2.orderRef = t'.2.orderRef → t = t'
  refused : ∀ t r t' r', (t, .ok r) ∈ finished → (t', .ok r') ∈ finished → r.settles t.2 →
    Settleable w t'.2 → t.2.orderRef = t'.2.orderRef →
    t.2.providerEventId ≠ t'.2.providerEventId →
    r'.accepted = false ∧ r'.reason = ReconciliationFailure.orderAlreadyPaid.value

/-- Calls of `accept_webhook` for deliverable events, while time passes. -/
def settling {C : Type} [ConversationRepository C] (deliverable : PaymentEvent → Prop) :
    Arena ports Exn WebhookResult (World C) Webhook where
  answers _ := Answers
  enters t p _ := deliverable t.2 ∧ p = acceptWebhook t.2
  outside a b := a.clock ≤ b.clock ∧ b = { a with clock := b.clock }

/-! ## What the world remembers -/

section Ages

variable {C : Type}

/-- An order and a later version of it: the terms are the same, and it is the paid member if
it was. -/
structure SameTerms (before after : PaymentOrder) : Prop where
  orderRef : after.orderRef = before.orderRef
  currency : after.currency = before.currency
  amountMinor : after.amountMinor = before.amountMinor
  expiresAt : after.expiresAt = before.expiresAt
  isMember : after.status.isMember .paid = before.status.isMember .paid

theorem SameTerms.refl (o : PaymentOrder) : SameTerms o o := ⟨rfl, rfl, rfl, rfl, rfl⟩

theorem SameTerms.trans {a b c : PaymentOrder} (h : SameTerms a b) (h' : SameTerms b c) :
    SameTerms a c :=
  ⟨h'.orderRef.trans h.orderRef, h'.currency.trans h.currency,
    h'.amountMinor.trans h.amountMinor, h'.expiresAt.trans h.expiresAt,
    h'.isMember.trans h.isMember⟩

theorem SameTerms.symm {a b : PaymentOrder} (h : SameTerms a b) : SameTerms b a :=
  ⟨h.orderRef.symm, h.currency.symm, h.amountMinor.symm, h.expiresAt.symm, h.isMember.symm⟩

/-- An order that reconciles later, on the same terms, reconciles now. -/
theorem reconcile_of_sameTerms {before after : Option PaymentOrder} {e : PaymentEvent}
    {now later : Time} (hterms : Option.Rel SameTerms before after) (hnow : now ≤ later)
    (hrec : e.reconcile after later = .ok ()) : e.reconcile before now = .ok () := by
  obtain ⟨hverified, o', rfl, href, hcur, hamount, hpaid, hexp⟩ := reconcile_eq_ok_iff.mp hrec
  cases hterms with
  | @some o _ hterms =>
    refine reconcile_eq_ok_iff.mpr ⟨hverified, o, rfl, ?_, ?_, ?_, ?_, fun hkind => ?_⟩
    · rw [← hterms.orderRef, href]
    · rw [← hterms.currency, hcur]
    · rw [← hterms.amountMinor, hamount]
    · rw [← hterms.isMember, hpaid]
    · have hlate := hexp hkind
      simp only [PaymentOrder.expired, decide_eq_false_iff_not, not_le] at hlate ⊢
      rw [← hterms.expiresAt]
      exact lt_of_le_of_lt hnow hlate

theorem rel_symm {x y : Option PaymentOrder} (h : Option.Rel SameTerms x y) :
    Option.Rel SameTerms y x := by
  cases h with
  | some h => exact .some h.symm
  | none => exact .none

/-- A world and a later one. -/
structure Ages (w w' : World C) : Prop where
  clock : w.clock ≤ w'.clock
  eventIds : ∀ id ∈ w.eventIds, id ∈ w'.eventIds
  orders : ∀ ref, Option.Rel SameTerms (w.order ref) (w'.order ref)

theorem Ages.refl (w : World C) : Ages w w := by
  refine ⟨le_refl _, fun _ h => h, fun ref => ?_⟩
  cases w.order ref with
  | none => exact .none
  | some o => exact .some (.refl o)

theorem Ages.trans {a b c : World C} (h : Ages a b) (h' : Ages b c) : Ages a c := by
  refine ⟨h.clock.trans h'.clock, fun id hid => h'.eventIds id (h.eventIds id hid), fun ref => ?_⟩
  have hab := h.orders ref
  have hbc := h'.orders ref
  revert hab hbc
  generalize a.order ref = x, b.order ref = y, c.order ref = z
  rintro (hxy | _) (hyz | _)
  · exact .some (hxy.trans (by assumption))
  · exact .none

variable [ConversationRepository C]

/-- Storing another version of an order that was loaded some time before. -/
theorem ages_saveOrder {w w' : World C} {order copy : PaymentOrder} {ref : String}
    (horder : w.order ref = some order) (hages : Ages w w') (hterms : SameTerms order copy) :
    Ages w' (w'.answer (.saveOrder copy)).2 := by
  refine ⟨le_refl _, fun _ h => h, fun ref' => ?_⟩
  have hself : order.orderRef = ref := by simpa using List.find?_some horder
  rw [World.order_saveOrder]
  split
  · rename_i heq
    have hrel := hages.orders ref'
    rw [← heq, hterms.orderRef, hself, horder] at hrel
    rw [← heq, hterms.orderRef, hself]
    generalize w'.order ref = current at hrel ⊢
    cases hrel with
    | some h => exact .some (h.symm.trans hterms)
  · exact (Ages.refl w').orders ref'

end Ages

/-! ## Who recorded an event first -/

section Ledger

variable {C : Type}

/-- The log of who called what. -/
abbrev WebhookLog : Type := List (Webhook × Call ports Exn)

/-- The answer of a call that recorded an event first. -/
def granted : Except Exn Bool → Bool
  | .ok true => true
  | _ => false

/-- The call recorded an event that had not been recorded, and which one. -/
def firstRecord : Webhook × Call ports Exn → Option (Webhook × String)
  | (t, ⟨.recordEvent event _, r⟩) =>
    if granted r then some (t, event.providerEventId) else none
  | _ => none

/-- The calls that were the first to record an event. -/
def firsts (log : WebhookLog) : List (Webhook × String) := log.filterMap firstRecord

/-- Every event has one first, and what has a first is recorded. -/
structure Ledger (w : World C) (log : WebhookLog) : Prop where
  nodup : ((firsts log).map Prod.snd).Nodup
  recorded : ∀ x ∈ firsts log, x.2 ∈ w.eventIds

theorem Ledger.unique {w : World C} {log : WebhookLog} (h : Ledger w log) {t t' : Webhook}
    {id : String} (ht : (t, id) ∈ firsts log) (ht' : (t', id) ∈ firsts log) : t = t' :=
  congrArg Prod.fst (List.inj_on_of_nodup_map h.nodup ht ht' rfl)

theorem firsts_append (log more : WebhookLog) : firsts (log ++ more) = firsts log ++ firsts more :=
  List.filterMap_append

/-- A step: the world ages, the log grows, and the ledger is kept. -/
structure Books (a b : World C × WebhookLog) : Prop where
  ages : Ages a.1 b.1
  log : a.2 <+: b.2
  ledger : Ledger b.1 b.2

theorem Books.refl {a : World C × WebhookLog} (h : Ledger a.1 a.2) : Books a a :=
  ⟨.refl _, List.prefix_refl _, h⟩

theorem Books.trans {a b c : World C × WebhookLog} (h : Books a b) (h' : Books b c) :
    Books a c :=
  ⟨h.ages.trans h'.ages, h.log.trans h'.log, h'.ledger⟩

/-- A first stays one. -/
theorem Books.mem {a b : World C × WebhookLog} (h : Books a b) {x : Webhook × String}
    (hx : x ∈ firsts a.2) : x ∈ firsts b.2 := by
  obtain ⟨more, hmore⟩ := h.log
  rw [← hmore, firsts_append]
  exact List.mem_append_left _ hx

/-- A call that is no first keeps the books, if the world ages. -/
theorem Books.call {a b : World C × WebhookLog} {x : Webhook × Call ports Exn}
    (h : Ledger a.1 a.2) (hages : Ages a.1 b.1) (hlog : b.2 = a.2 ++ [x])
    (hx : firstRecord x = none) : Books a b := by
  have hfirsts : firsts b.2 = firsts a.2 := by
    rw [hlog, firsts_append]
    simp [firsts, hx]
  refine ⟨hages, hlog ▸ List.prefix_append _ _, ⟨hfirsts ▸ h.nodup, fun y hy => ?_⟩⟩
  exact hages.eventIds _ (h.recorded y (hfirsts ▸ hy))

variable [ConversationRepository C]

/-- Recording an event keeps the books. -/
theorem Books.recordEvent {a b : World C × WebhookLog} {t : Webhook} {event : PaymentEvent}
    {now : Time} {r : Except Exn Bool} (h : Ledger a.1 a.2)
    (ha : Answers (.recordEvent event now) a.1 r b.1)
    (hlog : b.2 = a.2 ++ [(t, ⟨.recordEvent event now, r⟩)]) :
    Books a b ∧ (r = .ok true →
      event.providerEventId ∉ a.1.eventIds ∧ (t, event.providerEventId) ∈ firsts b.2) := by
  have hgrow : Ages a.1 { a.1 with eventIds := event.providerEventId :: a.1.eventIds } :=
    ⟨le_refl _, fun _ h => List.mem_cons_of_mem _ h, (Ages.refl a.1).orders⟩
  have hnone : r ≠ .ok true → firstRecord (t, ⟨.recordEvent event now, r⟩) = none := by
    intro hr
    rcases r with exn | first
    · rfl
    · cases first with
      | true => exact absurd rfl hr
      | false => rfl
  rcases ha.of_recordEvent with ⟨_, hw, hr⟩ | ⟨hnew, _, ⟨hw, hr⟩ | hw⟩
  · exact ⟨.call h (hw ▸ .refl _) hlog (hnone hr), fun hok => absurd hok hr⟩
  · exact ⟨.call h (hw ▸ .refl _) hlog (hnone hr), fun hok => absurd hok hr⟩
  · by_cases hr : r = .ok true
    · subst hr
      have hfirsts : firsts b.2 = firsts a.2 ++ [(t, event.providerEventId)] := by
        rw [hlog, firsts_append]
        rfl
      refine ⟨⟨hw ▸ hgrow, hlog ▸ List.prefix_append _ _, ?_, fun x hx => ?_⟩, fun _ => ⟨hnew, ?_⟩⟩
      · -- what has a first is recorded, and this event was not
        rw [hfirsts, List.map_append]
        refine h.nodup.append (List.nodup_singleton _) fun id hid hid' => ?_
        obtain ⟨x, hx, rfl⟩ := List.mem_map.mp hid
        have hx' : x.2 = event.providerEventId := by simpa using hid'
        exact hnew (hx' ▸ h.recorded x hx)
      · rw [hw]
        rw [hfirsts] at hx
        rcases List.mem_append.mp hx with hx | hx
        · exact List.mem_cons_of_mem _ (h.recorded x hx)
        · rw [List.mem_singleton.mp hx]
          exact List.mem_cons_self
      · rw [hfirsts]
        exact List.mem_append_right _ List.mem_cons_self
    · exact ⟨.call h (hw ▸ hgrow) hlog (hnone hr), fun hok => absurd hok hr⟩

end Ledger

/-! ## One call among others -/

section Pool

variable {C : Type} {w₀ : World C}

/-- If a call settled its order, its event could settle it from the start, and the call was
the first to record the event. -/
def SettledLawfully (w₀ : World C) (t : Webhook) (out : Except Exn WebhookResult)
    (a : World C × WebhookLog) : Prop :=
  ∀ r, out = .ok r → r.settles t.2 →
    Settleable w₀ t.2 ∧ (t, t.2.providerEventId) ∈ firsts a.2

/-- A call that raises, or answers without settling, settles lawfully. -/
theorem settledLawfully_error {t : Webhook} {exn : Exn} {a : World C × WebhookLog} :
    SettledLawfully w₀ t (.error exn) a := fun r hr => by cases hr

theorem settledLawfully_ok {t : Webhook} {r : WebhookResult} {a : World C × WebhookLog}
    (h : r.accepted = false ∨ r.duplicate = true) : SettledLawfully w₀ t (.ok r) a := by
  intro r' hr hs
  cases hr
  rcases h with h | h
  · exact absurd (h.symm.trans hs.2.1) Bool.false_ne_true
  · exact absurd (hs.2.2.symm.trans h) Bool.false_ne_true

variable [ConversationRepository C] {deliverable : PaymentEvent → Prop}

/-- What a call can count on: the answers are its own, and others keep the books. -/
def bookkeeping (deliverable : PaymentEvent → Prop) (t : Webhook) :
    Setting ports Exn (World C × WebhookLog) :=
  ⟨(settling deliverable).logged.answers t, Books⟩

/-- Storing a version of a loaded order keeps the books. -/
theorem saveOrder_keeps_books {t : Webhook} {a : World C × WebhookLog} {w : World C}
    {order copy : PaymentOrder} {ref : String} (horder : w.order ref = some order)
    (hages : Ages w a.1) (hterms : SameTerms order copy) (ht : (t, t.2.providerEventId) ∈ firsts a.2) :
    Meets (bookkeeping deliverable t) Books (fun _ b => (t, t.2.providerEventId) ∈ firsts b.2)
      (ask (.saveOrder copy)) a := by
  refine meets_perform.mpr fun a₁ hm r b ha => ?_
  have hsave : Ages a₁.1 b.1 := by
    rcases ha.1.of_saveOrder with hw | ⟨hw, _⟩
    · exact hw ▸ ages_saveOrder horder (hages.trans hm.ages) hterms
    · exact hw ▸ .refl _
  have hbooks : Books a₁ b := .call hm.ledger hsave ha.2 rfl
  exact ⟨hbooks, hbooks.mem (hm.mem ht)⟩

/-- Storing the order as the event says keeps the books. -/
theorem settle_keeps_books {t : Webhook} {a : World C × WebhookLog} {w : World C}
    {order : PaymentOrder} {ref : String} (horder : w.order ref = some order)
    (hages : Ages w a.1) (hmember : order.status.isMember .paid = false)
    (ht : (t, t.2.providerEventId) ∈ firsts a.2) (hset : t.2.isSuccess = true → Settleable w₀ t.2) :
    Meets (bookkeeping deliverable t) Books (SettledLawfully w₀ t) (settle t.2 order) a := by
  have hend : ∀ (out : Except Exn WebhookResult) (b : World C × WebhookLog),
      (t, t.2.providerEventId) ∈ firsts b.2 → SettledLawfully w₀ t out b :=
    fun out b hb r _ hs => ⟨hset hs.1, hb⟩
  unfold settle
  split
  · have hterms : SameTerms order { order with status := .text "failed" } :=
      ⟨rfl, rfl, rfl, rfl, hmember.symm⟩
    exact (saveOrder_keeps_books horder hages hterms ht).bind
      (fun _ b hb => hend _ b hb) fun _ b hb => hend _ b hb
  · have hterms : SameTerms order
        { order with status := .text "paid", paidAt := some t.2.occurredAt } :=
      ⟨rfl, rfl, rfl, rfl, hmember.symm⟩
    exact (saveOrder_keeps_books horder hages hterms ht).bind
      (fun _ b hb => hend _ b hb) fun _ b hb => hend _ b hb

/-- **One call keeps the books**, and settles lawfully. -/
theorem acceptWebhook_keeps_books {t : Webhook} {a : World C × WebhookLog}
    (hages : Ages w₀ a.1) :
    Meets (bookkeeping deliverable t) Books (SettledLawfully w₀ t) (acceptWebhook t.2) a := by
  refine Meets.perform_bind fun a₁ hm r b ha => ?_
  obtain ⟨hw, hr⟩ := ha.1.of_now
  have hbooks : Books a₁ b := .call hm.ledger (hw ▸ .refl _) ha.2 rfl
  refine ⟨hbooks, fun now hnow => ?_, fun exn _ => settledLawfully_error⟩
  have hnow : w₀.clock ≤ now := by
    rw [hr] at hnow
    cases hnow
    exact (hages.trans hm.ages).clock
  have hages := (hages.trans hm.ages).trans hbooks.ages
  unfold acceptWebhookAt
  split
  · exact settledLawfully_ok (.inl rfl)
  · refine Meets.perform_bind fun a₂ hm₂ r₂ b₂ ha₂ => ?_
    obtain ⟨hbooks₂, hfirst⟩ := Books.recordEvent hm₂.ledger ha₂.1 ha₂.2
    refine ⟨hbooks₂, fun first hr₂ => ?_, fun exn _ => settledLawfully_error⟩
    subst hr₂
    cases first with
    | false => exact settledLawfully_ok (.inr rfl)
    | true =>
      obtain ⟨hnew, hmem⟩ := hfirst rfl
      have hages₂ := hages.trans hm₂.ages
      have hfresh : t.2.providerEventId ∉ w₀.eventIds := fun h => hnew (hages₂.eventIds _ h)
      refine Meets.perform_bind fun a₃ hm₃ r₃ b₃ ha₃ => ?_
      obtain ⟨hw₃, hr₃⟩ := ha₃.1.of_loadOrder
      have hbooks₃ : Books a₃ b₃ := .call hm₃.ledger (hw₃ ▸ .refl _) ha₃.2 rfl
      refine ⟨hbooks₃, fun loaded hloaded => ?_, fun exn _ => settledLawfully_error⟩
      obtain rfl : loaded = a₃.1.order t.2.orderRef := by
        rcases hr₃ with hr₃ | ⟨name, hr₃⟩
        · rw [hloaded] at hr₃
          exact Except.ok.inj hr₃
        · rw [hloaded] at hr₃
          cases hr₃
      have hages₃ := (hages₂.trans hbooks₂.ages).trans hm₃.ages
      cases hrec : t.2.reconcile (a₃.1.order t.2.orderRef) now with
      | error failure => exact settledLawfully_ok (.inl rfl)
      | ok u =>
        obtain ⟨_, order, horder, _, _, _, hmember, _⟩ := reconcile_eq_ok_iff.mp hrec
        simp only [horder]
        refine settle_keeps_books horder hbooks₃.ages hmember (hbooks₃.mem (hm₃.mem hmem))
          fun hsuccess => ⟨hsuccess, hfresh, ?_⟩
        exact reconcile_of_sameTerms (hages₃.orders _) hnow hrec

/-- Time passes, and the books are kept. -/
theorem Books.outside {a b : World C × WebhookLog} (h : Ledger a.1 a.2)
    (ho : (settling deliverable).logged.outside a b) : Books a b := by
  obtain ⟨⟨hclock, hw⟩, hlog⟩ := ho
  have hages : Ages a.1 b.1 := by
    rw [hw]
    exact ⟨hclock, fun _ h => h, (Ages.refl a.1).orders⟩
  exact ⟨hages, hlog ▸ List.prefix_refl _,
    hlog ▸ ⟨h.nodup, fun x hx => hages.eventIds _ (h.recorded x hx)⟩⟩

/-- The calls agree. -/
theorem settling_agree : Pool.Agree (settling deliverable).logged (bookkeeping deliverable)
    (fun _ => Books) (SettledLawfully w₀) (fun a => Ages w₀ a.1 ∧ Ledger a.1 a.2) where
  answers _ := rfl
  enters _ _ _ h hp := hp.2 ▸ acceptWebhook_keeps_books h.1
  step _ _ _ _ h hg := ⟨⟨h.1.trans hg.ages, hg.ledger⟩, hg⟩
  outside _ _ h ho :=
    have hbooks := Books.outside h.2 ho
    ⟨h.1.trans hbooks.ages, hbooks.ledger⟩
  outside_moves _ _ _ h ho := .outside h.2 ho
  refl _ _ h := .refl h.2
  trans _ _ _ _ h h' := h.trans h'
  stable _ _ _ _ h hm := fun r hr hs => ⟨(h r hr hs).1, hm.mem (h r hr hs).2⟩

/-- **What has settled.** In every pool that can be reached, a call that has settled its order
had an event that could settle it from the start, and two such calls had two ids. -/
theorem settled_lawfully {pool : Pool ports Exn WebhookResult (World C) Webhook}
    (hreach : Pool.Reach (settling deliverable) (Pool.start w₀) pool) {t t' : Webhook}
    {r r' : WebhookResult} (ht : (t, .ok r) ∈ pool.finished) (ht' : (t', .ok r') ∈ pool.finished)
    (hr : r.settles t.2) (hr' : r'.settles t'.2) :
    Settleable w₀ t.2 ∧ (t.2.providerEventId = t'.2.providerEventId → t = t') := by
  obtain ⟨log, hlogged⟩ := hreach.logged
  have hstart : Ages w₀ w₀ ∧ Ledger w₀ [] := ⟨.refl _, List.nodup_nil, fun _ h => by cases h⟩
  have hsound := Pool.Reach.inv settling_agree hstart hlogged
  obtain ⟨hset, hfirst⟩ := hsound.finished _ ht r rfl hr
  obtain ⟨_, hfirst'⟩ := hsound.finished _ ht' r' rfl hr'
  exact ⟨hset, fun hid => hsound.inv.2.unique hfirst (hid ▸ hfirst')⟩

/-- The events of the calls that are done were deliverable. -/
theorem deliverable_of_finished {pool : Pool ports Exn WebhookResult (World C) Webhook}
    (hreach : Pool.Reach (settling deliverable) (Pool.start w₀) pool) {t : Webhook}
    {out : Except Exn WebhookResult} (ht : (t, out) ∈ pool.finished) : deliverable t.2 := by
  have henters : ∀ t q (w : World C), (settling deliverable).enters t q w → deliverable t.2 :=
    fun _ _ _ h => h.1
  exact hreach.named henters t (List.mem_append_left _ (List.mem_map_of_mem ht))

/-- Undisturbed, an event that can settle its order does. -/
theorem acceptWebhook_settles {w : World C} {e : PaymentEvent} (h : Settleable w e) :
    ∃ r w', Run alone (acceptWebhook e) w (.ok r) w' ∧ r.settles e ∧ w'.clock = w.clock ∧
      w'.eventIds = e.providerEventId :: w.eventIds ∧
      ∀ ref, Option.Rel SameTerms (w.order ref) (w'.order ref) := by
  obtain ⟨hsuccess, hfresh, hrec⟩ := h
  obtain ⟨hverified, order, horder, _, _, _, hmember, _⟩ := reconcile_eq_ok_iff.mp hrec
  let paid := { order with status := .text "paid", paidAt := some e.occurredAt }
  let recorded : World C := { w with eventIds := e.providerEventId :: w.eventIds }
  have hplay : play (fun _ o w => w.smooth o) 0 (acceptWebhook e) w =
      (.ok { accepted := true, order := some paid }, (recorded.answer (.saveOrder paid)).2) := by
    have hclock : w.smooth .now = (.ok w.clock, w) := rfl
    have hrecord : w.smooth (.recordEvent e w.clock) = (.ok true, recorded) := if_neg hfresh
    have hload : recorded.smooth (.loadOrder e.orderRef) = (.ok (some order), recorded) :=
      congrArg (fun o => (Except.ok o, recorded)) horder
    refine (play_perform_bind hclock).trans ?_
    rw [acceptWebhookAt, if_neg (by simp [hverified])]
    refine (play_perform_bind hrecord).trans ((play_perform_bind hload).trans ?_)
    rw [horder] at hrec
    simp only [hrec, settle, hsuccess, Bool.not_true, Bool.false_eq_true, if_false]
    exact play_perform_bind rfl
  have hrun := run_smooth (acceptWebhook e) w
  rw [hplay] at hrun
  have hterms : SameTerms order paid := ⟨rfl, rfl, rfl, rfl, hmember.symm⟩
  have hages : Ages recorded (recorded.answer (.saveOrder paid)).2 :=
    ages_saveOrder (w := recorded) horder (.refl _) hterms
  exact ⟨_, _, hrun, ⟨hsuccess, rfl, rfl⟩, rfl, rfl, hages.orders⟩

/-- **When orders are settled once.** Over the events that are deliverable and the world they
start in, every interleaving of calls of `accept_webhook` settles every order at most once,
and refuses what comes after as paid already, if and only if no two deliverable events that
could settle the same order have different ids. -/
theorem settled_once_iff (deliverable : PaymentEvent → Prop) (w₀ : World C) :
    (∀ pool, Pool.Reach (settling deliverable) (Pool.start w₀) pool →
      SettledOnce w₀ pool.finished) ↔
    ∀ e e', deliverable e → deliverable e' → Settleable w₀ e → Settleable w₀ e' →
      e.orderRef = e'.orderRef → e.providerEventId = e'.providerEventId := by
  constructor
  · intro honce e e' he he' hset hset' href
    by_contra hid
    -- deliver one after the other, undisturbed
    obtain ⟨r, w₁, hrun, hr, hclock, hids, hterms⟩ := acceptWebhook_settles hset
    have hset₁ : Settleable w₁ e' := by
      refine ⟨hset'.success, ?_, ?_⟩
      · rw [hids]
        exact fun hmem => (List.mem_cons.mp hmem).elim (fun h => hid h.symm) hset'.fresh
      · rw [hclock]
        exact reconcile_of_sameTerms (rel_symm (hterms _)) (le_refl _) hset'.reconciles
    obtain ⟨r', w₂, hrun', hr', -⟩ := acceptWebhook_settles hset₁
    have hreach : Pool.Reach (settling deliverable) (Pool.start w₀)
        ⟨w₁, [], [((0, e), .ok r)]⟩ :=
      Pool.Reach.enter_run (A := settling deliverable) (t := (0, e)) ⟨he, rfl⟩ (by simp) hrun
        (fun _ _ h => h) rfl
    have hreach' : Pool.Reach (settling deliverable) ⟨w₁, [], [((0, e), .ok r)]⟩
        ⟨w₂, [], [((0, e), .ok r), ((1, e'), .ok r')]⟩ :=
      Pool.Reach.enter_run (A := settling deliverable) (t := (1, e')) ⟨he', rfl⟩ (by simp) hrun'
        (fun _ _ h => h) rfl
    have hsame := (honce _ (hreach.trans hreach')).once (0, e) r (1, e') r' (by simp) (by simp)
      hr hr' href
    exact absurd (congrArg Prod.fst hsame) Nat.zero_ne_one
  · intro hcond pool hreach
    have hid : ∀ t r t' out', (t, .ok r) ∈ pool.finished → (t', out') ∈ pool.finished →
        r.settles t.2 → Settleable w₀ t'.2 → t.2.orderRef = t'.2.orderRef →
        t.2.providerEventId = t'.2.providerEventId := by
      intro t r t' out' ht ht' hr hset' href
      exact hcond _ _ (deliverable_of_finished hreach ht) (deliverable_of_finished hreach ht')
        (settled_lawfully hreach ht ht hr hr).1 hset' href
    refine ⟨fun t r t' r' ht ht' hr hr' href => ?_, fun t r t' r' ht ht' hr hset' href hne => ?_⟩
    · have hset' := (settled_lawfully hreach ht' ht hr' hr).1
      exact (settled_lawfully hreach ht ht' hr hr').2 (hid t r t' _ ht ht' hr hset' href)
    · exact absurd (hid t r t' _ ht ht' hr hset' href) hne

end Pool

/-! ## An order that is paid for twice -/

/-- The provider reports two payments of the order under two ids, one after the other. Both
are accepted, and neither is a duplicate. -/
theorem order_settled_twice :
    ∃ pool, Pool.Reach (settling fun e => e = paymentSuccess "1" ∨ e = paymentSuccess "2")
        (Pool.start awaitingPayment) pool ∧ ¬ SettledOnce awaitingPayment pool.finished := by
  let first := play (fun _ o w => w.smooth o) 0 (acceptWebhook (paymentSuccess "1"))
    awaitingPayment
  let second := play (fun _ o w => w.smooth o) 0 (acceptWebhook (paymentSuccess "2")) first.2
  have hfirst : Pool.Reach (settling fun e => e = paymentSuccess "1" ∨ e = paymentSuccess "2")
      (Pool.start awaitingPayment) ⟨first.2, [], [((0, paymentSuccess "1"), first.1)]⟩ :=
    Pool.Reach.enter_run ⟨.inl rfl, rfl⟩ (by simp) (run_smooth _ awaitingPayment)
      (fun _ _ h => h) rfl
  have hsecond : Pool.Reach (settling fun e => e = paymentSuccess "1" ∨ e = paymentSuccess "2")
      ⟨first.2, [], [((0, paymentSuccess "1"), first.1)]⟩
      ⟨second.2, [], [((0, paymentSuccess "1"), first.1), ((1, paymentSuccess "2"), second.1)]⟩ :=
    Pool.Reach.enter_run ⟨.inr rfl, rfl⟩ (by simp) (run_smooth _ first.2) (fun _ _ h => h) rfl
  refine ⟨_, hfirst.trans hsecond, fun honce => ?_⟩
  have hsame := honce.once (0, paymentSuccess "1") _ (1, paymentSuccess "2") _
    (List.mem_cons_self) (List.mem_cons_of_mem _ List.mem_cons_self) ⟨rfl, rfl, rfl⟩
    ⟨rfl, rfl, rfl⟩ rfl
  exact absurd (congrArg Prod.fst hsame) Nat.zero_ne_one

end NxTutors.DemoAgent
