import NxTutors.DemoAgent.Workers

/-!
# A payment and its conversation

Settlement, the conversation's machine and the transport of events are separate components.
For a payment to reach its conversation, some step has to carry it over: somebody has to
commit `PAYMENT_PAID` there, or to leave an event behind that a handler will make into one.

No deployed handler does. `accept_webhook` stores the order and stops; nothing it writes is
read by anything that fires the trigger; the queue only ever holds messages of parents and
delivery statuses; a callback of the scheduler is never the payment provider; the relay
publishes rows to another agent. So in every state that any interleaving of the handlers can
reach, wherever they crash, an order that is stored as paid has not reached its conversation.
-/

namespace NxTutors.DemoAgent

open Effect
open Text (Json)

/-! ## Reaching a conversation -/

/-- The conversation has committed `PAYMENT_PAID`. -/
def Committed (w : World InMemoryConversations) (ref : String) : Prop :=
  ∃ entry ∈ w.conversations.history ref, entry.trigger = .paymentPaid

/-- The body asks for `PAYMENT_PAID` in some conversation. -/
def WorkBody.paid (body : WorkBody) (ref : String) : Prop :=
  ∃ e, workEvent body = some e ∧ e.trigger = .paymentPaid ∧ e.conversationRef = ref

/-- The row is about the payment of a conversation. -/
def OutboxRow.paid (row : OutboxRow) (ref : String) : Prop :=
  (row.event = Trigger.paymentPaid.value ∨ row.event = DomainEvent.paymentConfirmed.value) ∧
    row.payload.get "conversation_ref" = .str ref

/-- A `PAYMENT_PAID` event waits for the conversation: on the queue, as a callback, or in the
outbox. -/
def Waiting (w : World InMemoryConversations) (ref : String) : Prop :=
  (∃ body ∈ w.queue, body.paid ref) ∨ (∃ body ∈ w.scheduled, body.paid ref) ∨
    ∃ row ∈ w.outbox, row.paid ref

/-- The payment has reached the conversation, or is about to. -/
def Reached (w : World InMemoryConversations) (ref : String) : Prop :=
  Committed w ref ∨ Waiting w ref

/-! ## The deployed handlers -/

/-- An invocation of a deployed handler. -/
inductive Invocation
  | metaWebhook (verified : Bool) (payload : Option Json)
  | cashfreeWebhook (verified : Bool) (event : Option PaymentEvent)
  | workQueue (records : List (String × WorkBody))
  | scheduledCallback (body : WorkBody)
  | outboxRelay
  | internalHandoff (verified : Bool) (body : Option Json)
  | capabilityWorker (capability : Capability) (event : CapabilityEvent)

/-- What is invoked. -/
def Invocation.program (cfg : Config) : Invocation → Act Unit
  | .metaWebhook verified payload => DemoAgent.metaWebhook cfg verified payload >>= fun _ => pure ()
  | .cashfreeWebhook verified event =>
    DemoAgent.cashfreeWebhook verified event >>= fun _ => pure ()
  | .workQueue records => DemoAgent.workQueue cfg records >>= fun _ => pure ()
  | .scheduledCallback body => DemoAgent.scheduledCallback cfg body >>= fun _ => pure ()
  | .outboxRelay => relay cfg >>= fun _ => pure ()
  | .internalHandoff verified body =>
    DemoAgent.internalHandoff cfg verified body >>= fun _ => pure ()
  | .capabilityWorker capability event => DemoAgent.capabilityWorker cfg capability event

/-- The transports deliver what has been handed to them, as often as they like. Webhooks,
handoffs and the events of the capabilities come from outside. -/
def Invocation.deliverable (w : World InMemoryConversations) : Invocation → Prop
  | .workQueue records => ∀ x ∈ records, x.2 ∈ w.queue ∨ x.2 ∈ w.scheduled
  | .scheduledCallback body => body ∈ w.scheduled
  | _ => True

/-- Any number of invocations taking turns, while the outside does what components may. -/
def deployed (cfg : Config) :
    Arena ports Exn Unit (World InMemoryConversations) (Nat × Invocation) where
  answers _ := Answers
  enters t p w := t.2.deliverable w ∧ p = t.2.program cfg
  outside := Neutral

/-! ## What the handlers do not do -/

/-- The calls that carry no payment over. -/
def Unpaid : Op → Prop
  | .saveTransition result _ _ => result.trigger ≠ .paymentPaid
  | .publish body _ _ => workEvent body = none
  | .enqueue row _ => ∀ ref, ¬ row.paid ref
  | .schedule _ _ payload => ∀ ref, ¬ (WorkBody.mk payload Facts.empty).paid ref
  | _ => True

/-- No payment has reached its conversation. -/
def Unreached (w : World InMemoryConversations) : Prop := ∀ ref, ¬ Reached w ref

section Unreached

variable {w w' : World InMemoryConversations} {cfg : Config}

theorem workEvent_eq_none {body : WorkBody} (h : body.fields "trigger" = none) :
    workEvent body = none := by
  have hraw : body.fields.firstText ["trigger"] = "" := by
    simp [Facts.firstText, Facts.get, h, Value.truthy]
  rw [workEvent, hraw]
  rfl

/-- An event is one of a trigger the body names. -/
theorem workEvent_trigger {body : WorkBody} {e : Event} (h : workEvent body = some e) :
    e.trigger.value = body.fields.firstText ["trigger"] := by
  unfold workEvent at h
  dsimp only at h
  split at h
  · cases h
  · split at h
    · rename_i trigger actor htrigger hactor
      cases h
      exact Trigger.ofValue?_eq_some htrigger
    · cases h

/-- What a command schedules is not a payment. -/
theorem CommandSchedules.unpaid {body : WorkBody} (h : CommandSchedules body) (ref : String) :
    ¬ body.paid ref := by
  rintro ⟨e, he, hpaid, -⟩
  rcases h.2 with hnone | htrigger
  · rw [workEvent_eq_none hnone] at he
    cases he
  · have hvalue := workEvent_trigger he
    have hraw : body.fields.firstText ["trigger"] = Trigger.tutorRequestExpired.value := by
      simp [Facts.firstText, Facts.get, htrigger, Value.truthy, Value.text, Trigger.value]
    rw [hpaid, hraw] at hvalue
    exact absurd hvalue (by decide)

/-- Nothing that commands write to the outbox is a payment. -/
theorem emitted_unpaid {row : OutboxRow} {event : DomainEvent} (he : event ∈ EMITTED)
    (hrow : row.event = event.value) (ref : String) : ¬ row.paid ref := by
  rintro ⟨hevent, -⟩
  have hall : ∀ event ∈ EMITTED, ¬ (event.value = Trigger.paymentPaid.value ∨
      event.value = DomainEvent.paymentConfirmed.value) := by decide
  rw [hrow] at hevent
  exact hall event he hevent

theorem Unreached.neutral (hn : Neutral w w') (h : Unreached w) : Unreached w' := by
  rintro ref (hcommitted | ⟨body, hbody, hpaid⟩ | ⟨body, hbody, hpaid⟩ | ⟨row, hrow, hpaid⟩)
  · exact h ref (.inl (by rwa [Committed, hn.conversations] at hcommitted))
  · exact h ref (.inr (.inl ⟨body, hn.queue ▸ hbody, hpaid⟩))
  · rcases hn.scheduled body hbody with hold | hnew
    · exact h ref (.inr (.inr (.inl ⟨body, hold, hpaid⟩)))
    · exact hnew.unpaid ref hpaid
  · rcases hn.outbox row hrow with hold | ⟨event, he, hnew⟩
    · exact h ref (.inr (.inr (.inr ⟨row, hold, hpaid⟩)))
    · exact emitted_unpaid he hnew ref hpaid

/-- Storing a transition commits nothing else. -/
theorem committed_save {result : TransitionResult} {now : Time} {facts : Facts} {ref : String}
    (h : Committed (w.answer (.saveTransition result now facts)).2 ref) :
    Committed w ref ∨ result.trigger = .paymentPaid := by
  obtain ⟨entry, hentry, hpaid⟩ := h
  simp only [World.answer, ConversationRepository.saveTransition,
    InMemoryConversations.saveTransition] at hentry
  split at hentry
  · exact .inl ⟨entry, hentry, hpaid⟩
  · simp only [InMemoryConversations.write, Function.update_apply] at hentry
    split at hentry
    · rename_i href
      rcases List.mem_append.mp hentry with hold | hnew
      · exact .inl ⟨entry, href ▸ hold, hpaid⟩
      · rw [List.mem_singleton.mp hnew] at hpaid
        exact .inr hpaid
    · exact .inl ⟨entry, hentry, hpaid⟩

/-- **Calls that carry no payment over** leave every payment where it is. -/
theorem unreached_answer {o : Op} (ho : Unpaid o) (h : Unreached w) :
    Unreached (w.answer o).2 := by
  cases o with
  | saveTransition result now facts =>
    rintro ref (hcommitted | hwaiting)
    · rcases committed_save hcommitted with hold | hpaid
      · exact h ref (.inl hold)
      · exact ho hpaid
    · exact h ref (.inr hwaiting)
  | publish body groupId dedupId =>
    rintro ref (hcommitted | ⟨body', hbody, hpaid⟩ | hwaiting)
    · exact h ref (.inl hcommitted)
    · rcases List.mem_append.mp hbody with hold | hnew
      · exact h ref (.inr (.inl ⟨body', hold, hpaid⟩))
      · obtain ⟨e, he, -⟩ := List.mem_singleton.mp hnew ▸ hpaid
        have hnone : workEvent body = none := ho
        rw [hnone] at he
        cases he
    · exact h ref (.inr (.inr hwaiting))
  | markPublished outboxId now =>
    rintro ref (hcommitted | hqueue | hscheduled | ⟨row, hrow, hpaid⟩)
    · exact h ref (.inl hcommitted)
    · exact h ref (.inr (.inl hqueue))
    · exact h ref (.inr (.inr (.inl hscheduled)))
    · obtain ⟨row', hrow', rfl⟩ := List.mem_map.mp hrow
      refine h ref (.inr (.inr (.inr ⟨row', hrow', ?_⟩)))
      split at hpaid <;> exact hpaid
  | enqueue row now =>
    rintro ref (hcommitted | hqueue | hscheduled | ⟨row', hrow, hpaid⟩)
    · exact h ref (.inl hcommitted)
    · exact h ref (.inr (.inl hqueue))
    · exact h ref (.inr (.inr (.inl hscheduled)))
    · rcases World.mem_outboxWith hrow with hold | rfl
      · exact h ref (.inr (.inr (.inr ⟨row', hold, hpaid⟩)))
      · exact ho ref hpaid
  | schedule name fireAt payload =>
    rintro ref (hcommitted | hqueue | ⟨body, hbody, hpaid⟩ | hrow)
    · exact h ref (.inl hcommitted)
    · exact h ref (.inr (.inl hqueue))
    · rcases List.mem_append.mp hbody with hold | hnew
      · exact h ref (.inr (.inr (.inl ⟨body, hold, hpaid⟩)))
      · exact ho ref (List.mem_singleton.mp hnew ▸ hpaid)
    · exact h ref (.inr (.inr (.inr hrow)))
  | claim key scope now ttl =>
    simp only [World.answer]
    split
    · exact h
    · exact h
  | recordEvent event now =>
    simp only [World.answer]
    split
    · exact h
    · exact h
  | claimSend message now =>
    simp only [World.answer]
    split
    · exact h
    · exact h
  | _ => exact h

theorem unreached_harmless : Harmless Unreached Unpaid :=
  ⟨fun _ _ ho h => unreached_answer ho h, fun _ _ hn h => h.neutral hn⟩

/-- Only the payment provider is granted `PAYMENT_PAID`. -/
theorem permitsMove_unpaid {trigger : Trigger} {actor : Actor}
    (h : trigger ≠ .paymentPaid ∨ actor ≠ .paymentProvider) :
    PermitsMove Unpaid trigger actor := by
  intro s granted result now facts hfire
  obtain ⟨row, hrow, -, htrigger, hactor, rfl⟩ := fire_lawful hfire
  show trigger ≠ .paymentPaid
  rcases h with h | h
  · exact h
  · rintro rfl
    have hall : ∀ row ∈ TRANSITIONS, row.trigger = .paymentPaid →
        ∀ actor ∈ row.actors, actor = .paymentProvider := by decide
    exact h (hall row hrow htrigger actor hactor)

theorem permits_unpaid : Permits Unpaid where
  quiet o hq := by
    cases o with
    | saveTransition => exact absurd hq Bool.false_ne_true
    | publish => exact absurd hq Bool.false_ne_true
    | _ => trivial
  claim _ _ _ _ := trivial
  load _ := trivial
  execute _ _ _ := trivial
  send _ := trivial
  follow := permitsMove_unpaid (.inl (by decide))

/-! ## What the handlers maintain -/

/-- Nothing reaches its conversation through a program. -/
abbrev NoPayment {α : Type} (p : Act α) : Prop :=
  Maintains (Answers (C := InMemoryConversations)) Unreached p

theorem ask_noPayment {o : Op} (ho : Unpaid o) : NoPayment (ask o) :=
  ask_maintains unreached_harmless ho

theorem handle_noPayment {e : Event}
    (h : e.trigger ≠ .paymentPaid ∨ e.actor ≠ .paymentProvider) : NoPayment (handle cfg e) :=
  handle_maintains unreached_harmless permits_unpaid (permitsMove_unpaid h)

theorem publishAll_noPayment (items : List MetaItem) :
    ∀ sent, NoPayment (publishAll cfg items sent) := by
  induction items with
  | nil => exact fun sent => .ret sent
  | cons item rest ih =>
    intro sent
    refine (lift_maintains _).bind fun dedup => ?_
    cases hwork : workItem cfg item with
    | error exn => exact .throw exn
    | ok work =>
      cases work with
      | none => exact ih sent
      | some work =>
        have hnone : workEvent work = none := workEvent_eq_none (workItem_fromMeta hwork).trigger
        exact (ask_noPayment (o := .publish work _ dedup) hnone).bind fun _ => ih (sent + 1)

theorem metaWebhook_noPayment (verified : Bool) (payload : Option Json) :
    NoPayment (metaWebhook cfg verified payload) := by
  unfold metaWebhook
  split
  · exact .ret _
  · split
    · exact .ret _
    · refine Maintains.bind ?_ fun queued => .ret _
      exact (lift_maintains _).bind fun items => publishAll_noPayment items 0

/-- Settling an order maintains that no payment reaches its conversation. -/
theorem acceptWebhook_noPayment (event : PaymentEvent) : NoPayment (acceptWebhook event) := by
  refine (ask_noPayment (o := .now) trivial).bind fun now => ?_
  unfold acceptWebhookAt
  split
  · exact .ret _
  · refine (ask_noPayment (o := .recordEvent event now) trivial).bind fun firstTime => ?_
    split
    · exact .ret _
    · refine (ask_noPayment (o := .loadOrder event.orderRef) trivial).bind fun stored => ?_
      split
      · exact .ret _
      · exact .throw _
      · unfold settle
        split
        · exact (ask_noPayment (o := .saveOrder _) trivial).bind fun _ => .ret _
        · exact (ask_noPayment (o := .saveOrder _) trivial).bind fun _ => .ret _

theorem cashfreeWebhook_noPayment (verified : Bool) (event : Option PaymentEvent) :
    NoPayment (cashfreeWebhook verified event) := by
  unfold cashfreeWebhook
  split
  · exact .ret _
  · split
    · exact .ret _
    · refine (acceptWebhook_noPayment _).bind fun result => ?_
      split
      · exact .ret _
      · split
        · exact .ret _
        · exact .ret _

/-- No event of a parent is the payment provider's. -/
theorem permitsMove_user (trigger : Trigger) : PermitsMove Unpaid trigger .user :=
  permitsMove_unpaid (.inr (by decide))

theorem workQueue_noPayment (h : Unreached w) {records : List (String × WorkBody)}
    (hrecords : ∀ x ∈ records, x.2 ∈ w.queue ∨ x.2 ∈ w.scheduled) :
    NoPayment (workQueue cfg records) := by
  refine workQueue_maintains unreached_harmless permits_unpaid permitsMove_user
    fun x hx e he => permitsMove_unpaid (.inl fun hpaid => h e.conversationRef (.inr ?_))
  rcases hrecords x hx with hqueue | hscheduled
  · exact .inl ⟨x.2, hqueue, e, he, hpaid, rfl⟩
  · exact .inr (.inl ⟨x.2, hscheduled, e, he, hpaid, rfl⟩)

/-- A callback is never the payment provider. -/
theorem scheduledCallback_noPayment (body : WorkBody) :
    NoPayment (scheduledCallback cfg body) := by
  refine handleRecord_maintains unreached_harmless permits_unpaid permitsMove_user
    fun e he => permitsMove_unpaid (.inr ?_)
  unfold workEvent at he
  dsimp only at he
  split at he
  · cases he
  · split at he
    · rename_i trigger actor htrigger hactor
      cases he
      have hraw : Facts.firstText (body.fields.set "actor" (.str Actor.scheduler.value))
          ["actor"] = Actor.scheduler.value := by
        simp [Facts.firstText, Facts.get, Facts.set, Value.truthy, Value.text, Actor.value]
      rw [hraw] at hactor
      have hscheduler : actor = .scheduler := by
        have : Actor.ofValue? Actor.scheduler.value = some .scheduler := by decide
        rw [if_neg (by decide), this] at hactor
        exact (Option.some.inj hactor).symm
      rw [hscheduler]
      exact fun hprovider => Actor.noConfusion hprovider
    · cases he

theorem relayAll_noPayment (now : Time) (rows : List OutboxRow) :
    ∀ published, NoPayment (relayAll cfg now rows published) := by
  induction rows with
  | nil => exact fun published => .ret published
  | cons row rest ih =>
    intro published
    refine Maintains.bind (.tryCatch ?_ fun _ => .ret 0) fun n => ih (published + n)
    have hmark : NoPayment (ask (.markPublished row.outboxId now) >>= fun _ => pure 1) :=
      (ask_noPayment (o := .markPublished row.outboxId now) trivial).bind fun _ => .ret 1
    split
    · exact (ask_noPayment (o := .dispatch _ _ _ _) trivial).bind fun _ => hmark
    · exact hmark

theorem relay_noPayment : NoPayment (relay cfg) := by
  refine (ask_noPayment (o := .now) trivial).bind fun now => ?_
  refine (ask_noPayment (o := .unpublished 100) trivial).bind fun rows => ?_
  exact (relayAll_noPayment now rows 0).bind fun published => .ret _

theorem internalHandoff_noPayment (verified : Bool) (body : Option Json) :
    NoPayment (internalHandoff cfg verified body) := by
  unfold internalHandoff
  split
  · exact .ret _
  · split
    · exact .ret _
    · rename_i body
      cases he : handoffEvent cfg body with
      | error exn => exact .throw exn
      | ok e =>
        have hturn : NoPayment (handle cfg e) :=
          handle_noPayment (.inl (by rw [(handoffEvent_eq_ok he).1]; decide))
        exact hturn.bind fun result => .ret _

/-- No capability fires `PAYMENT_PAID`. -/
theorem capabilityWorker_noPayment (capability : Capability) (event : CapabilityEvent) :
    NoPayment (capabilityWorker cfg capability event) := by
  unfold capabilityWorker
  split
  · exact .ret _
  · rename_i trigger htrigger
    have hall : ∀ capability event, Capability.trigger capability event ≠ some .paymentPaid := by
      intro capability event
      cases capability <;> cases event <;> decide
    refine Maintains.bind (handle_noPayment (.inl ?_)) fun _ => .ret ()
    rintro rfl
    exact hall capability event.event htrigger

/-- **No handler carries a payment over.** -/
theorem program_noPayment (h : Unreached w) {i : Invocation} (hi : i.deliverable w) :
    NoPayment (i.program cfg) := by
  cases i with
  | metaWebhook verified payload =>
    exact (metaWebhook_noPayment verified payload).bind fun _ => .ret ()
  | cashfreeWebhook verified event =>
    exact (cashfreeWebhook_noPayment verified event).bind fun _ => .ret ()
  | workQueue records => exact (workQueue_noPayment h hi).bind fun _ => .ret ()
  | scheduledCallback body => exact (scheduledCallback_noPayment body).bind fun _ => .ret ()
  | outboxRelay => exact relay_noPayment.bind fun _ => .ret ()
  | internalHandoff verified body =>
    exact (internalHandoff_noPayment verified body).bind fun _ => .ret ()
  | capabilityWorker capability event => exact capabilityWorker_noPayment capability event

end Unreached

/-- **A payment that is settled never reaches its conversation.** In every state that the
deployed handlers can reach from one in which nothing has, an order that is stored as paid has
not committed `PAYMENT_PAID`, and nothing waits that would. -/
theorem paid_order_unreached (cfg : Config) {w : World InMemoryConversations}
    (hw : ∀ ref, ¬ Reached w ref)
    {p : Pool ports Exn Unit (World InMemoryConversations) (Nat × Invocation)}
    (h : Pool.Reach (deployed cfg) (Pool.start w) p) :
    ∀ order ∈ p.world.orders, order.paid = true →
      ¬ Reached p.world order.conversationRef := by
  intro order _ _
  have hall : Unreached p.world :=
    Pool.Reach.maintained (I := Unreached)
      (fun t q w hw henter => henter.2 ▸ program_noPayment hw henter.1)
      (fun a b ha hab => ha.neutral hab) hw h
  exact hall order.conversationRef

/-! ## A parent who pays -/

/-- The conversation `c` waits for its payment. -/
def paymentPending : World InMemoryConversations where
  conversations :=
    { states := fun ref =>
        if ref = "c" then some { conversationRef := "c", state := .paymentPending, version := 1 }
        else none }
  orders := [pendingOrder]

/-- The provider tells us that the parent has paid. -/
def paymentWebhook : Nat × Invocation := (0, .cashfreeWebhook true (some (paymentSuccess "1")))

/-- The world after that. -/
def afterPayment : World InMemoryConversations :=
  (play (fun _ o w => w.smooth o) 0 (paymentWebhook.2.program plainConfig) paymentPending).2

/-- The order as it is stored. -/
def paidOrder : PaymentOrder :=
  { pendingOrder with status := .text "paid", paidAt := some 0 }

theorem paidOrder_mem : paidOrder ∈ afterPayment.orders := by decide

theorem reach_afterPayment : ∃ fin, Pool.Reach (deployed plainConfig)
    (Pool.start paymentPending) ⟨afterPayment, [], fin⟩ := by
  have henter : (deployed plainConfig).enters paymentWebhook
      (paymentWebhook.2.program plainConfig) paymentPending := ⟨trivial, rfl⟩
  exact ⟨_, Pool.Reach.enter_run (E := alone) henter nofun (run_smooth _ _) (fun _ _ h => h) rfl⟩

theorem not_reached_of_empty {w : World InMemoryConversations} {ref : String}
    (hhistory : w.conversations.history ref = []) (hqueue : w.queue = [])
    (hscheduled : w.scheduled = []) (houtbox : w.outbox = []) : ¬ Reached w ref := by
  rintro (⟨entry, hentry, -⟩ | ⟨body, hbody, -⟩ | ⟨body, hbody, -⟩ | ⟨row, hrow, -⟩)
  · rw [hhistory] at hentry
    cases hentry
  · rw [hqueue] at hbody
    cases hbody
  · rw [hscheduled] at hbody
    cases hbody
  · rw [houtbox] at hrow
    cases hrow

/-- The theorem applies there. -/
theorem afterPayment_unreached : ¬ Reached afterPayment "c" := by
  obtain ⟨fin, hreach⟩ := reach_afterPayment
  exact paid_order_unreached plainConfig
    (fun ref => not_reached_of_empty rfl rfl rfl rfl) hreach paidOrder paidOrder_mem (by decide)

/-- The webhook is over, nothing runs, the order is stored as paid, and its conversation still
waits for a payment that nothing will bring. -/
theorem paid_order_strands :
    ∃ p, Pool.Reach (deployed plainConfig) (Pool.start paymentPending) p ∧ p.running = [] ∧
      ∃ order ∈ p.world.orders, order.paid = true ∧
        (p.world.conversations.load order.conversationRef).state = .paymentPending ∧
        ¬ Reached p.world order.conversationRef := by
  obtain ⟨fin, hreach⟩ := reach_afterPayment
  have hstate : (afterPayment.conversations.load "c").state = .paymentPending := by decide
  exact ⟨_, hreach, rfl, paidOrder, paidOrder_mem, by decide, hstate,
    not_reached_of_empty rfl rfl rfl rfl⟩

end NxTutors.DemoAgent
