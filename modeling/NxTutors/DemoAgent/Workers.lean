import NxTutors.DemoAgent.Inbound
import NxTutors.DemoAgent.Ingress
import NxTutors.Effect.Pool

/-!
# The workers

Thin adapters. Each reads the shape of the event it is invoked with, makes a conversation, a
trigger and an actor of it, and calls the orchestrator: the work queue, the callbacks of the
scheduler, the relay of the outbox, the handoff from another agent, and one worker for each
capability. What a capability worker does besides, analytics and reminders, is left to the
outside.

`handle_maintains` is the rule for all of them: a turn maintains whatever its calls keep.
-/

namespace NxTutors.DemoAgent

open Effect
open Text (Json)

/-! ## The work queue -/

/-- `str(d.get(a) or d.get(b) or "")`: the text of the first of the values that is truthy. -/
def Facts.firstText (facts : Facts) (names : List String) : String :=
  (((names.map facts.get).find? Value.truthy).map Value.text).getD ""

/-- Send the reply that says that we did not follow. A failed one must not poison the
batch. -/
def askForClarification (cfg : Config) (ref text : String) : Act Unit := do
  let now ← ask .now
  let message : OutboundMessage :=
    { conversationRef := ref, recipientRef := ref, kind := .question, body := text,
      idempotencyKey := cfg.idempotencyKey ["clarify", ref, text], createdAt := now }
  (ask (.send message) >>= fun _ => pure ()).tryCatch fun _ => pure ()

/-- The event of a message that was routed to a trigger. -/
def messageEvent (ref : String) (body : WorkBody) (trigger : Trigger) (payload : Facts) :
    Event :=
  { conversationRef := ref, trigger, actor := .user,
    eventId := body.fields.firstText ["event_id", "wa_message_id"], payload }

/-- What a message is routed to, in a conversation as it is. -/
def routeBody (cfg : Config) (body : WorkBody) (snapshot : StateSnapshot) : Routed :=
  let buttonId := body.fields.firstText ["button_id"]
  route cfg.tables (body.fields.firstText ["text"])
    (if buttonId = "" then none else some buttonId) snapshot

/-- Route one message of a parent onto a trigger and fire it. A message that cannot be routed
is answered, not dropped. -/
def handleInboundMessage (cfg : Config) (ref : String) (body : WorkBody) :
    Act (Option TurnResult) := do
  let snapshot ← ask (.load ref)
  let routed := routeBody cfg body snapshot
  match routed.trigger with
  | none => do
    askForClarification cfg ref (clarification routed snapshot)
    pure none
  | some trigger => do
    let result ← handle cfg (messageEvent ref body trigger routed.payload)
    pure (some result)

/-- The event that a work item names, if it names a trigger and an actor we know. -/
def workEvent (body : WorkBody) : Option Event :=
  let rawTrigger := body.fields.firstText ["trigger"]
  let rawActor := body.fields.firstText ["actor"]
  let eventId := body.fields.firstText ["event_id", "dedup"]
  let causationId := body.fields.firstText ["causation_id"]
  if rawTrigger = "" then none
  else
    match Trigger.ofValue? rawTrigger,
        Actor.ofValue? (if rawActor = "" then Actor.system.value else rawActor) with
    | some trigger, some actor =>
      some
        { conversationRef := body.fields.firstText ["conversation_ref"], trigger, actor,
          eventId := if eventId = "" then rawTrigger else eventId, payload := body.payload,
          traceId := body.fields.firstText ["trace_id"],
          causationId := if causationId = "" then none else some causationId }
    | _, _ => none

/-- One work item. One that names no conversation, or nothing we know, is dropped. -/
def handleRecord (cfg : Config) (body : WorkBody) : Act (Option TurnResult) :=
  let ref := body.fields.firstText ["conversation_ref"]
  if ref = "" then pure none
  else if body.fields.firstText ["kind"] = "inbound_message" then
    handleInboundMessage cfg ref body
  else
    match workEvent body with
    | none => pure none
    | some e => do
      let result ← handle cfg e
      pure (some result)

/-- A batch of work items: the identifiers of those that failed, which are retried. -/
def workQueue (cfg : Config) : List (String × WorkBody) → Act (List String)
  | [] => pure []
  | (messageId, body) :: rest => do
    let failures ← (handleRecord cfg body >>= fun _ => pure []).tryCatch fun _ =>
      pure [messageId]
    let others ← workQueue cfg rest
    pure (failures ++ others)

/-- A callback of the scheduler, whatever actor it names. -/
def scheduledCallback (cfg : Config) (body : WorkBody) : Act (Option TurnResult) :=
  handleRecord cfg { body with fields := body.fields.set "actor" (.str Actor.scheduler.value) }

/-! ## The outbox relay -/

/-- Publish one row: dispatch it, if it is one that is dispatched, and mark it. -/
def relayRow (cfg : Config) (now : Time) (row : OutboxRow) : Act Nat :=
  (do
    if row.event = "onboarding.requested" && cfg.onboardingWebhookUrl ≠ "" then
      ask (.dispatch row.event row.idempotencyKey row.payload cfg.onboardingWebhookUrl)
    ask (.markPublished row.outboxId now)
    pure 1 : Act Nat).tryCatch fun _ => pure 0

/-- Publish rows one after another, whether or not those before were published. -/
def relayAll (cfg : Config) (now : Time) : List OutboxRow → Nat → Act Nat
  | [], published => pure published
  | row :: rest, published => do
    let n ← relayRow cfg now row
    relayAll cfg now rest (published + n)

/-- The relay: how many rows were pending, and how many were published. -/
def relay (cfg : Config) : Act (Nat × Nat) := do
  let now ← ask .now
  let rows : List OutboxRow ← ask (.unpublished 100)
  let published ← relayAll cfg now rows 0
  pure (rows.length, published)

/-! ## Handoffs -/

/-- The event of a handoff. -/
def handoffEvent (cfg : Config) (body : Json) : Except Exn Event := do
  let conversationId ← field body "conversation_id"
  let phone ← field body "wa_phone"
  let messageId ← field body "wa_message_id"
  let eventId ← field body "event_id"
  let traceId ← field body "trace_id"
  pure
    { conversationRef := cfg.conversation (conversationId.either phone).textOrEmpty,
      trigger := .handoffReceived, actor := .agent,
      eventId := (messageId.either eventId).textOrEmpty,
      payload := Facts.ofList [("phone_hash", .str (cfg.phone phone.textOrEmpty))],
      traceId := traceId.textOrEmpty }

/-- **The event of a handoff** comes from an agent, in a conversation of its own pseudonym. -/
theorem handoffEvent_eq_ok {cfg : Config} {body : Json} {e : Event}
    (h : handoffEvent cfg body = .ok e) :
    e.trigger = .handoffReceived ∧ e.actor = .agent ∧
      ∃ conversationId, e.conversationRef = cfg.conversation conversationId := by
  rw [handoffEvent] at h
  obtain ⟨conversationId, _, h⟩ := bind_eq_ok h
  obtain ⟨phone, _, h⟩ := bind_eq_ok h
  obtain ⟨messageId, _, h⟩ := bind_eq_ok h
  obtain ⟨eventId, _, h⟩ := bind_eq_ok h
  obtain ⟨traceId, _, h⟩ := bind_eq_ok h
  cases h
  exact ⟨rfl, rfl, _, rfl⟩

/-- The entry point another agent calls to hand us a lead. -/
def internalHandoff (cfg : Config) (verified : Bool) (body : Option Json) : Act Response :=
  if !verified then pure ⟨401, [("status", .str "unauthorized")]⟩
  else
    match body with
    | none => pure ⟨400, [("status", .str "bad_request")]⟩
    | some body => do
      let result ← handle cfg (← lift (handoffEvent cfg body))
      pure ⟨200,
        [("status", .str (if result.accepted then "accepted" else "declined")),
          ("reply_text", .none), ("duplicate", .bool result.duplicate),
          ("state", .str result.state)]⟩

/-! ## The capability workers -/

/-- The capabilities whose worker calls the orchestrator. -/
inductive Capability
  | scheduling | reminders | objections | forecasting | conversion | paidTransition
  deriving DecidableEq, Repr

/-- The trigger a worker fires for an event, if it fires one. -/
def Capability.trigger : Capability → DomainEvent → Option Trigger
  | .scheduling, .tutorSelected => some .slotProposed
  | .scheduling, .slotHeld => some .holdPlaced
  | .scheduling, .slotHoldExpired => some .holdExpired
  | .reminders, .scheduled => some .remindersScheduled
  | .reminders, .rescheduled => some .remindersScheduled
  | .objections, .completed => some .analysisRequested
  | .forecasting, .objectionsExtracted => some .analysisComplete
  | .conversion, .forecastUpdated => some .analysisComplete
  | .conversion, .discountOffered => some .analysisComplete
  | .conversion, .paymentFailed => some .followupSent
  | .paidTransition, .paymentRequested => some .paymentLinkIssued
  | .paidTransition, .paymentConfirmed => some .activationStarted
  | .paidTransition, .subscriptionActivated => some .activationSucceeded
  | .paidTransition, .onboardingRequested => some .onboardingHandedOff
  | _, _ => none

/-- A typed event of a capability's queue. -/
structure CapabilityEvent where
  event : DomainEvent
  conversationRef : String
  idempotencyKey : String
  traceId : String := ""
  causationId : Option String := none
  payload : Facts := Facts.empty

/-- `_via_orchestrator`. -/
def viaOrchestrator (cfg : Config) (event : CapabilityEvent) (trigger : Trigger) :
    Act Unit := do
  let _ ← handle cfg
    { conversationRef := event.conversationRef, trigger, actor := .system,
      eventId := event.idempotencyKey, payload := event.payload, traceId := event.traceId,
      causationId := event.causationId }
  pure ()

/-- The worker of a capability. -/
def capabilityWorker (cfg : Config) (capability : Capability) (event : CapabilityEvent) :
    Act Unit :=
  match capability.trigger event.event with
  | none => pure ()
  | some trigger => viaOrchestrator cfg event trigger

/-! ## What a turn maintains -/

section Maintaining

variable {C : Type} [ConversationRepository C]

/-- The calls in `P` keep `I`, and so does whatever is neutral. -/
structure Harmless (I : World C → Prop) (P : Op → Prop) : Prop where
  answer : ∀ o a, P o → I a → I (a.answer o).2
  neutral : ∀ a b, Neutral a b → I a → I b

theorem Harmless.call {I : World C → Prop} {P : Op → Prop} (h : Harmless I P) {o : Op}
    {a b : World C} {r : Except Exn o.Res} (ho : P o) (ha : I a) (hans : Answers o a r b) :
    I b :=
  hans.keeps ha (h.answer o a ho ha) fun _ b hn => h.neutral a b hn ha

/-- `P` permits storing what the machine grants to this actor for this trigger. -/
def PermitsMove (P : Op → Prop) (trigger : Trigger) (actor : Actor) : Prop :=
  ∀ s granted result now facts, fire s trigger actor granted = .ok result →
    P (.saveTransition result now facts)

/-- `P` permits every call of a turn but, perhaps, storing what it was granted. -/
structure Permits (P : Op → Prop) : Prop where
  quiet : ∀ o, Quiet o → P o
  claim : ∀ key scope now ttl, P (.claim key scope now ttl)
  load : ∀ ref, P (.load ref)
  execute : ∀ command ctx payload, P (.execute command ctx payload)
  send : ∀ m, P (.send m)
  follow : PermitsMove P .recoverableFailure .system

variable {I : World C → Prop} {P : Op → Prop} {cfg : Config}

/-- **The invariant of a turn** that maintains `I`. -/
def maintaining (cfg : Config) (e : Event) (hk : Harmless I P) (hp : Permits P)
    (hm : PermitsMove P e.trigger e.actor) :
    TurnInvariant (keeping Answers I) (Keeps I) (fun _ w => I w) cfg e where
  holds _ := I
  move _ _ _ ha hab := hab ha
  quiet _ o a r b hq ha hans :=
    have hb := hk.call (hp.quiet o hq) ha hans
    ⟨fun _ => hb, hb, Answers.final hq hans⟩
  clock a r b ha hans := by
    have hb := hk.call (hp.quiet .now rfl) ha hans
    refine ⟨fun _ => hb, ?_⟩
    cases r <;> exact hb
  claim now a r b ha hans := by
    have hb := hk.call (hp.claim _ _ _ _) ha hans
    refine ⟨fun _ => hb, ?_⟩
    rcases r with exn | taken
    · exact hb
    · cases taken <;> exact hb
  load n a r b ha hans := by
    have hb := hk.call (hp.load _) ha hans
    refine ⟨fun _ => hb, ?_⟩
    rcases (Answers.of_load hans).2 with rfl | ⟨name, rfl⟩
    · exact hb
    · exact ⟨trivial, hb⟩
  save n s now facts result a r b ha hfire hans := by
    have hb := hk.call (hm s facts result now facts hfire) ha hans
    refine ⟨fun _ => hb, ?_⟩
    rcases r with exn | s'
    · cases exn <;> exact hb
    · exact hb
  execute n result ctx payload a r b ha hcmd hans :=
    have hb := hk.call (hp.execute _ ctx payload) ha hans
    ⟨fun _ => hb, hb, hb⟩
  send result m a r b ha hq hans :=
    have hb := hk.call (hp.send m) ha hans
    ⟨fun _ => hb, hb, (Answers.neutral hans rfl).2⟩
  noCommand n result a hnone ha := ha
  compensate n result ctx payload a r b ha hcomp hans :=
    have hb := hk.call (hp.execute _ ctx payload) ha hans
    ⟨fun _ => hb, hb⟩
  loadFollow n result a r b ha hans := by
    have hb := hk.call (hp.load _) ha hans
    refine ⟨fun _ => hb, ?_⟩
    rcases (Answers.of_load hans).2 with rfl | ⟨name, rfl⟩
    · exact hb
    · exact ⟨trivial, hb⟩
  skipFollow n result s facts a refusal ha hfire := ha
  saveFollow n result s now facts follow a r b ha hfire hans := by
    have hb := hk.call (hp.follow s facts follow now facts hfire) ha hans
    refine ⟨fun _ => hb, ?_⟩
    rcases r with exn | s'
    · cases exn <;> exact hb
    · exact hb
  lastLoad ph a r b hph ha hans :=
    have hb := hk.call (hp.load _) ha hans
    ⟨fun _ => hb, hb, fun _ _ => hb⟩
  raised ph exn a ha hx := ha
  accepted result tr a ha hacc hdup := ha
  rejected n s facts refusal tr a ha hfire hacc hdup hreason := ha
  exhausted tr a ha hacc hdup := ha
  duplicate tr a ha hacc hdup := ha

/-- **A turn maintains what its calls keep.** -/
theorem handle_maintains {e : Event} (hk : Harmless I P) (hp : Permits P)
    (hm : PermitsMove P e.trigger e.actor) : Maintains Answers I (handle cfg e) :=
  fun _ hw => (maintaining cfg e hk hp hm).handle hw

theorem ask_maintains (hk : Harmless I P) {o : Op} (ho : P o) : Maintains Answers I (ask o) :=
  .perform fun _ _ _ ha hans => hk.call ho ha hans

theorem lift_maintains {α : Type} (x : Except Exn α) : Maintains Answers I (lift x) := by
  cases x with
  | ok a => exact .ret a
  | error exn => exact .throw exn

theorem askForClarification_maintains (hk : Harmless I P) (hp : Permits P) (ref text : String) :
    Maintains Answers I (askForClarification cfg ref text) := by
  refine (ask_maintains hk (hp.quiet .now rfl)).bind fun now => ?_
  exact .tryCatch ((ask_maintains hk (hp.send _)).bind fun _ => .ret ()) fun _ => .ret ()

/-- A message of a parent maintains what a turn of the parent's does. -/
theorem handleInboundMessage_maintains (hk : Harmless I P) (hp : Permits P)
    (hm : ∀ trigger, PermitsMove P trigger .user) (ref : String) (body : WorkBody) :
    Maintains Answers I (handleInboundMessage cfg ref body) := by
  refine (ask_maintains hk (hp.load ref)).bind fun snapshot => ?_
  dsimp only
  split
  · exact (askForClarification_maintains hk hp _ _).bind fun _ => .ret none
  · exact (handle_maintains hk hp (hm _)).bind fun result => .ret (some result)

/-- A work item maintains what the turn it asks for does. -/
theorem handleRecord_maintains (hk : Harmless I P) (hp : Permits P)
    (huser : ∀ trigger, PermitsMove P trigger .user) {body : WorkBody}
    (hm : ∀ e, workEvent body = some e → PermitsMove P e.trigger e.actor) :
    Maintains Answers I (handleRecord cfg body) := by
  unfold handleRecord
  dsimp only
  split
  · exact .ret none
  · split
    · exact handleInboundMessage_maintains hk hp huser _ body
    · split
      · exact .ret none
      · rename_i e he
        exact (handle_maintains hk hp (hm e he)).bind fun result => .ret (some result)

/-- So does a batch of them. -/
theorem workQueue_maintains (hk : Harmless I P) (hp : Permits P)
    (huser : ∀ trigger, PermitsMove P trigger .user) {records : List (String × WorkBody)}
    (hm : ∀ x ∈ records, ∀ e, workEvent x.2 = some e → PermitsMove P e.trigger e.actor) :
    Maintains Answers I (workQueue cfg records) := by
  induction records with
  | nil => exact .ret []
  | cons x rest ih =>
    have hrecord : Maintains Answers I (handleRecord cfg x.2) :=
      handleRecord_maintains hk hp huser (hm x List.mem_cons_self)
    refine (Maintains.tryCatch (hrecord.bind fun _ => .ret []) fun _ => .ret _).bind fun _ => ?_
    exact (ih fun y hy => hm y (List.mem_cons_of_mem _ hy)).bind fun _ => .ret _

end Maintaining

end NxTutors.DemoAgent
