import NxTutors.DemoAgent.Ports
import NxTutors.DemoAgent.TutorSelection

/-!
# The orchestrator

Every inbound event, whatever its source, takes the same path: claim its key, load state and
ownership, assemble the facts, fire the machine, persist under the optimistic lock, execute
the command, send through the one boundary. `attempt` is one pass over that path; `handle`
claims the key and makes up to three passes, another one whenever a pass ends in a
concurrency conflict.

The mutable context of the source is passed along: a step that changes it returns it.
-/

namespace NxTutors.DemoAgent

open Effect

/-- Optimistic-lock retries. -/
def MAX_CONFLICT_RETRIES : Nat := 3

/-- Payload keys that may become guard facts. -/
def PAYLOAD_FACT_ALLOWLIST : List String :=
  ["signature_verified", "amount_matches_order", "order_belongs_to_conversation",
    "grace_period_elapsed", "evidence_source", "subscription_ref"]

/-- One event, as a handler passes it to the orchestrator. -/
structure Event where
  conversationRef : String
  trigger : Trigger
  actor : Actor
  eventId : String
  payload : Facts := Facts.empty
  traceId : String := ""
  causationId : Option String := none

/-- What one event did. -/
structure TurnResult where
  conversationRef : String
  state : String
  accepted : Bool := false
  duplicate : Bool := false
  rejectedReason : String := ""
  command : String := Command.none.value
  messagesSent : Nat := 0
  degraded : List String := []
  replyText : Option String := none
  deriving DecidableEq, Repr

/-! ## Facts -/

/-- Write only a real value. -/
def setIfKnown (ctx : TurnContext) (name : String) (value : Option String) : TurnContext :=
  match value with
  | none => ctx
  | some s => ctx.fact name (.str s)

@[simp] theorem setIfKnown_conversationRef (ctx : TurnContext) (name : String)
    (value : Option String) :
    (setIfKnown ctx name value).conversationRef = ctx.conversationRef := by
  cases value with
  | none => rfl
  | some s => rfl

@[simp] theorem setIfKnown_snapshot (ctx : TurnContext) (name : String)
    (value : Option String) : (setIfKnown ctx name value).snapshot = ctx.snapshot := by
  cases value with
  | none => rfl
  | some s => rfl

@[simp] theorem setIfKnown_outbox (ctx : TurnContext) (name : String)
    (value : Option String) : (setIfKnown ctx name value).outbox = ctx.outbox := by
  cases value with
  | none => rfl
  | some s => rfl

/-- The names of the fields a request still misses. -/
def missingOf (request : Option DemoRequest) : List String :=
  match request with
  | none => ["service"]
  | some r => r.requirement.missing

/-- The guard inputs that come from the demo, the request, the hold and the candidates. -/
def withRows (ctx : TurnContext) (demo : Option Demo) (request : Option DemoRequest)
    (hold : Option SlotHold) (candidates : List TutorCandidate) : TurnContext :=
  let ctx := ctx.merge (Facts.ofList
    [("has_demo", .bool demo.isSome),
      ("missing_requirements", .strs (missingOf request)),
      ("has_candidates", .bool !candidates.isEmpty),
      ("candidate_count", .int candidates.length),
      ("hold_id", .ofOption (hold.map (·.holdId))),
      ("hold_expired", .bool (hold.any (·.expired ctx.now)))])
  let ctx := setIfKnown ctx "demo_id" (demo.map (·.demoId))
  let ctx := setIfKnown ctx "calendar_event_id" (demo.bind (·.calendarEventId))
  let ctx := setIfKnown ctx "tutor_ref" (demo.bind (·.tutorRef))
  -- recomputed every turn, so a replaced candidate list invalidates a stale selection
  let selected := ctx.facts.get "tutor_ref"
  ctx.fact "tutor_in_snapshot"
    (.bool (selected.truthy && candidates.any fun c => Value.str c.tutorRef = selected))

/-- The discount decision for a demo, if there is a demo. -/
def decisionFor : Option Demo → Act (Option DiscountDecision)
  | none => pure none
  | some demo => ask (.loadDecision demo.demoId)

/-- The guard inputs that come from the order and its activation. -/
def withOrder (ctx : TurnContext) : Act TurnContext := do
  match ← ask (.orderForConversation ctx.conversationRef) with
  | none => pure ctx
  | some (order : PaymentOrder) =>
    let activation ← ask (.activationFor order.orderRef)
    let ctx := ctx.fact "order_ref" (.str order.orderRef)
    pure (setIfKnown ctx "subscription_ref" (activation.map (·.subscriptionRef)))

/-- Load every guard input for this conversation: the facts of earlier turns, and over them
what the repositories say now. -/
def assembleFacts (ctx : TurnContext) : Act TurnContext := do
  let ctx := ctx.merge ctx.snapshot.facts
  let demo ← ask (.demoForConversation ctx.conversationRef)
  let request ← ask (.requestForConversation ctx.conversationRef)
  let hold ← ask (.activeHoldFor ctx.conversationRef ctx.now)
  let candidates ← ask (.loadCandidates ctx.conversationRef)
  let ctx := withRows ctx demo request hold candidates
  let decision ← decisionFor demo
  withOrder
    (ctx.fact "approved_quote" (.bool (decision.any fun d => d.status ≠ .escalated)))

/-- Map what the parent said onto a stored candidate. A reference in the payload is ignored. -/
def resolveSelection (cfg : Config) (ctx : TurnContext) (payload : Facts) :
    Act TurnContext := do
  let candidates ← ask (.loadCandidates ctx.conversationRef)
  let button := (payload.get "button_id").textOrEmpty
  let selection := resolve cfg.tables (payload.get "text").textOrEmpty candidates
    (if button = "" then none else some button)
  pure (ctx.merge (Facts.ofList
    [("tutor_ref", .ofOption (selection.candidate.map (·.tutorRef))),
      ("tutor_in_snapshot", .bool selection.candidate.isSome),
      ("selection_reason", .str selection.reason)]))

/-! ## The steps of a pass -/

/-- Take the conversation when a handoff arrives; note it when we are not the owner. -/
def ensureOwnership (ctx : TurnContext) : Act TurnContext :=
  if ctx.trigger = .handoffReceived then
    match ctx.ownership.acquire ctx.now none with
    | .error e => throw (.ownership e)
    | .ok taken => do
      ask (.saveOwnership taken)
      pure { ctx with ownership := taken }
  else if ctx.ownership.owner ≠ SELF then
    pure { ctx with degraded := ctx.degraded ++ ["not_owner:" ++ ctx.ownership.owner.value] }
  else pure ctx

/-- Execute a command. An exception, its own or of the call, is an outcome, and what the
command did to the context stays. -/
def executeCommand (command : Command) (ctx : TurnContext) (payload : Facts) :
    Act (Except Exn CommandOutcome × TurnContext) := do
  match ← (ask (.execute command ctx payload)).attempt with
  | .ok effect => pure (effect.outcome, effect.apply ctx)
  | .error e => pure (.error e, ctx)

/-- What undoes a failed command. Its exceptions are swallowed. -/
def compensate (result : TransitionResult) (ctx : TurnContext) : Act TurnContext :=
  if result.compensation = .none then pure ctx
  else do
    match ← executeCommand result.compensation ctx Facts.empty with
    | (.ok _, ctx) => pure ctx
    | (.error _, ctx) =>
      let note := "compensation_failed:" ++ result.compensation.value
      pure { ctx with degraded := ctx.degraded ++ [note] }

/-- A system-actor follow-on transition inside the same turn. One that is not legal from the
current state simply does not happen. -/
def fireInternal (ctx : TurnContext) (trigger : Trigger) : Act TurnContext := do
  let snapshot ← ask (.load ctx.conversationRef)
  match fire snapshot trigger .system ctx.facts with
  | .error _ => pure ctx
  | .ok result =>
    let snapshot ← ask (.saveTransition result ctx.now ctx.facts)
    pure { ctx with snapshot }

/-- The outcome of a command that may have raised. -/
def outcomeOf : Except Exn CommandOutcome → CommandOutcome
  | .ok outcome => outcome
  | .error e => { failed := true, failureReason := "command_error:" ++ e.typeName }

/-- Run the command of a transition. A failed one is compensated and followed by
`RECOVERABLE_FAILURE`. -/
def runCommand (result : TransitionResult) (ctx : TurnContext) (payload : Facts) :
    Act (CommandOutcome × TurnContext) :=
  if result.command = .none then pure ({}, ctx)
  else do
    let (ended, ctx) ← executeCommand result.command ctx payload
    let outcome := outcomeOf ended
    if outcome.failed then
      let ctx ← compensate result ctx
      let ctx ← fireInternal ctx .recoverableFailure
      pure (outcome, ctx)
    else pure (outcome, ctx)

/-- Send messages one after another, counting those delivered and noting those suppressed. -/
def sendAll : List OutboundMessage → Nat → List String → Act (Nat × List String)
  | [], sent, degraded => pure (sent, degraded)
  | message :: rest, sent, degraded => do
    let outcome ← ask (.send message)
    if outcome.delivered then sendAll rest (sent + 1) degraded
    else if outcome.suppressed then sendAll rest sent (degraded ++ [outcome.outcome.value])
    else sendAll rest sent degraded

/-- Send everything the capabilities queued, through the one boundary. -/
def flush (ctx : TurnContext) : Act (Nat × TurnContext) := do
  let (sent, degraded) ← sendAll ctx.outbox 0 ctx.degraded
  pure (sent, { ctx with outbox := [], degraded })

/-- Hand the conversation on, after everything we owed has been sent. -/
def applyTransfer (ctx : TurnContext) (outcome : CommandOutcome) : Act TurnContext :=
  match outcome.transferTo with
  | none => pure ctx
  | some dest =>
    if ctx.ownership.owner ≠ SELF then pure ctx
    else
      match ctx.ownership.transfer dest ctx.now (some DEFAULT_LEASE) with
      | .error e => throw (.ownership e)
      | .ok moved => do
        ask (.saveOwnership moved)
        pure { ctx with ownership := moved }

/-! ## One pass, and the event -/

/-- The context a pass decides on: state, ownership and facts as they are now. -/
def decideOn (cfg : Config) (e : Event) : Act TurnContext := do
  let now ← ask .now
  let snapshot ← ask (.load e.conversationRef)
  let ownership ← ask (.loadOwnership e.conversationRef now)
  let ctx ← assembleFacts
    { conversationRef := e.conversationRef, traceId := e.traceId, now, snapshot, ownership,
      trigger := e.trigger, causationId := e.causationId }
  let ctx := ctx.merge (e.payload.restrict PAYLOAD_FACT_ALLOWLIST)
  if e.trigger = .tutorChosen then resolveSelection cfg ctx e.payload else pure ctx

/-- A refused transition is audited and reported. -/
def reject (e : Event) (ctx : TurnContext) (refusal : TransitionRejected) :
    Act TurnResult := do
  ask (.audit
    { conversationRef := e.conversationRef, event := "transition_rejected",
      state := ctx.snapshot.state.value, trigger := e.trigger.value, actor := e.actor.value,
      reason := refusal.reason, occurredAt := ctx.now })
  pure { conversationRef := e.conversationRef, state := ctx.snapshot.state.value,
         rejectedReason := refusal.reason }

/-- What follows a granted transition: ownership, the write, the command, the messages and
the transfer. -/
def commit (e : Event) (ctx : TurnContext) (result : TransitionResult) : Act TurnResult := do
  let ctx ← ensureOwnership ctx
  let updated ← ask (.saveTransition result ctx.now ctx.facts)
  let (outcome, ctx) ← runCommand result { ctx with snapshot := updated } e.payload
  let (sent, ctx) ← flush ctx
  let ctx ← applyTransfer ctx outcome
  pure { conversationRef := e.conversationRef, state := ctx.snapshot.state.value,
         accepted := true, command := result.command.value, messagesSent := sent,
         degraded := ctx.degraded.eraseDups, replyText := outcome.replyText,
         rejectedReason := outcome.failureReason }

/-- One pass. -/
def attempt (cfg : Config) (e : Event) : Act TurnResult := do
  let ctx ← decideOn cfg e
  match fire ctx.snapshot e.trigger e.actor ctx.facts with
  | .error refusal => reject e ctx refusal
  | .ok result => commit e ctx result

/-- Up to `n` passes, another one after each concurrency conflict. -/
def attempts (cfg : Config) (e : Event) : Nat → String → Act TurnResult
  | 0, lastError => do
    let snapshot ← ask (.load e.conversationRef)
    pure { conversationRef := e.conversationRef, state := snapshot.state.value,
           rejectedReason := Text.take ("concurrency_conflict:" ++ lastError) 200 }
  | n + 1, _ =>
    (attempt cfg e).tryCatch fun
      | .conflict c => attempts cfg e n c.text
      | exn => throw exn

/-- The key an event is claimed under. -/
def Event.dedup (cfg : Config) (e : Event) : String :=
  cfg.idempotencyKey ["turn", e.conversationRef, e.eventId, e.trigger.value]

/-- Process one event that comes in at `now`. An event whose key is taken is answered as a
duplicate. -/
def handleAt (cfg : Config) (e : Event) (now : Time) : Act TurnResult := do
  let claimed : Bool ← ask (.claim (e.dedup cfg) "inbound" now cfg.idempotencyTtlSeconds)
  if claimed then attempts cfg e MAX_CONFLICT_RETRIES ""
  else do
    let snapshot ← ask (.load e.conversationRef)
    pure { conversationRef := e.conversationRef, state := snapshot.state.value,
           accepted := true, duplicate := true }

/-- Process one event, at the time the clock says. -/
def handle (cfg : Config) (e : Event) : Act TurnResult := ask .now >>= handleAt cfg e

end NxTutors.DemoAgent
