import NxTutors.DemoAgent.Orchestrator
import NxTutors.DemoAgent.Scheduling
import NxTutors.Effect.Contract

/-!
# Commands

One program for each command. A command does its work and *queues* what it has to say on the
context; none of them sends. The context is mutable, so whatever a command has put there stays
when it raises: a `Cmd` hands back how it ended, and the context as it is then.
-/

namespace NxTutors.DemoAgent

open Effect

/-! ## Working on a context -/

/-- A part of a command. -/
def Cmd (α : Type) : Type := TurnContext → Act (Except Exn α × TurnContext)

namespace Cmd

variable {α β : Type}

protected def pure (a : α) : Cmd α := fun ctx => .ret (.ok a, ctx)

/-- Do one thing after the other, unless the first raises. -/
protected def bind (p : Cmd α) (f : α → Cmd β) : Cmd β := fun ctx => p ctx >>= fun
  | (.ok a, ctx) => f a ctx
  | (.error e, ctx) => .ret (.error e, ctx)

instance : Monad Cmd where
  pure := Cmd.pure
  bind := Cmd.bind

/-- A program that does not touch the context. -/
def lift (p : Act α) : Cmd α := fun ctx => p.attempt >>= fun r => .ret (r, ctx)

/-- Make one call. -/
def call (o : Op) : Cmd o.Res := lift (ask o)

/-- The context as it is. -/
def context : Cmd TurnContext := fun ctx => .ret (.ok ctx, ctx)

/-- Change the context. -/
def modify (f : TurnContext → TurnContext) : Cmd Unit := fun ctx => .ret (.ok (), f ctx)

def raise (name : String) : Cmd α := fun ctx => .ret (.error (.other name), ctx)

/-- `ctx.degraded.append(note)`. -/
def degrade (note : String) : Cmd Unit :=
  modify fun ctx => { ctx with degraded := ctx.degraded ++ [note] }

/-- `ctx.merge(**facts)`. -/
def merge (facts : List (String × Value)) : Cmd Unit :=
  modify fun ctx => ctx.merge (Facts.ofList facts)

/-- `ctx.outbox.append(message)`, of a message that can be built. -/
def queue (cfg : Config) (message : OutboundMessage) : Cmd Unit :=
  if message.deliverable cfg then
    modify fun ctx => { ctx with outbox := ctx.outbox ++ [message] }
  else raise "ValidationError"

end Cmd

/-- A command that failed. -/
def failure (reason : String) : CommandOutcome := { failed := true, failureReason := reason }

/-! ## Events -/

/-- `repr(value)`, of a text without quotes. -/
def Value.reprText : Value → String
  | .str s => quoted s
  | v => v.text

/-- `str(payload)`. -/
def dictText (entries : List (String × Value)) : String :=
  "\x7b" ++ ", ".intercalate (entries.map fun e => quoted e.1 ++ ": " ++ e.2.reprText) ++ "\x7d"

/-- Write an event to the outbox, once for each payload. -/
def emit (cfg : Config) (event : DomainEvent) (payload : List (String × Value)) : Cmd Unit := do
  let ctx ← Cmd.context
  let outboxId : String ← Cmd.call (.newId "")
  let ref := ctx.conversationRef
  let row : OutboxRow :=
    { outboxId, event := event.value,
      payload := (Facts.ofList [("conversation_ref", .str ref)]).merge (Facts.ofList payload),
      idempotencyKey := cfg.idempotencyKey ["outbox", ref, event.value, dictText payload] }
  let _ ← Cmd.call (.enqueue row ctx.now)

/-! ## Intake -/

def resolveIdentity (payload : Facts) : Cmd CommandOutcome := do
  let ctx ← Cmd.context
  match ← Cmd.call (.resolveIdentity (payload.get "phone_hash").textOrEmpty ctx.conversationRef)
    with
  | .error e =>
    -- a parent without a website account can still book
    Cmd.degrade ("identity:" ++ if e.code = "" then "unavailable" else e.code)
    pure {}
  | .ok (studentRef : Option String) =>
    Cmd.modify fun ctx => ctx.fact "student_ref" (.ofOption studentRef)
    pure {}

def askRequirements (cfg : Config) : Cmd CommandOutcome := do
  let ctx ← Cmd.context
  let request : Option DemoRequest ← Cmd.call (.requestForConversation ctx.conversationRef)
  match missingOf request with
  | [] => pure {}
  | first :: rest =>
    let text := askFor first (request.map DemoRequest.language)
    let count := toString (rest.length + 1)
    Cmd.queue cfg (composeMessage cfg ctx .question ctx.conversationRef text
      ["ask", first, count])
    pure { replyText := some text }

/-! ## Tutor discovery -/

/-- Ask Tutor Intelligence, and store the snapshot. -/
def requestMatch (excludeSeen : Bool) : Cmd CommandOutcome := do
  let ctx ← Cmd.context
  let request : Option DemoRequest ← Cmd.call (.requestForConversation ctx.conversationRef)
  match request with
  | none => pure (failure "requirements_incomplete")
  | some request =>
    let requirement := request.requirement
    if requirement.missing ≠ [] then pure (failure "requirements_incomplete")
    else
      let seen : List TutorCandidate ← Cmd.call (.loadCandidates ctx.conversationRef)
      let matchRequest : TutorMatchRequest :=
        { traceId := ctx.traceId, conversationRef := ctx.conversationRef,
          studentRef := request.studentRef, subject := requirement.subject.getD "",
          studentClass := requirement.studentClass.getD "",
          board := requirement.board.getD "", mode := requirement.mode.getD .online,
          region := requirement.region, locality := requirement.locality,
          timezone := requirement.timezone, language := requirement.language,
          excludeTutorRefs := if excludeSeen then seen.map (·.tutorRef) else [] }
      if !matchRequest.wellFormed then Cmd.raise "ValidationError"
      else
        match ← Cmd.call (.matchTutors matchRequest) with
        | .error e =>
          Cmd.degrade ("tutor_match:" ++ if e.code = "" then "unavailable" else e.code)
          pure (failure "tutor_match_unavailable")
        | .ok (result : TutorMatchResult) =>
          if result.validateForPresentation ctx.now ≠ [] then
            Cmd.modify fun ctx => ctx.fact "has_candidates" (.bool false)
            pure {}
          else
            Cmd.call (.saveCandidates ctx.conversationRef result.matchSessionId
              result.presentable ctx.now)
            Cmd.merge [("has_candidates", .bool (result.presentable ≠ [])),
              ("match_session_id", .str result.matchSessionId)]
            pure {}

def presentOptions (cfg : Config) : Cmd CommandOutcome := do
  let ctx ← Cmd.context
  let candidates : List TutorCandidate ← Cmd.call (.loadCandidates ctx.conversationRef)
  if candidates = [] then pure (failure "no_candidates")
  else
    let text := tutorOptions cfg candidates
    let buttons : List Button := candidates.map fun c =>
      { replyId := "tutor:" ++ toString c.rank, title := buttonTitle c.name c.rank }
    let session := ctx.facts "match_session_id"
    Cmd.queue cfg (composeMessage cfg ctx .tutorOptions ctx.conversationRef text
      ["options", (session.getD (.str "")).text] buttons)
    pure { replyText := some text }

/-! ## Slots -/

/-- The slot a value is. -/
def Value.slot? : Value → Option TimeSlot
  | .slot s _ => some s
  | _ => Option.none

def proposeSlots (cfg : Config) (payload : Facts) : Cmd CommandOutcome := do
  let ctx ← Cmd.context
  if !cfg.schedulingEnabled then pure (failure "scheduling_disabled")
  else
    -- from the facts only: a tutor in the payload would bypass the snapshot
    let tutorRef := (ctx.facts.get "tutor_ref").textOrEmpty
    if tutorRef = "" then pure (failure "no_tutor_selected")
    else
      let request : Option DemoRequest ← Cmd.call (.requestForConversation ctx.conversationRef)
      let timezone := (request.map (·.requirement.timezone)).getD "Asia/Kolkata"
      let proposed : ProposalResult ←
        Cmd.lift (propose cfg tutorRef (payload.get "preferred_slot").slot? timezone)
      Cmd.modify fun ctx => { ctx with degraded := ctx.degraded ++ proposed.degraded }
      if proposed.proposals = [] then
        pure (failure (if proposed.reason = "" then "no_slots" else proposed.reason))
      else
        let text := slotOptions cfg proposed.proposals
        let buttons : List Button := proposed.proposals.map fun p =>
          { replyId := "slot:" ++ toString p.rank, title := "Option " ++ toString p.rank }
        Cmd.queue cfg (composeMessage cfg ctx .slotProposal ctx.conversationRef text
          ["slots", tutorRef, toString proposed.proposals.length] buttons)
        pure { replyText := some text }

/-- Create the demo on the first hold, or update the tutor of the one there is. -/
def ensureDemo (tutorRef : String) (mode : DemoMode) : Cmd Unit := do
  let ctx ← Cmd.context
  let existing : Option Demo ← Cmd.call (.demoForConversation ctx.conversationRef)
  let request : Option DemoRequest ← Cmd.call (.requestForConversation ctx.conversationRef)
  match existing with
  | some demo => Cmd.call (.saveDemo { demo with tutorRef := some tutorRef })
  | none =>
    let demoId : String ← Cmd.call (.newId "dmo")
    Cmd.call (.saveDemo
      { demoId, conversationRef := ctx.conversationRef, tutorRef := some tutorRef, mode,
        language := (request.map (·.language)).getD .en,
        attendees := [{ party := .student, ref := ctx.conversationRef },
          { party := .tutor, ref := tutorRef }] })
    Cmd.modify fun ctx => ctx.fact "demo_id" (.str demoId)

def placeHold (cfg : Config) (payload : Facts) : Cmd CommandOutcome := do
  let ctx ← Cmd.context
  let tutorRef := (ctx.facts.get "tutor_ref").textOrEmpty
  match (payload.get "slot").slot? with
  | none => pure (failure "slot_or_tutor_missing")
  | some slot =>
    if tutorRef = "" then pure (failure "slot_or_tutor_missing")
    else if !(ctx.facts.get "tutor_in_snapshot").truthy then
      pure (failure "tutor_not_in_presented_candidates")
    else
      let request : Option DemoRequest ← Cmd.call (.requestForConversation ctx.conversationRef)
      let mode : DemoMode := (request.bind (·.requirement.mode)).getD .online
      match ← Cmd.lift (hold ctx.conversationRef tutorRef slot mode) with
      | none => pure (failure "slot_taken")
      | some placed =>
        ensureDemo tutorRef mode
        Cmd.merge [("hold_id", .str placed.holdId), ("hold_expired", .bool false)]
        emit cfg .slotHeld [("hold_id", .str placed.holdId)]
        pure {}

def releaseHold : Cmd CommandOutcome := do
  let ctx ← Cmd.context
  let holdId := (ctx.facts.get "hold_id").textOrEmpty
  if holdId = "" then pure {}
  else
    Cmd.lift (release holdId)
    Cmd.merge [("hold_id", .none)]
    pure {}

/-! ## The tutor -/

/-- A message to the tutor of a demo, which an approved template carries. -/
def tutorMessage (cfg : Config) (ctx : TurnContext) (demo : Demo) (tutor : DemoAttendee)
    (binding : TemplateBinding) (tag : String) : OutboundMessage :=
  { conversationRef := ctx.conversationRef, recipientRef := tutor.ref, audience := .tutor,
    kind := .tutorRequest, language := demo.language, template := some binding,
    idempotencyKey := cfg.idempotencyKey [tag, demo.demoId, toString demo.revision],
    demoId := .str demo.demoId, traceId := ctx.traceId, createdAt := ctx.now }

/-- What is scheduled for a request that nobody answers. -/
def tutorExpiry (ref demoId : String) : Facts :=
  Facts.ofList [("conversation_ref", .str ref),
    ("trigger", .str Trigger.tutorRequestExpired.value), ("demo_id", .str demoId)]

/-- Ask the tutor to accept. Without an approved template, the request is skipped. -/
def requestTutorConfirmation (cfg : Config) : Cmd CommandOutcome := do
  let ctx ← Cmd.context
  let demo : Option Demo ← Cmd.call (.demoForConversation ctx.conversationRef)
  let holdId := (ctx.facts.get "hold_id").textOrEmpty
  match demo with
  | none => pure (failure "no_demo_or_hold")
  | some demo =>
    if holdId = "" then pure (failure "no_demo_or_hold")
    else
      match tutorConfirmationTemplate cfg demo with
      | none =>
        Cmd.degrade "tutor_confirmation_template_unavailable"
        pure {}
      | some binding =>
        match demo.attendee .tutor with
        | none => pure (failure "no_tutor_contact")
        | some tutor =>
          Cmd.queue cfg (tutorMessage cfg ctx demo tutor binding "tutor_req")
          Cmd.call (.schedule
            ("tutor-expiry-" ++ demo.demoId ++ "-" ++ toString demo.revision)
            (ctx.now + 20 * minute) (tutorExpiry ctx.conversationRef demo.demoId))
          pure {}

/-- Tell the tutor that the request lapsed: on an expiry, and never on a decline. -/
def notifyRequestExpired (cfg : Config) : Cmd Unit := do
  let ctx ← Cmd.context
  if ctx.trigger ≠ .tutorRequestExpired then pure ()
  else
    let demo : Option Demo ← Cmd.call (.demoForConversation ctx.conversationRef)
    match demo with
    | none => pure ()
    | some demo =>
      match demo.attendee .tutor with
      | none => pure ()
      | some tutor =>
        match Template.bind cfg.tables TEMPLATE_TUTOR_REQUEST_EXPIRED demo.language.value
            [demo.demoId] with
        | .error _ => Cmd.degrade "tutor_request_expired_template_unavailable"
        | .ok binding => Cmd.queue cfg (tutorMessage cfg ctx demo tutor binding "tutor_expired")

/-- After a decline or an expiry: match again, without those already tried. -/
def tryFallback (cfg : Config) : Cmd CommandOutcome := do
  notifyRequestExpired cfg
  let _ ← releaseHold
  requestMatch true

/-! ## The calendar -/

/-- The tutor's address, from the gateway. -/
def tutorAddress (demo : Demo) : Cmd (Option String) :=
  match demo.tutorRef with
  | none => pure none
  | some tutorRef =>
    if tutorRef = "" then pure none
    else do
      match ← Cmd.call (.tutorEmail tutorRef) with
      | .error _ => pure none
      | .ok (email : Option String) => pure email

/-- The addresses to invite: the tutor's, and the student's with consent. -/
def inviteEmails (demo : Demo) : Cmd (Option String × Option String) := do
  let tutorEmail : Option String ← tutorAddress demo
  let studentEmail : Option String :=
    (demo.attendee .student).bind fun student =>
      if student.inviteConsent then (student.contactFor .email).map (·.ref) else none
  pure (tutorEmail, studentEmail)

/-- Move the existing event. The revision moves with it. -/
def patchEvent (cfg : Config) (demo : Demo) (hold : SlotHold) : Cmd CommandOutcome := do
  let ctx ← Cmd.context
  let result : BookingResult ← Cmd.lift (reschedule demo hold.slot)
  match result.demo with
  | none => pure (failure result.failureReason)
  | some moved =>
    if result.failed then pure (failure result.failureReason)
    else
      let _ ← Cmd.call (.slots ⟨ctx.now, .confirm hold.holdId⟩)
      Cmd.merge [("calendar_event_id", .str result.calendarEventId),
        ("demo_id", .str moved.demoId), ("meet_url", .str result.meetUrl)]
      emit cfg .rescheduled [("demo_id", .str moved.demoId), ("revision", .int moved.revision)]
      pure {}

/-- The hold that the facts name. -/
def namedHold (ctx : TurnContext) : Cmd (Option SlotHold) :=
  let holdId := (ctx.facts.get "hold_id").textOrEmpty
  if holdId = "" then pure none
  else do
    match ← Cmd.call (.slots ⟨ctx.now, .loadHold holdId⟩) with
    | .found hold => pure hold
    | _ => pure none

def createEvent (cfg : Config) : Cmd CommandOutcome := do
  let ctx ← Cmd.context
  let demo : Option Demo ← Cmd.call (.demoForConversation ctx.conversationRef)
  let hold : Option SlotHold ← namedHold ctx
  match demo, hold with
  | some demo, some hold =>
    -- a demo that has an event already is being moved
    if Requirement.present demo.calendarEventId then patchEvent cfg demo hold
    else
      let (tutorEmail, studentEmail) ← inviteEmails demo
      let booking : BookingResult ← Cmd.lift (book cfg demo hold tutorEmail studentEmail
        calendarSummary (calendarDescription demo))
      match booking.demo with
      | none => pure (failure booking.failureReason)
      | some booked =>
        if booking.failed then pure (failure booking.failureReason)
        else
          Cmd.merge [("calendar_event_id", .str booking.calendarEventId),
            ("demo_id", .str booked.demoId), ("meet_url", .str booking.meetUrl)]
          emit cfg .scheduled (("demo_id", .str booked.demoId) ::
            (booked.slot.map fun slot => ("starts_at", .str (isoformat slot.startsAt))).toList)
          pure {}
  | _, _ => pure (failure "no_demo_or_hold")

def cancelEvent : Cmd CommandOutcome := do
  let ctx ← Cmd.context
  let demo : Option Demo ← Cmd.call (.demoForConversation ctx.conversationRef)
  match demo with
  | none => pure {}
  | some demo =>
    Cmd.lift (cancel demo)
    pure {}

def sendConfirmation (cfg : Config) : Cmd CommandOutcome := do
  let ctx ← Cmd.context
  let demo : Option Demo ← Cmd.call (.demoForConversation ctx.conversationRef)
  match demo with
  | none => pure (failure "no_scheduled_demo")
  | some demo =>
    if demo.slot.isNone then pure (failure "no_scheduled_demo")
    else
      let text := confirmation cfg demo
      Cmd.queue cfg (composeMessage cfg ctx .confirmation ctx.conversationRef text
        ["confirm", demo.demoId, toString demo.revision] [] (some demo.demoId) (some demo))
      pure { replyText := some text }

/-! ## Reminders -/

/-- Each planned reminder gets an identifier. -/
def named : List (String → ScheduledReminder) → Act (List ScheduledReminder)
  | [] => pure []
  | reminder :: rest => do
    let reminderId : String ← ask (.newId "rmd")
    let named ← named rest
    pure (reminder reminderId :: named)

/-- The ladder of a demo, up to the ceiling of the policy. -/
def plan (cfg : Config) (demo : Demo) : Act (List ScheduledReminder) := do
  let now : Time ← ask .now
  let planned ← named (cfg.reminderPolicy.ladder cfg.zones demo now)
  pure (planned.take cfg.reminderPolicy.maxRemindersPerDemo)

/-- A callback for each reminder. -/
def scheduleAll (demoId : String) : List ScheduledReminder → Act Unit
  | [] => pure ()
  | reminder :: rest => do
    ask (.schedule ("reminder-" ++ reminder.reminderId) reminder.fireAt
      (Facts.ofList [("reminder_id", .str reminder.reminderId), ("demo_id", .str demoId)]))
    scheduleAll demoId rest

def scheduleReminders (cfg : Config) : Cmd CommandOutcome := do
  let ctx ← Cmd.context
  if !cfg.remindersEnabled then pure {}
  else
    let demo : Option Demo ← Cmd.call (.demoForConversation ctx.conversationRef)
    match demo with
    | none => pure {}
    | some demo =>
      let planned ← Cmd.lift (plan cfg demo)
      Cmd.call (.replaceForDemo demo.demoId demo.revision planned)
      Cmd.lift (scheduleAll demo.demoId planned)
      pure {}

def cancelReminders : Cmd CommandOutcome := do
  let ctx ← Cmd.context
  let demoId := (ctx.facts.get "demo_id").textOrEmpty
  if demoId = "" then pure {}
  else
    let _ ← Cmd.call (.cancelForDemo demoId)
    pure {}

/-! ## The outcome -/

/-- Ask the calendar what happened. -/
def captureOutcome : Cmd CommandOutcome := do
  let ctx ← Cmd.context
  let demo : Option Demo ← Cmd.call (.demoForConversation ctx.conversationRef)
  match demo with
  | none => pure {}
  | some demo =>
    if !Requirement.present demo.calendarEventId then pure {}
    else
      match ← Cmd.call (.getEvent (demo.calendarEventId.getD "")) with
      | .error _ =>
        Cmd.degrade "calendar_outcome_unavailable"
        pure {}
      | .ok (event : CalendarEvent) =>
        let evidence := attendanceFromCalendar event
        Cmd.merge [("evidence_source", .str evidence.evidenceSource.value),
          ("grace_period_elapsed", .bool (demo.outcomeDue ctx.now))]
        Cmd.call (.saveDemo { demo with outcome := evidence })
        pure {}

def postDemoAnalysis (cfg : Config) (payload : Facts) : Cmd CommandOutcome := do
  let ctx ← Cmd.context
  let demo : Option Demo ← Cmd.call (.demoForConversation ctx.conversationRef)
  match demo with
  | none => pure {}
  | some demo =>
    Cmd.call (.analyse demo (payload.get "transcript").textOrEmpty ctx.now)
    emit cfg .objectionsExtracted [("demo_id", .str demo.demoId)]
    pure {}

/-- A real discount that may be mentioned. -/
def mentioned (decision : Option DiscountDecision) (now : Time) : Option ApprovedOffer :=
  decision.bind fun d => if 0 < d.percent then (d.approve now).toOption else none

def sendFollowup (cfg : Config) (payload : Facts) : Cmd CommandOutcome := do
  let ctx ← Cmd.context
  let demo : Option Demo ← Cmd.call (.demoForConversation ctx.conversationRef)
  match demo with
  | none => pure {}
  | some demo =>
    let decision : Option DiscountDecision ← Cmd.call (.loadDecision demo.demoId)
    let offer := mentioned decision ctx.now
    let body : String ← Cmd.call (.composeFollowup demo offer payload ctx.now)
    Cmd.queue cfg (composeMessage cfg ctx .followup ctx.conversationRef body
      ["followup", demo.demoId, toString demo.revision] [] (some demo.demoId) (some demo))
    pure { replyText := some body }

/-! ## Commerce -/

/-- What became of an order. -/
structure OrderResult where
  order : Option PaymentOrder := none
  paymentLink : String := ""
  failed : Bool := false
  reason : String := ""

def DEFAULT_ORDER_TTL : Time := 48 * hour

/-- `PaymentOrder.from_offer`, the only constructor. -/
def PaymentOrder.fromOffer (offer : ApprovedOffer) (orderRef : String) (now : Time) :
    Except String PaymentOrder :=
  if !offer.live now then .error "cannot create an order from an expired offer"
  else
    .ok { orderRef, conversationRef := offer.conversationRef, demoId := offer.demoId,
          studentRef := offer.studentRef, amountMinor := offer.amountMinor,
          currency := offer.currency, createdAt := now, expiresAt := now + DEFAULT_ORDER_TTL }

/-- Create the provider's order; the conversation's own is used again while it can be paid. -/
def createOrder (cfg : Config) (offer : ApprovedOffer) : Act OrderResult := do
  let now : Time ← ask .now
  let existing : Option PaymentOrder ← ask (.orderForConversation offer.conversationRef)
  match existing.filter fun order => !order.settled && !order.expired now with
  | some order => pure { order := some order, paymentLink := order.paymentLink }
  | none =>
    let orderRef : String ← ask (.newId "nxo")
    match PaymentOrder.fromOffer offer orderRef now with
    | .error _ => throw (.other "ValueError")
    | .ok order =>
      match ← ask (.placeOrder order offer) with
      | .error e =>
        let code := if e.code = "" then "unknown" else e.code
        pure { failed := true, reason := "provider_error:" ++ code }
      | .ok (rawLink : String) =>
        match cfg.paymentLink rawLink with
        | none => pure { failed := true, reason := "unsafe_payment_link" }
        | some link =>
          let stored := { order with paymentLink := link }
          ask (.saveOrder stored)
          pure { order := some stored, paymentLink := link }

def createPaymentOrder (cfg : Config) : Cmd CommandOutcome := do
  let ctx ← Cmd.context
  if !cfg.paymentsEnabled then pure (failure "payments_disabled")
  else
    let demo : Option Demo ← Cmd.call (.demoForConversation ctx.conversationRef)
    match demo with
    | none => pure (failure "no_approved_offer")
    | some demo =>
      let decision : Option DiscountDecision ← Cmd.call (.loadDecision demo.demoId)
      match decision with
      | none => pure (failure "no_approved_offer")
      | some decision =>
        match decision.approve ctx.now with
        | .error reason => pure (failure (Text.take reason 120))
        | .ok offer =>
          let result : OrderResult ← Cmd.lift (createOrder cfg offer)
          match result.order with
          | none => pure (failure result.reason)
          | some order =>
            if result.failed then pure (failure result.reason)
            else
              let text := paymentLinkText offer result.paymentLink
              Cmd.queue cfg (composeMessage cfg ctx .paymentLink ctx.conversationRef text
                ["pay", order.orderRef] [] (some demo.demoId))
              emit cfg .paymentRequested [("order_ref", .str order.orderRef)]
              pure { replyText := some text }

/-- Activation retries. -/
def MAX_ACTIVATION_ATTEMPTS : Nat := 3

/-- Activate the subscription of an order once; whether a human must intervene. -/
def activateOrder (cfg : Config) (order : PaymentOrder) : Act (SubscriptionActivation × Bool) := do
  let _ ← ask .now
  let previous : Option SubscriptionActivation ← ask (.activationFor order.orderRef)
  match previous.filter (·.succeeded) with
  | some activation => pure (activation, false)
  | none =>
    let attempt := (previous.map (·.attempt + 1)).getD 1
    -- derived from the order, so every retry presents the same key
    let key := cfg.idempotencyKey ["activation", order.orderRef, order.conversationRef]
    match ← ask (.activateSubscription order.orderRef order.studentRef key) with
    | .error e =>
      let errorCode := Text.take (if e.code = "" then "ProviderError" else e.code) 64
      let activation : SubscriptionActivation :=
        { orderRef := order.orderRef, attempt, succeeded := false, errorCode }
      ask (.saveActivation activation)
      pure (activation, MAX_ACTIVATION_ATTEMPTS ≤ attempt || !e.retryable)
    | .ok (subscriptionRef : String) =>
      if subscriptionRef = "" then
        let activation : SubscriptionActivation :=
          { orderRef := order.orderRef, attempt, succeeded := false,
            errorCode := "no_subscription_ref" }
        ask (.saveActivation activation)
        pure (activation, true)
      else
        let activation : SubscriptionActivation :=
          { orderRef := order.orderRef, attempt, succeeded := true, subscriptionRef }
        ask (.saveActivation activation)
        pure (activation, false)

/-- The order that the facts or the payload name. -/
def namedOrder (ctx : TurnContext) (payload : Facts) : Cmd (Option PaymentOrder) :=
  let known := ctx.facts.get "order_ref"
  let orderRef := if known.truthy then known.text else (payload.get "order_ref").textOrEmpty
  if orderRef = "" then pure none else Cmd.call (.loadOrder orderRef)

def activate (cfg : Config) (payload : Facts) : Cmd CommandOutcome := do
  let ctx ← Cmd.context
  let order : Option PaymentOrder ← namedOrder ctx payload
  match order with
  | none => pure (failure "order_not_found")
  | some order =>
    let (activation, needsHuman) ← Cmd.lift (activateOrder cfg order)
    if !activation.succeeded then
      let reason := if activation.errorCode = "" then "activation_failed" else activation.errorCode
      pure { failed := needsHuman, failureReason := reason }
    else
      Cmd.modify fun ctx => ctx.fact "subscription_ref" (.str activation.subscriptionRef)
      emit cfg .subscriptionActivated [("order_ref", .str order.orderRef)]
      pure {}

def handoffOnboarding (cfg : Config) : Cmd CommandOutcome := do
  let ctx ← Cmd.context
  let subscriptionRef := (ctx.facts.get "subscription_ref").textOrEmpty
  let orderRef := (ctx.facts.get "order_ref").textOrEmpty
  if subscriptionRef = "" then pure (failure "no_subscription_ref")
  else
    let key := cfg.idempotencyKey ["onboarding", orderRef, subscriptionRef]
    let claimed : Bool ← Cmd.call (.claim key "handoff" ctx.now cfg.idempotencyTtlSeconds)
    if !claimed then pure {}
    else
      emit cfg .onboardingRequested
        [("subscription_ref", .str subscriptionRef), ("order_ref", .str orderRef)]
      pure {}

/-- The last thing we say. The conversation is handed on once it has been sent. -/
def sendWelcome (cfg : Config) : Cmd CommandOutcome := do
  let ctx ← Cmd.context
  Cmd.queue cfg (composeMessage cfg ctx .welcome ctx.conversationRef welcome
    ["welcome", (ctx.facts.get "subscription_ref").textOrEmpty])
  pure { replyText := some welcome, transferTo := some .onboarding }

/-! ## Exceptions -/

def raiseHumanCase (cfg : Config) (payload : Facts) : Cmd CommandOutcome := do
  let ctx ← Cmd.context
  let given := (payload.get "reason").textOrEmpty
  let caseId : String ← Cmd.call (.openHumanCase (Facts.ofList
    [("conversation_ref", .str ctx.conversationRef), ("state", .str ctx.snapshot.state.value),
      ("reason", .str (if given = "" then "escalated" else given)),
      ("demo_id", ctx.facts.get "demo_id"), ("opened_at", .str (isoformat ctx.now))]))
  emit cfg .humanHandoffRaised [("case_id", .str caseId)]
  pure {}

def notifyCancellation (cfg : Config) : Cmd CommandOutcome := do
  let ctx ← Cmd.context
  let demo : Option Demo ← Cmd.call (.demoForConversation ctx.conversationRef)
  let text := cancellation cfg demo
  let about := (demo.map (·.demoId)).getD ctx.conversationRef
  Cmd.queue cfg (composeMessage cfg ctx .cancellation ctx.conversationRef text
    ["cancel", about] [] none demo)
  emit cfg .cancelled [("demo_id", .ofOption (demo.map (·.demoId)))]
  pure { replyText := some text }

/-! ## Dispatch -/

/-- What a command does. -/
def perform (cfg : Config) (command : Command) (payload : Facts) : Cmd CommandOutcome :=
  match command with
  | .none => pure {}
  | .resolveIdentity => resolveIdentity payload
  | .askMissingRequirements => askRequirements cfg
  | .requestTutorMatch => requestMatch (payload.get "exclude_seen").truthy
  | .presentTutorOptions => presentOptions cfg
  | .proposeSlots => proposeSlots cfg payload
  | .placeSlotHold => placeHold cfg payload
  | .releaseSlotHold => releaseHold
  | .requestTutorConfirmation => requestTutorConfirmation cfg
  | .tryFallbackTutor => tryFallback cfg
  | .createCalendarEvent => createEvent cfg
  | .cancelCalendarEvent => cancelEvent
  | .sendConfirmation => sendConfirmation cfg
  | .scheduleReminders => scheduleReminders cfg
  | .cancelReminders => cancelReminders
  | .captureOutcome => captureOutcome
  | .runPostDemoAnalysis => postDemoAnalysis cfg payload
  | .sendFollowup => sendFollowup cfg payload
  | .createPaymentOrder => createPaymentOrder cfg
  | .activateSubscription => activate cfg payload
  | .handoffToOnboarding => handoffOnboarding cfg
  | .sendWelcome => sendWelcome cfg
  | .raiseHumanCase => raiseHumanCase cfg payload
  | .notifyCancellation => notifyCancellation cfg

/-- **The command executor**: how a command ended, and what it left on the context. -/
def execute (cfg : Config) (command : Command) (ctx : TurnContext) (payload : Facts) :
    Act CommandEffect :=
  perform cfg command payload ctx >>= fun (outcome, ctx) =>
    pure { outcome, facts := ctx.facts, outbox := ctx.outbox, degraded := ctx.degraded }

end NxTutors.DemoAgent

/-!
## Commands in a world

A command is a program that is given a context and hands it back, and what raises in it is handed
back as well. These are the rules by which a contract of a command is proved part by part, whatever
the setting.
-/

namespace NxTutors.DemoAgent

open Effect

namespace Cmd

variable {α β W : Type} {E : Setting ports Exn W} {G : W → W → Prop}
  {Q : Except Exn (Except Exn β × TurnContext) → W → Prop} {ctx : TurnContext} {w : W}

/-- The context is read. -/
theorem meets_context_bind {f : TurnContext → Cmd β} (h : Meets E G Q (f ctx ctx) w) :
    Meets E G Q ((context >>= f) ctx) w := h

/-- A part that leaves the context alone. What it raises ends the command. -/
theorem meets_lift_bind {p : Act α} {f : α → Cmd β} {Q' : Except Exn α → W → Prop}
    (hp : Meets E G Q' p w) (hok : ∀ a w', Q' (.ok a) w' → Meets E G Q (f a ctx) w')
    (herr : ∀ e w', Q' (.error e) w' → Q (.ok (.error e, ctx)) w') :
    Meets E G Q ((lift p >>= f) ctx) w := by
  induction p generalizing w with
  | ret a => exact hok a w hp
  | throw e => exact herr e w hp
  | call o k ih =>
    intro w₁ hm r w₂ ha
    obtain ⟨hg, hk⟩ := hp w₁ hm r w₂ ha
    exact ⟨hg, ih r hk⟩

/-- A call, and what comes after each of its answers. -/
theorem meets_call_bind {o : Op} {f : o.Res → Cmd β}
    (h : ∀ w₁, E.moves w w₁ → ∀ r w₂, E.answers o w₁ r w₂ → G w₁ w₂ ∧
      (∀ a, r = .ok a → Meets E G Q (f a ctx) w₂) ∧
        ∀ e, r = .error e → Q (.ok (.error e, ctx)) w₂) :
    Meets E G Q ((call o >>= f) ctx) w := by
  intro w₁ hm r w₂ ha
  obtain ⟨hg, hok, herr⟩ := h w₁ hm r w₂ ha
  cases r with
  | ok a => exact ⟨hg, hok a rfl⟩
  | error e => exact ⟨hg, herr e rfl⟩

/-- A part that raises ends the command. -/
theorem run_lift_error {p : Act α} {f : α → Cmd β} {w' : W} {e : Exn}
    (h : Run E p w (.error e) w') : Run E ((lift p >>= f) ctx) w (.ok (.error e, ctx)) w' := by
  generalize hout : Except.error e = out at h
  induction h with
  | ret => cases hout
  | throw =>
    cases hout
    exact .ret
  | call hm ha _ ih => exact .call hm ha (ih hout)

end Cmd

end NxTutors.DemoAgent
