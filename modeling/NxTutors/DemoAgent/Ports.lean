import NxTutors.DemoAgent.Conversations
import NxTutors.DemoAgent.Reminders
import NxTutors.DemoAgent.Slots
import NxTutors.DemoAgent.TutorMatch
import NxTutors.Effect.Program

/-!
# The calls an agent makes

`Op` lists the calls the modelled code makes on its dependencies: the clock, the
repositories, the message transport, the queue and the scheduler, the calendar, the gateway of
the website and the other agents. A program of the agent is a `Prog` over them, and may raise an
`Exn`.

Two of the calls stand for whole components, so that a turn can be looked at without them:
`execute` is the command executor and `send` the outbound boundary.
-/

namespace NxTutors.DemoAgent

open Effect

/-! ## Settings -/

/-- The settings, and the functions of the platform the agent uses. -/
structure Config where
  idempotencyTtlSeconds : Int := 86400
  sessionWindowHours : Int := 24
  sendsPerIdentityPerHour : Int := 20
  requireApprovedTemplate : Bool := true
  templateNames : List String := []
  onboardingWebhookUrl : String := ""
  maxBodyBytes : Nat := 131072
  schedulingEnabled : Bool := true
  remindersEnabled : Bool := true
  paymentsEnabled : Bool := true
  reminderPolicy : ReminderPolicy := REMINDER_POLICY
  /-- the Unicode tables of the platform -/
  tables : Text.Tables
  /-- `sha256(text).hexdigest()` -/
  sha256 : String → String
  /-- `hmac.new(pepper, text, sha256).hexdigest()` -/
  hmac : String → String
  /-- the zones of the platform -/
  zones : Zones
  /-- the score of a slot against the one that was asked for, which is computed in floating
  point, as its place in the order of scores -/
  slotScore : TimeSlot → Option TimeSlot → Time → Int
  /-- a link that the policy for conference links lets through, as it comes out -/
  meetLink : String → Option String
  /-- the same for payment links -/
  paymentLink : String → Option String

/-- `idempotency_key(*parts)`: a fixed-length key from the parts that make an event unique. -/
def Config.idempotencyKey (cfg : Config) (parts : List String) : String :=
  Text.take (cfg.sha256 ("\x1f".intercalate parts)) 48

/-! ## What a turn carries -/

/-- The scratchpad of one turn. -/
structure TurnContext where
  conversationRef : String
  traceId : String
  now : Time
  snapshot : StateSnapshot
  ownership : Ownership
  /-- the trigger that caused this turn -/
  trigger : Trigger
  /-- what the guards read -/
  facts : Facts := Facts.empty
  /-- messages produced this turn, sent by the orchestrator -/
  outbox : List OutboundMessage := []
  /-- dependencies that were degraded -/
  degraded : List String := []
  causationId : Option String := none

namespace TurnContext

/-- `ctx.fact(name, value)`. -/
def fact (ctx : TurnContext) (name : String) (value : Value) : TurnContext :=
  { ctx with facts := ctx.facts.set name value }

/-- `ctx.merge(**facts)`. -/
def merge (ctx : TurnContext) (facts : Facts) : TurnContext :=
  { ctx with facts := ctx.facts.merge facts }

variable (ctx : TurnContext)

@[simp] theorem fact_conversationRef (name : String) (value : Value) :
    (ctx.fact name value).conversationRef = ctx.conversationRef := rfl

@[simp] theorem fact_snapshot (name : String) (value : Value) :
    (ctx.fact name value).snapshot = ctx.snapshot := rfl

@[simp] theorem fact_now (name : String) (value : Value) :
    (ctx.fact name value).now = ctx.now := rfl

@[simp] theorem fact_outbox (name : String) (value : Value) :
    (ctx.fact name value).outbox = ctx.outbox := rfl

@[simp] theorem merge_conversationRef (facts : Facts) :
    (ctx.merge facts).conversationRef = ctx.conversationRef := rfl

@[simp] theorem merge_snapshot (facts : Facts) :
    (ctx.merge facts).snapshot = ctx.snapshot := rfl

@[simp] theorem merge_now (facts : Facts) : (ctx.merge facts).now = ctx.now := rfl

@[simp] theorem merge_outbox (facts : Facts) :
    (ctx.merge facts).outbox = ctx.outbox := rfl

end TurnContext

/-- What an exception says. `other` is any exception but the two that are told apart. -/
inductive Exn
  | conflict (c : ConcurrencyConflict)
  | ownership (e : OwnershipError)
  | other (typeName : String)
  deriving DecidableEq, Repr

/-- `type(exc).__name__`. -/
def Exn.typeName : Exn → String
  | .conflict _ => "ConcurrencyConflict"
  | .ownership _ => "OwnershipError"
  | .other n => n

/-- What executing a command does to a turn. The context is mutable, so what a command has
put there stays when it raises. -/
structure CommandEffect where
  /-- how it ended -/
  outcome : Except Exn CommandOutcome
  facts : Facts
  outbox : List OutboundMessage
  degraded : List String

/-- The context after a command. -/
def CommandEffect.apply (e : CommandEffect) (ctx : TurnContext) : TurnContext :=
  { ctx with facts := e.facts, outbox := e.outbox, degraded := e.degraded }

/-- A row of the operations audit. -/
structure AuditRecord where
  conversationRef : String
  event : String
  state : String
  trigger : String
  actor : String
  reason : String
  occurredAt : Time
  deriving DecidableEq, Repr

/-- The body of a message on the work queue, or of a scheduled callback: a dictionary, with
the nested dictionary under `payload`. -/
structure WorkBody where
  fields : Facts
  payload : Facts := Facts.empty

/-- A row of the transactional outbox. -/
structure OutboxRow where
  outboxId : String
  event : String
  payload : Facts
  idempotencyKey : String
  publishedAt : Option Time := none

/-- The verdict of the rate limiter: allowed, or how long to wait. -/
structure LimitDecision where
  allowed : Bool
  retryAfterSeconds : Int := 0
  deriving DecidableEq, Repr

/-- The failure of a provider, as its adapter classifies it. -/
structure ProviderError where
  provider : String
  code : String := ""
  retryable : Bool := false
  deriving DecidableEq, Repr

/-! ## The interface -/

/-- The calls. -/
inductive Op
  | now
  -- conversations
  | load (ref : String)
  | saveTransition (result : TransitionResult) (now : Time) (facts : Facts)
  | loadOwnership (ref : String) (now : Time)
  | saveOwnership (ownership : Ownership)
  | touchInbound (ref : String) (moment : Time)
  | lastInboundAt (ref : String)
  -- idempotency
  | claim (key scope : String) (now : Time) (ttlSeconds : Int)
  -- demos and slots
  | demoForConversation (ref : String)
  | requestForConversation (ref : String)
  | saveRequest (request : DemoRequest)
  | loadCandidates (ref : String)
  | saveCandidates (ref matchSessionId : String) (candidates : List TutorCandidate)
      (capturedAt : Time)
  | loadDemo (demoId : String)
  | saveDemo (demo : Demo)
  | activeHoldFor (ref : String) (now : Time)
  | slots (call : SlotCall)
  -- reminders
  | replaceForDemo (demoId : String) (revision : Nat) (reminders : List ScheduledReminder)
  | cancelForDemo (demoId : String)
  | dueReminders (now : Time) (limit : Nat)
  | markReminder (reminderId : String) (status : ReminderStatus) (now : Time) (detail : String)
  -- commerce
  | loadDecision (demoId : String)
  | orderForConversation (ref : String)
  | loadOrder (orderRef : String)
  | saveOrder (order : PaymentOrder)
  | recordEvent (event : PaymentEvent) (now : Time)
  | activationFor (orderRef : String)
  | saveActivation (activation : SubscriptionActivation)
  -- operations, outbox and scheduler
  | audit (record : AuditRecord)
  | unpublished (limit : Nat)
  | markPublished (outboxId : String) (now : Time)
  | enqueue (row : OutboxRow) (now : Time)
  | schedule (name : String) (fireAt : Time) (payload : Facts)
  | dispatch (event idempotencyKey : String) (payload : Facts) (url : String)
  -- transport
  | publish (body : WorkBody) (groupId dedupId : String)
  | optedOut (ref : String)
  | claimSend (message : OutboundMessage) (now : Time)
  | recordSendResult (idempotencyKey : String) (result : SendResult) (now : Time)
  | checkOutput (message : OutboundMessage)
  | checkLimit (key : String) (limit perSeconds : Int)
  | resolveContact (ref : String)
  | deliver (message : OutboundMessage) (recipient : String)
  -- the calendar, the gateway, the other agents and the payment provider
  | createEvent (slot : TimeSlot) (summary description : String) (attendeeEmails : List String)
      (withConference : Bool) (conferenceRequestId : String) (location : Option String)
  | patchEvent (eventId : String) (slot : TimeSlot)
  | cancelEvent (eventId : String)
  | getEvent (eventId : String)
  | resolveIdentity (phoneHash ref : String)
  | tutorAvailability (tutorRef : String) (fromAt toAt : Time)
  | tutorEmail (tutorRef : String)
  | matchTutors (request : TutorMatchRequest)
  | openHumanCase (record : Facts)
  | placeOrder (order : PaymentOrder) (offer : ApprovedOffer)
  | activateSubscription (orderRef : String) (studentRef : Option String)
      (idempotencyKey : String)
  -- identifiers are drawn at random
  | newId (kind : String)
  -- capabilities that only say something
  | analyse (demo : Demo) (transcript : String) (now : Time)
  | composeFollowup (demo : Demo) (offer : Option ApprovedOffer) (payload : Facts) (now : Time)
  -- whole components
  | execute (command : Command) (ctx : TurnContext) (payload : Facts)
  | send (message : OutboundMessage)

/-- A call that leaves the states of all conversations alone. -/
def Op.leavesStates : Op → Bool
  | .saveTransition .. | .touchInbound .. | .execute .. | .send _ => false
  | _ => true

/-- What each call answers. -/
def Op.Res : Op → Type
  | .now => Time
  | .load _ => StateSnapshot
  | .saveTransition .. => StateSnapshot
  | .loadOwnership .. => Ownership
  | .saveOwnership _ => Unit
  | .touchInbound .. => Unit
  | .lastInboundAt _ => Option Time
  | .claim .. => Bool
  | .demoForConversation _ => Option Demo
  | .requestForConversation _ => Option DemoRequest
  | .saveRequest _ => Unit
  | .loadCandidates _ => List TutorCandidate
  | .saveCandidates .. => Unit
  | .loadDemo _ => Option Demo
  | .saveDemo _ => Unit
  | .activeHoldFor .. => Option SlotHold
  | .slots _ => SlotAnswer
  | .replaceForDemo .. => Unit
  | .cancelForDemo _ => Nat
  | .dueReminders .. => List ScheduledReminder
  | .markReminder .. => Unit
  | .loadDecision _ => Option DiscountDecision
  | .orderForConversation _ => Option PaymentOrder
  | .loadOrder _ => Option PaymentOrder
  | .saveOrder _ => Unit
  | .recordEvent .. => Bool
  | .activationFor _ => Option SubscriptionActivation
  | .saveActivation _ => Unit
  | .audit _ => Unit
  | .unpublished _ => List OutboxRow
  | .markPublished .. => Unit
  | .enqueue .. => Bool
  | .schedule .. => Unit
  | .dispatch .. => Unit
  | .publish .. => String
  | .optedOut _ => Bool
  | .claimSend .. => Bool
  | .recordSendResult .. => Unit
  | .checkOutput _ => List String
  | .checkLimit .. => LimitDecision
  | .resolveContact _ => Option String
  | .deliver .. => Except ProviderError SendResult
  | .createEvent .. => Except ProviderError CreatedEvent
  | .patchEvent .. => Except ProviderError Unit
  | .cancelEvent _ => Except ProviderError Unit
  | .getEvent _ => Except ProviderError CalendarEvent
  | .resolveIdentity .. => Except ProviderError (Option String)
  | .tutorAvailability .. => Except ProviderError (List TimeSlot)
  | .tutorEmail _ => Except ProviderError (Option String)
  | .matchTutors _ => Except ProviderError TutorMatchResult
  | .openHumanCase _ => String
  | .placeOrder .. => Except ProviderError String
  | .activateSubscription .. => Except ProviderError String
  | .newId _ => String
  | .analyse .. => Unit
  | .composeFollowup .. => String
  | .execute .. => CommandEffect
  | .send _ => SendResult

/-- The interface of the agent's dependencies. -/
abbrev ports : Sig := ⟨Op, Op.Res⟩

/-- A program of the agent. -/
abbrev Act (α : Type) : Type := Prog ports Exn α

/-- Make one call. -/
def ask (o : Op) : Act o.Res := Prog.perform (S := ports) o

end NxTutors.DemoAgent
