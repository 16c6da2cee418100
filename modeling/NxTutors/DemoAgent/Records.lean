import NxTutors.DemoAgent.Payments
import NxTutors.DemoAgent.Ownership

/-!
# The rows a turn reads

Requests, demos, holds, candidates, discount decisions and outbound messages, with the
fields the modelled functions read.
-/

namespace NxTutors.DemoAgent

/-! ## Requirements and requests -/

inductive DemoMode
  | online | home
  deriving DecidableEq, Repr

inductive Language
  | en | hi | hinglish
  deriving DecidableEq, Repr

def Language.value : Language → String
  | .en => "en"
  | .hi => "hi"
  | .hinglish => "hinglish"

/-- What a demo needs before it can be scheduled. Populated incrementally across turns. -/
structure Requirement where
  service : Option String := none
  board : Option String := none
  studentClass : Option String := none
  subject : Option String := none
  mode : Option DemoMode := none
  region : Option String := none
  locality : Option String := none
  timezone : String := "Asia/Kolkata"
  language : Language := .en
  deriving DecidableEq, Repr

namespace Requirement

/-- `getattr(self, name) is None`, for the names in `REQUIRED`. -/
def isAbsent (r : Requirement) : String → Bool
  | "service" => r.service.isNone
  | "board" => r.board.isNone
  | "student_class" => r.studentClass.isNone
  | "subject" => r.subject.isNone
  | "mode" => r.mode.isNone
  | _ => false

/-- The fields required before matching may begin, in the order they are asked for. -/
def REQUIRED : List String := ["service", "board", "student_class", "subject", "mode"]

/-- A text that is there and not empty. -/
def present (s : Option String) : Bool := s.any (· ≠ "")

/-- The required fields that are absent. A home demo also needs a region or a locality. -/
def missing (r : Requirement) : List String :=
  REQUIRED.filter r.isAbsent ++
    if r.mode = some .home && !(present r.region || present r.locality) then ["region"] else []

end Requirement

/-- What was asked for, before any tutor or time exists. -/
structure DemoRequest where
  requestId : String
  conversationRef : String
  studentRef : Option String := none
  requirement : Requirement := {}
  language : Language := .en
  deriving DecidableEq, Repr

/-! ## Demos -/

/-- Who a message, a reminder or a no-show concerns. -/
inductive Party
  | student | tutor | both
  deriving DecidableEq, Repr

def Party.value : Party → String
  | .student => "student"
  | .tutor => "tutor"
  | .both => "both"

inductive ContactChannel
  | whatsapp | email | calendarInvite
  deriving DecidableEq, Repr

/-- A contact that can be resolved. -/
structure ContactRef where
  ref : String
  channel : ContactChannel
  contactable : Bool := true
  deriving DecidableEq, Repr

/-- One party on a demo. -/
structure DemoAttendee where
  party : Party
  ref : String
  displayName : String := ""
  contacts : List ContactRef := []
  inviteConsent : Bool := false
  deriving DecidableEq, Repr

/-- The first contact of a channel that may be contacted. -/
def DemoAttendee.contactFor (a : DemoAttendee) (channel : ContactChannel) : Option ContactRef :=
  a.contacts.find? fun contact => contact.channel = channel && contact.contactable

/-- How attendance was established. -/
inductive AttendanceSignal
  | calendarResponse | meetParticipation | tutorReport | studentReport | operatorReview
  | llmInference | none
  deriving DecidableEq, Repr

/-- The name a signal is recorded under. -/
def AttendanceSignal.value : AttendanceSignal → String
  | .calendarResponse => "calendar_response"
  | .meetParticipation => "meet_participation"
  | .tutorReport => "tutor_report"
  | .studentReport => "student_report"
  | .operatorReview => "operator_review"
  | .llmInference => "llm_inference"
  | .none => "none"

/-- Signals a no-show may be recorded from. Neither a self-report nor the model is one. -/
def AUTHORITATIVE_ABSENCE : List AttendanceSignal :=
  [.calendarResponse, .meetParticipation, .operatorReview]

inductive DemoOutcome
  | positive | neutral | negative | notHeld | unknown
  deriving DecidableEq, Repr

/-- What actually happened, and how we know. -/
structure DemoOutcomeRecord where
  outcome : DemoOutcome := .unknown
  studentAttended : Option Bool := none
  tutorAttended : Option Bool := none
  evidenceSource : AttendanceSignal := .none
  durationMinutes : Option Int := none
  deriving DecidableEq, Repr

/-- What the calendar says about an event. -/
structure CalendarEvent where
  /-- the roles of those invited, and what each has answered -/
  attendees : List (String × String) := []
  participantCount : Option Int := none
  durationMinutes : Option Int := none
  deriving DecidableEq, Repr

/-- What the calendar answers when an event is created. -/
structure CreatedEvent where
  eventId : String
  meetUrl : String := ""
  deriving DecidableEq, Repr

/-- A scheduled (or once-scheduled) demo class. -/
structure Demo where
  demoId : String
  conversationRef : String
  tutorRef : Option String := none
  mode : DemoMode := .online
  language : Language := .en
  slot : Option TimeSlot := none
  /-- the logical calendar event, patched on a reschedule -/
  calendarEventId : Option String := none
  meetUrl : Option String := none
  locationLabel : Option String := none
  attendees : List DemoAttendee := []
  outcome : DemoOutcomeRecord := {}
  /-- incremented on every reschedule -/
  revision : Nat := 1
  cancelledAt : Option Time := none
  deriving DecidableEq, Repr

/-- After this much time past the scheduled end, an outcome is due. -/
def OUTCOME_GRACE : Time := 30 * minute

namespace Demo

def cancelled (d : Demo) : Bool := d.cancelledAt.isSome

/-- The first attendee of a party. -/
def attendee (d : Demo) (party : Party) : Option DemoAttendee :=
  d.attendees.find? fun person => person.party = party

/-- The grace period of the slot has elapsed. -/
def outcomeDue (d : Demo) (now : Time) : Bool :=
  match d.slot with
  | none => false
  | some slot => !d.cancelled && slot.endsAt + OUTCOME_GRACE ≤ now

/-- A reschedule. -/
def withSlot (d : Demo) (slot : TimeSlot) : Demo :=
  { d with slot := some slot, revision := d.revision + 1 }

end Demo

/-! ## Holds, candidates, decisions -/

inductive HoldStatus
  | active | confirmed | released | expired
  deriving DecidableEq, Repr

/-- An exclusive, expiring claim on one tutor at one time. -/
structure SlotHold where
  holdId : String
  conversationRef : String
  tutorRef : String
  slot : TimeSlot
  mode : DemoMode
  status : HoldStatus := .active
  createdAt : Time
  expiresAt : Time
  /-- a hold expires after it is created -/
  ordered : createdAt < expiresAt
  deriving DecidableEq

namespace SlotHold

def live (h : SlotHold) (now : Time) : Bool := h.status = .active && now < h.expiresAt

def expired (h : SlotHold) (now : Time) : Bool := h.status = .active && h.expiresAt ≤ now

/-- The value the unique index is built on: the tutor, and the minute the slot starts in. The
source joins the two into one text, which has both. -/
def conflictKey (h : SlotHold) : String × Int := (h.tutorRef, h.slot.startsAt / minute)

end SlotHold

/-- A slot offered to a parent, at its rank. -/
structure SlotProposal where
  slot : TimeSlot
  rank : Nat
  deriving DecidableEq, Repr

/-- How good the data behind a score are. The source calls `incomplete` data `partial`. -/
inductive DataQuality
  | ok | incomplete | insufficient | missing | stale
  deriving DecidableEq, Repr

/-- Qualities that forbid quoting a dimension to a parent. -/
def UNQUOTABLE : List DataQuality := [.missing, .insufficient, .stale]

/-- What is known about one dimension of a tutor. -/
structure DimensionScore where
  dataQuality : DataQuality
  /-- how many facts the score rests on -/
  evidence : Nat := 0
  deriving DecidableEq, Repr

/-- Whether a dimension may be cited in a message to a parent. -/
def DimensionScore.quotable (s : DimensionScore) : Bool :=
  s.dataQuality ∉ UNQUOTABLE && s.evidence ≠ 0

inductive Freshness
  | fresh | aging | stale | unknown
  deriving DecidableEq, Repr

/-- Freshness a candidate may be booked against. -/
def BOOKABLE_FRESHNESS : List Freshness := [.fresh, .aging]

/-- One ranked tutor. -/
structure TutorCandidate where
  rank : Nat
  tutorRef : String
  name : String
  profileUrl : String := ""
  reasons : List String := []
  localityLabel : Option String := none
  availabilityLabel : Option String := none
  feeLabel : Option String := none
  scores : List DimensionScore := []
  freshness : Freshness := .unknown
  deriving DecidableEq, Repr

namespace TutorCandidate

def bookable (c : TutorCandidate) : Bool := c.freshness ∈ BOOKABLE_FRESHNESS

/-- Reasons we may show: none, unless at least one dimension may be quoted. -/
def quotableReasons (c : TutorCandidate) : List String :=
  if c.scores.any DimensionScore.quotable then c.reasons else []

end TutorCandidate

inductive DiscountStatus
  | approved | escalated | denied | notApplicable
  deriving DecidableEq, Repr

inductive DenialReason
  | noQualifyingObjection | priceFloorBreached | offerLimitReached | repeatRequests
  | demoNotCompleted | policyDisabled | none
  deriving DecidableEq, Repr

/-- The closed set the discount policy keys on. -/
inductive ObjectionCategory
  | price | tutorFit | timing | trust | learningNeed | decisionMaker | competitor | logistics
  | none
  deriving DecidableEq, Repr

/-- A price a customer may actually be charged. -/
structure ApprovedOffer where
  conversationRef : String
  demoId : String
  studentRef : Option String := none
  amountMinor : Nat
  currency : String := "INR"
  listPriceMinor : Nat
  discountPercent : Nat
  bandName : String := ""
  policyStamp : String
  validUntil : Option Time := none
  approvedAt : Time
  deriving DecidableEq, Repr

def ApprovedOffer.live (o : ApprovedOffer) (now : Time) : Bool := o.validUntil.all (now < ·)

/-- The discount engine's verdict. -/
structure DiscountDecision where
  conversationRef : String
  demoId : String
  studentRef : Option String := none
  status : DiscountStatus
  bandName : String := ""
  percent : Nat := 0
  listPriceMinor : Nat
  discountMinor : Nat := 0
  payableMinor : Nat
  /-- the price below which no discount may go -/
  floorMinor : Nat
  currency : String := "INR"
  triggers : List ObjectionCategory := []
  conditions : List String := []
  reasonCode : DenialReason := .none
  requiresHumanApproval : Bool := false
  approvedBy : String := ""
  policyStamp : String
  validUntil : Option Time := none
  decidedAt : Time
  deriving DecidableEq, Repr

def DiscountDecision.live (d : DiscountDecision) (now : Time) : Bool := d.validUntil.all (now < ·)

/-- The only route to something an order can be built from. A denied discount is no discount, not
no sale. -/
def DiscountDecision.approve (d : DiscountDecision) (now : Time) : Except String ApprovedOffer :=
  if d.status = .escalated then
    .error "cannot build an offer while a discount awaits human approval"
  else if d.payableMinor = 0 then .error "cannot build an offer for a zero amount"
  else if !d.live now then .error "offer has expired"
  else
    .ok { conversationRef := d.conversationRef, demoId := d.demoId, studentRef := d.studentRef,
          amountMinor := d.payableMinor, currency := d.currency,
          listPriceMinor := d.listPriceMinor, discountPercent := d.percent,
          bandName := d.bandName, policyStamp := d.policyStamp, validUntil := d.validUntil,
          approvedAt := now }

/-! ## Messages -/

inductive MessageKind
  | question | tutorOptions | slotProposal | confirmation | reminder | tutorRequest | followup
  | offer | paymentLink | welcome | cancellation | humanHandoffNotice
  deriving DecidableEq, Repr

/-- Kinds a parent's opt-out does not suppress. -/
def OPT_OUT_EXEMPT : List MessageKind := [.confirmation, .cancellation, .paymentLink]

/-- Kinds that are sent outside the session window, and must carry an approved template. -/
def TEMPLATE_REQUIRED : List MessageKind := [.reminder, .tutorRequest]

/-- Kinds that may be sent from a terminal state. -/
def TERMINAL_ALLOWED : List MessageKind := [.welcome, .cancellation]

/-- An approved template plus its positional variables, already resolved. -/
structure TemplateBinding where
  name : String
  language : String
  positionalVariables : List String := []
  deriving DecidableEq, Repr

/-- A reply button. -/
structure Button where
  replyId : String
  title : String
  deriving DecidableEq, Repr

/-- A request to send one message. -/
structure OutboundMessage where
  conversationRef : String
  recipientRef : String
  audience : Party := .student
  kind : MessageKind
  language : Language := .en
  body : String := ""
  buttons : List Button := []
  template : Option TemplateBinding := none
  idempotencyKey : String
  demoId : Value := .none
  traceId : String := ""
  expiresAt : Option Time := none
  createdAt : Time
  deriving DecidableEq, Repr

def OutboundMessage.expired (m : OutboundMessage) (now : Time) : Bool :=
  m.expiresAt.any (· ≤ now)

def OutboundMessage.optOutExempt (m : OutboundMessage) : Bool := m.kind ∈ OPT_OUT_EXEMPT

inductive SendOutcome
  | sent | duplicate | suppressedNotOwner | suppressedState | suppressedOptOut
  | suppressedQuietHours | suppressedRateLimit | suppressedExpired | suppressedNoTemplate
  | suppressedGuardrail | failed
  deriving DecidableEq, Repr

/-- The name an outcome is recorded under. -/
def SendOutcome.value : SendOutcome → String
  | .sent => "sent"
  | .duplicate => "duplicate"
  | .suppressedNotOwner => "suppressed_not_owner"
  | .suppressedState => "suppressed_state"
  | .suppressedOptOut => "suppressed_opt_out"
  | .suppressedQuietHours => "suppressed_quiet_hours"
  | .suppressedRateLimit => "suppressed_rate_limit"
  | .suppressedExpired => "suppressed_expired"
  | .suppressedNoTemplate => "suppressed_no_template"
  | .suppressedGuardrail => "suppressed_guardrail"
  | .failed => "failed"

/-- What the boundary did with a message. -/
structure SendResult where
  outcome : SendOutcome
  idempotencyKey : String
  detail : String := ""
  deriving DecidableEq, Repr

def SendResult.delivered (r : SendResult) : Bool := r.outcome = .sent

/-- `outcome.value.startswith("suppressed_")`. -/
def SendResult.suppressed (r : SendResult) : Bool :=
  "suppressed_".toList.isPrefixOf r.outcome.value.toList

/-- Whether the free-form window is open: there was an inbound message, less than
`windowHours` ago. -/
def sessionWindowOpen (lastInboundAt : Option Time) (now : Time) (windowHours : Int) : Bool :=
  match lastInboundAt with
  | none => false
  | some last => now - last < windowHours * hour

/-! ## Domain events -/

/-- The events of the domain. -/
inductive DomainEvent
  | demoRequested | requirementsCompleted | tutorSelected | slotHeld | slotHoldExpired
  | scheduled | rescheduled | cancelled | studentNoShow | tutorNoShow | completed
  | objectionsExtracted | forecastUpdated | followupReady | discountOffered
  | discountEscalated | paymentRequested | paymentConfirmed | paymentFailed
  | subscriptionActivated | onboardingRequested | handoffRequested | handoffAccepted
  | handoffFailed | humanHandoffRaised | underperformanceDetected
  deriving DecidableEq, Repr

/-- The name an event is written to the outbox under. -/
def DomainEvent.value : DomainEvent → String
  | .demoRequested => "demo.requested"
  | .requirementsCompleted => "demo.requirements_completed"
  | .tutorSelected => "demo.tutor_selected"
  | .slotHeld => "demo.slot_held"
  | .slotHoldExpired => "demo.slot_hold_expired"
  | .scheduled => "demo.scheduled"
  | .rescheduled => "demo.rescheduled"
  | .cancelled => "demo.cancelled"
  | .studentNoShow => "demo.student_no_show"
  | .tutorNoShow => "demo.tutor_no_show"
  | .completed => "demo.completed"
  | .objectionsExtracted => "demo.objections_extracted"
  | .forecastUpdated => "demo.forecast_updated"
  | .followupReady => "demo.followup_ready"
  | .discountOffered => "demo.discount_offered"
  | .discountEscalated => "demo.discount_escalated"
  | .paymentRequested => "demo.payment_requested"
  | .paymentConfirmed => "payment.confirmed"
  | .paymentFailed => "payment.failed"
  | .subscriptionActivated => "subscription.activated"
  | .onboardingRequested => "onboarding.requested"
  | .handoffRequested => "conversation.handoff_requested"
  | .handoffAccepted => "conversation.handoff_accepted"
  | .handoffFailed => "conversation.handoff_failed"
  | .humanHandoffRaised => "conversation.human_handoff_raised"
  | .underperformanceDetected => "ops.underperformance_detected"

/-- The events that commands write to the outbox. -/
def EMITTED : List DomainEvent :=
  [.slotHeld, .scheduled, .rescheduled, .cancelled, .objectionsExtracted, .paymentRequested,
    .subscriptionActivated, .onboardingRequested, .humanHandoffRaised]

/-! ## Commands -/

/-- What a command reports. -/
structure CommandOutcome where
  failed : Bool := false
  failureReason : String := ""
  replyText : Option String := none
  /-- ownership to hand to, applied once everything owed has been sent -/
  transferTo : Option Owner := none
  deriving DecidableEq, Repr

end NxTutors.DemoAgent
