import Mathlib.Data.Fintype.Basic

/-!
# The lifecycle of a demo: states, actors, triggers

A conversation of the demo agent is in one of thirty states. What moves it is a trigger,
fired by an actor, and who may fire what is the authorisation model: the actor is part of
every rule of the transition table (`DemoAgent.Transitions`). This module is the vocabulary,
with the wire value of every member and the sets the rest of the agent asks about.
-/

namespace NxTutors.DemoAgent

/-! ## States -/

/-- The demo lifecycle, ordered roughly by funnel position. -/
inductive DemoState
  | new | ownershipAcquiring | identityResolution | collectingRequirements
  | tutorMatchRequested | tutorOptionsReady | awaitingTutorSelection | tutorSelected
  | tutorConfirmationPending | negotiatingSlot | slotHeld | calendarCreationPending | scheduled
  | remindersActive | demoReady | outcomePending | completed | studentNoShowReview
  | tutorNoShowReview | postDemoAnalysis | followupPending | paymentPending | paymentConfirmed
  | subscriptionActivating | onboardingHandoffPending | converted | cancelled | humanHandoff
  | failedRecoverable | failedTerminal
  deriving DecidableEq, Repr

/-- The name a state is stored and reported under. -/
def DemoState.value : DemoState → String
  | .new => "NEW"
  | .ownershipAcquiring => "OWNERSHIP_ACQUIRING"
  | .identityResolution => "IDENTITY_RESOLUTION"
  | .collectingRequirements => "COLLECTING_REQUIREMENTS"
  | .tutorMatchRequested => "TUTOR_MATCH_REQUESTED"
  | .tutorOptionsReady => "TUTOR_OPTIONS_READY"
  | .awaitingTutorSelection => "AWAITING_TUTOR_SELECTION"
  | .tutorSelected => "TUTOR_SELECTED"
  | .tutorConfirmationPending => "TUTOR_CONFIRMATION_PENDING"
  | .negotiatingSlot => "NEGOTIATING_SLOT"
  | .slotHeld => "SLOT_HELD"
  | .calendarCreationPending => "CALENDAR_CREATION_PENDING"
  | .scheduled => "SCHEDULED"
  | .remindersActive => "REMINDERS_ACTIVE"
  | .demoReady => "DEMO_READY"
  | .outcomePending => "OUTCOME_PENDING"
  | .completed => "COMPLETED"
  | .studentNoShowReview => "STUDENT_NO_SHOW_REVIEW"
  | .tutorNoShowReview => "TUTOR_NO_SHOW_REVIEW"
  | .postDemoAnalysis => "POST_DEMO_ANALYSIS"
  | .followupPending => "FOLLOWUP_PENDING"
  | .paymentPending => "PAYMENT_PENDING"
  | .paymentConfirmed => "PAYMENT_CONFIRMED"
  | .subscriptionActivating => "SUBSCRIPTION_ACTIVATING"
  | .onboardingHandoffPending => "ONBOARDING_HANDOFF_PENDING"
  | .converted => "CONVERTED"
  | .cancelled => "CANCELLED"
  | .humanHandoff => "HUMAN_HANDOFF"
  | .failedRecoverable => "FAILED_RECOVERABLE"
  | .failedTerminal => "FAILED_TERMINAL"

/-- Nothing resumes from here. -/
def TERMINAL : List DemoState := [.converted, .cancelled, .failedTerminal]

/-- A human holds the conversation; the outbound path refuses to send from here. -/
def SUSPENDED : List DemoState := [.humanHandoff]

def isTerminal (state : DemoState) : Bool := state ∈ TERMINAL

/-- Whether the outbound boundary may send an ordinary business message: terminal and
suspended states both block. -/
def canSendAutomatedMessage (state : DemoState) : Bool :=
  state ∉ TERMINAL && state ∉ SUSPENDED

/-- Every state, in the order of the source. -/
def DemoState.all : List DemoState :=
  [.new, .ownershipAcquiring, .identityResolution, .collectingRequirements, .tutorMatchRequested,
    .tutorOptionsReady, .awaitingTutorSelection, .tutorSelected, .tutorConfirmationPending,
    .negotiatingSlot, .slotHeld, .calendarCreationPending, .scheduled, .remindersActive,
    .demoReady, .outcomePending, .completed, .studentNoShowReview, .tutorNoShowReview,
    .postDemoAnalysis, .followupPending, .paymentPending, .paymentConfirmed,
    .subscriptionActivating, .onboardingHandoffPending, .converted, .cancelled, .humanHandoff,
    .failedRecoverable, .failedTerminal]

instance : Fintype DemoState where
  elems := ⟨DemoState.all, by decide⟩
  complete state := by cases state <;> decide

/-! ## Actors -/

/-- Who is asking for a transition. `user` is the parent on WhatsApp, `system` a capability
worker under our own authority, `paymentProvider` a verified webhook, `agent` a verified
handoff from another agent, `operator` an authenticated member of staff. -/
inductive Actor
  | user | tutor | system | paymentProvider | agent | operator | scheduler
  deriving DecidableEq, Repr

/-- The name an actor is recorded under, and the one a work item names it by. -/
def Actor.value : Actor → String
  | .user => "user"
  | .tutor => "tutor"
  | .system => "system"
  | .paymentProvider => "payment_provider"
  | .agent => "agent"
  | .operator => "operator"
  | .scheduler => "scheduler"

/-- Every actor, in the order of the source. -/
def Actor.all : List Actor :=
  [.user, .tutor, .system, .paymentProvider, .agent, .operator, .scheduler]

instance : Fintype Actor where
  elems := ⟨Actor.all, by decide⟩
  complete actor := by cases actor <;> decide

/-- `Actor(raw)`: the actor of that name, if there is one. -/
def Actor.ofValue? (raw : String) : Option Actor := Actor.all.find? fun a => a.value = raw

/-! ## Triggers -/

/-- Every event that may cause a state transition. -/
inductive Trigger
  | handoffReceived | ownershipAcquired | identityResolved | identityUnresolved
  | requirementsUpdated | requirementsComplete | matchRequested | matchSucceeded | matchEmpty
  | optionsPresented | tutorChosen | optionsRejected | tutorConfirmationSent | tutorAccepted
  | tutorDeclined | tutorRequestExpired | slotProposed | slotAgreed | holdPlaced | holdExpired
  | calendarRequested | calendarCreated | calendarFailed | remindersScheduled | demoWindowOpen
  | rescheduleRequested | cancelledByUser | cancelledByTutor | outcomeDue | demoCompleted
  | studentAbsent | tutorAbsent | noShowResolved | analysisRequested | analysisComplete
  | followupSent | paymentLinkIssued | paymentPaid | paymentFailed | activationStarted
  | activationSucceeded | activationFailed | onboardingHandedOff | onboardingAccepted
  | humanRequested | humanResolved | recoverableFailure | retry | abandon
  deriving DecidableEq, Repr

/-- The name a trigger is recorded under, and the one a work item names it by. -/
def Trigger.value : Trigger → String
  | .handoffReceived => "handoff_received"
  | .ownershipAcquired => "ownership_acquired"
  | .identityResolved => "identity_resolved"
  | .identityUnresolved => "identity_unresolved"
  | .requirementsUpdated => "requirements_updated"
  | .requirementsComplete => "requirements_complete"
  | .matchRequested => "match_requested"
  | .matchSucceeded => "match_succeeded"
  | .matchEmpty => "match_empty"
  | .optionsPresented => "options_presented"
  | .tutorChosen => "tutor_chosen"
  | .optionsRejected => "options_rejected"
  | .tutorConfirmationSent => "tutor_confirmation_sent"
  | .tutorAccepted => "tutor_accepted"
  | .tutorDeclined => "tutor_declined"
  | .tutorRequestExpired => "tutor_request_expired"
  | .slotProposed => "slot_proposed"
  | .slotAgreed => "slot_agreed"
  | .holdPlaced => "hold_placed"
  | .holdExpired => "hold_expired"
  | .calendarRequested => "calendar_requested"
  | .calendarCreated => "calendar_created"
  | .calendarFailed => "calendar_failed"
  | .remindersScheduled => "reminders_scheduled"
  | .demoWindowOpen => "demo_window_open"
  | .rescheduleRequested => "reschedule_requested"
  | .cancelledByUser => "cancelled_by_user"
  | .cancelledByTutor => "cancelled_by_tutor"
  | .outcomeDue => "outcome_due"
  | .demoCompleted => "demo_completed"
  | .studentAbsent => "student_absent"
  | .tutorAbsent => "tutor_absent"
  | .noShowResolved => "no_show_resolved"
  | .analysisRequested => "analysis_requested"
  | .analysisComplete => "analysis_complete"
  | .followupSent => "followup_sent"
  | .paymentLinkIssued => "payment_link_issued"
  | .paymentPaid => "payment_paid"
  | .paymentFailed => "payment_failed"
  | .activationStarted => "activation_started"
  | .activationSucceeded => "activation_succeeded"
  | .activationFailed => "activation_failed"
  | .onboardingHandedOff => "onboarding_handed_off"
  | .onboardingAccepted => "onboarding_accepted"
  | .humanRequested => "human_requested"
  | .humanResolved => "human_resolved"
  | .recoverableFailure => "recoverable_failure"
  | .retry => "retry"
  | .abandon => "abandon"

/-- Every trigger, in the order of the source. -/
def Trigger.all : List Trigger :=
  [.handoffReceived, .ownershipAcquired, .identityResolved, .identityUnresolved,
    .requirementsUpdated, .requirementsComplete, .matchRequested, .matchSucceeded, .matchEmpty,
    .optionsPresented, .tutorChosen, .optionsRejected, .tutorConfirmationSent, .tutorAccepted,
    .tutorDeclined, .tutorRequestExpired, .slotProposed, .slotAgreed, .holdPlaced, .holdExpired,
    .calendarRequested, .calendarCreated, .calendarFailed, .remindersScheduled, .demoWindowOpen,
    .rescheduleRequested, .cancelledByUser, .cancelledByTutor, .outcomeDue, .demoCompleted,
    .studentAbsent, .tutorAbsent, .noShowResolved, .analysisRequested, .analysisComplete,
    .followupSent, .paymentLinkIssued, .paymentPaid, .paymentFailed, .activationStarted,
    .activationSucceeded, .activationFailed, .onboardingHandedOff, .onboardingAccepted,
    .humanRequested, .humanResolved, .recoverableFailure, .retry, .abandon]

instance : Fintype Trigger where
  elems := ⟨Trigger.all, by decide⟩
  complete trigger := by cases trigger <;> decide

/-- `Trigger(raw)`: the trigger of that name, if there is one. -/
def Trigger.ofValue? (raw : String) : Option Trigger :=
  Trigger.all.find? fun t => t.value = raw

/-- A trigger is found under its own name and no other. -/
theorem Trigger.ofValue?_eq_some {raw : String} {t : Trigger}
    (h : Trigger.ofValue? raw = some t) : t.value = raw := by
  simpa using List.find?_some h

/-- Triggers a parent may never fire, whatever they type and whatever a model infers. -/
def USER_FORBIDDEN : List Trigger :=
  [.paymentPaid, .paymentFailed, .activationSucceeded, .activationFailed, .tutorAccepted,
    .tutorDeclined, .demoCompleted, .studentAbsent, .tutorAbsent, .matchSucceeded,
    .identityResolved]

end NxTutors.DemoAgent
