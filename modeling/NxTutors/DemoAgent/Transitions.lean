import NxTutors.DemoAgent.States
import NxTutors.DemoAgent.Facts

/-!
# The transition table

One row per legal move, and nothing else is legal. A row says from which states a trigger
may be fired and by whom, where it leads, what the orchestrator must do afterwards
(`command`), what undoes it (`compensation`), and optionally which facts must hold
(`guard`). Guards may only refuse.

The table is data, and the lemmas below are about the table: `lookup` finds a row of it,
no trigger has two rows, and each way out of the funnel has exactly the actors it has.
-/

namespace NxTutors.DemoAgent

/-- The side effect a transition asks the orchestrator to perform. -/
inductive Command
  | none | resolveIdentity | askMissingRequirements | requestTutorMatch | presentTutorOptions
  | requestTutorConfirmation | proposeSlots | placeSlotHold | releaseSlotHold
  | createCalendarEvent | cancelCalendarEvent | sendConfirmation | scheduleReminders
  | cancelReminders | captureOutcome | runPostDemoAnalysis | sendFollowup | createPaymentOrder
  | activateSubscription | handoffToOnboarding | sendWelcome | raiseHumanCase
  | notifyCancellation | tryFallbackTutor
  deriving DecidableEq, Repr

/-- The name a command is recorded under. -/
def Command.value : Command → String
  | .none => "none"
  | .resolveIdentity => "resolve_identity"
  | .askMissingRequirements => "ask_missing_requirements"
  | .requestTutorMatch => "request_tutor_match"
  | .presentTutorOptions => "present_tutor_options"
  | .requestTutorConfirmation => "request_tutor_confirmation"
  | .proposeSlots => "propose_slots"
  | .placeSlotHold => "place_slot_hold"
  | .releaseSlotHold => "release_slot_hold"
  | .createCalendarEvent => "create_calendar_event"
  | .cancelCalendarEvent => "cancel_calendar_event"
  | .sendConfirmation => "send_confirmation"
  | .scheduleReminders => "schedule_reminders"
  | .cancelReminders => "cancel_reminders"
  | .captureOutcome => "capture_outcome"
  | .runPostDemoAnalysis => "run_post_demo_analysis"
  | .sendFollowup => "send_followup"
  | .createPaymentOrder => "create_payment_order"
  | .activateSubscription => "activate_subscription"
  | .handoffToOnboarding => "handoff_to_onboarding"
  | .sendWelcome => "send_welcome"
  | .raiseHumanCase => "raise_human_case"
  | .notifyCancellation => "notify_cancellation"
  | .tryFallbackTutor => "try_fallback_tutor"

/-! ## Guards -/

/-- What a guard is allowed to see. -/
structure GuardContext where
  state : DemoState
  actor : Actor
  /-- the facts of the conversation, assembled before the machine runs -/
  facts : Facts

/-- `ctx.fact(name)`. -/
def GuardContext.fact (ctx : GuardContext) (name : String) : Value := ctx.facts.get name

/-- A guard returns nothing to allow, or a reason to refuse. -/
abbrev Guard := GuardContext → Option String

/-- A guard that refuses unless `fact` is truthy. -/
def require (fact message : String) : Guard := fun ctx =>
  if (ctx.fact fact).truthy then none else some message

/-- `','.join(value)`. A tuple joins its members and a string its characters; the fact this
is applied to is always the tuple that the context assembled. -/
def Value.joined : Value → String
  | .strs l => ",".intercalate l
  | .str s => ",".intercalate (s.toList.map String.singleton)
  | _ => ""

def requirementsComplete : Guard := fun ctx =>
  let missing := ctx.fact "missing_requirements"
  if missing.truthy then some ("missing_requirements:" ++ missing.joined) else none

/-- The chosen tutor must have come from a candidate snapshot we stored. -/
def tutorFromTrustedSource : Guard := fun ctx =>
  if !(ctx.fact "tutor_ref").truthy then some "no_tutor_selected"
  else if !(ctx.fact "tutor_in_snapshot").truthy then
    some "tutor_not_in_presented_candidates"
  else none

def holdIsLive : Guard := fun ctx =>
  if !(ctx.fact "hold_id").truthy then some "no_slot_hold"
  else if (ctx.fact "hold_expired").truthy then some "slot_hold_expired"
  else none

/-- Only a verified, amount-matched provider event may pass. -/
def paymentVerified : Guard := fun ctx =>
  if !(ctx.fact "signature_verified").truthy then some "payment_signature_unverified"
  else if !(ctx.fact "amount_matches_order").truthy then some "payment_amount_mismatch"
  else if !(ctx.fact "order_belongs_to_conversation").truthy then
    some "payment_order_mismatch"
  else none

/-- A no-show needs the grace period and a real absence signal. -/
def outcomeIsEvidenced : Guard := fun ctx =>
  if !(ctx.fact "grace_period_elapsed").truthy then some "grace_period_not_elapsed"
  else if ctx.fact "evidence_source" ∈ [Value.none, .str "", .str "llm"] then
    some "no_authoritative_absence_evidence"
  else none

/-! ## The table -/

/-- A row of the table. -/
structure Transition where
  /-- the states the trigger may be fired from -/
  sources : List DemoState
  trigger : Trigger
  /-- who may fire it -/
  actors : List Actor
  target : DemoState
  /-- the side effect to perform once the move is stored -/
  command : Command := .none
  guard : Option Guard := none
  /-- what to run if the command fails after the state moved -/
  compensation : Command := .none
  /-- the audit label -/
  reason : String := ""

def SYSTEM : List Actor := [.system]
def USER_OR_SYSTEM : List Actor := [.user, .system]
def ANY_HUMAN : List Actor := [.user, .operator]
def OPERATOR : List Actor := [.operator]
def SCHEDULER : List Actor := [.scheduler, .system]

/-- Every state a human can be pulled into the conversation from. -/
def ESCALATABLE : List DemoState :=
  DemoState.all.filter (· ∉ [.humanHandoff, .converted, .cancelled, .failedTerminal])

/-- The states a user may abandon from. -/
def CANCELLABLE : List DemoState :=
  DemoState.all.filter
    (· ∉ [.converted, .cancelled, .failedTerminal, .paymentConfirmed, .subscriptionActivating])

def TRANSITIONS : List Transition :=
  [
    { sources := [.new], trigger := .handoffReceived, actors := [.agent, .system],
      target := .ownershipAcquiring, reason := "handoff_accepted" },
    { sources := [.ownershipAcquiring], trigger := .ownershipAcquired, actors := SYSTEM,
      target := .identityResolution, command := .resolveIdentity, reason := "ownership_taken" },
    { sources := [.identityResolution], trigger := .identityResolved, actors := SYSTEM,
      target := .collectingRequirements, command := .askMissingRequirements,
      reason := "identity_resolved" },
    -- a parent without a website account can still book a demo
    { sources := [.identityResolution], trigger := .identityUnresolved, actors := SYSTEM,
      target := .collectingRequirements, command := .askMissingRequirements,
      reason := "identity_pending" },
    { sources := [.collectingRequirements], trigger := .requirementsUpdated,
      actors := USER_OR_SYSTEM, target := .collectingRequirements,
      command := .askMissingRequirements, reason := "requirement_captured" },
    { sources := [.collectingRequirements], trigger := .requirementsComplete, actors := SYSTEM,
      target := .tutorMatchRequested, command := .requestTutorMatch,
      guard := some requirementsComplete, reason := "requirements_complete" },
    { sources := [.tutorMatchRequested], trigger := .matchSucceeded, actors := SYSTEM,
      target := .tutorOptionsReady, command := .presentTutorOptions,
      guard := some (require "has_candidates" "no_candidates_returned"),
      reason := "candidates_returned" },
    { sources := [.tutorMatchRequested], trigger := .matchEmpty, actors := SYSTEM,
      target := .humanHandoff, command := .raiseHumanCase, reason := "no_tutor_available" },
    { sources := [.tutorOptionsReady], trigger := .optionsPresented, actors := SYSTEM,
      target := .awaitingTutorSelection, reason := "options_sent" },
    { sources := [.awaitingTutorSelection], trigger := .tutorChosen, actors := USER_OR_SYSTEM,
      target := .tutorSelected, command := .proposeSlots, guard := some tutorFromTrustedSource,
      reason := "tutor_selected" },
    { sources := [.awaitingTutorSelection], trigger := .optionsRejected, actors := USER_OR_SYSTEM,
      target := .tutorMatchRequested, command := .requestTutorMatch,
      reason := "alternatives_requested" },
    { sources := [.tutorSelected, .negotiatingSlot], trigger := .slotProposed, actors := SYSTEM,
      target := .negotiatingSlot, reason := "slots_offered" },
    { sources := [.negotiatingSlot, .tutorSelected], trigger := .slotAgreed,
      actors := USER_OR_SYSTEM, target := .slotHeld, command := .placeSlotHold,
      reason := "slot_agreed" },
    { sources := [.slotHeld], trigger := .holdPlaced, actors := SYSTEM,
      target := .tutorConfirmationPending, command := .requestTutorConfirmation,
      guard := some holdIsLive, reason := "hold_placed" },
    { sources := [.slotHeld, .tutorConfirmationPending], trigger := .holdExpired,
      actors := SCHEDULER, target := .negotiatingSlot, command := .proposeSlots,
      compensation := .releaseSlotHold, reason := "hold_expired" },
    -- if the calendar fails here the hold must go back, or the slot stays blocked
    { sources := [.tutorConfirmationPending], trigger := .tutorAccepted,
      actors := [.tutor, .operator, .system], target := .calendarCreationPending,
      command := .createCalendarEvent, guard := some holdIsLive, compensation := .releaseSlotHold,
      reason := "tutor_accepted" },
    { sources := [.tutorConfirmationPending], trigger := .tutorDeclined,
      actors := [.tutor, .operator], target := .tutorMatchRequested, command := .tryFallbackTutor,
      compensation := .releaseSlotHold, reason := "tutor_declined" },
    { sources := [.tutorConfirmationPending], trigger := .tutorRequestExpired,
      actors := SCHEDULER, target := .tutorMatchRequested, command := .tryFallbackTutor,
      compensation := .releaseSlotHold, reason := "tutor_request_expired" },
    { sources := [.calendarCreationPending], trigger := .calendarCreated, actors := SYSTEM,
      target := .scheduled, command := .sendConfirmation,
      guard := some (require "calendar_event_id" "calendar_event_missing"),
      reason := "calendar_created" },
    { sources := [.calendarCreationPending], trigger := .calendarFailed, actors := SYSTEM,
      target := .failedRecoverable, compensation := .releaseSlotHold,
      reason := "calendar_failed" },
    { sources := [.failedRecoverable], trigger := .retry,
      actors := [.system, .operator, .scheduler], target := .negotiatingSlot,
      command := .proposeSlots, reason := "retry_after_failure" },
    { sources := [.scheduled], trigger := .remindersScheduled, actors := SYSTEM,
      target := .remindersActive, command := .scheduleReminders, reason := "reminders_scheduled" },
    { sources := [.remindersActive, .scheduled], trigger := .demoWindowOpen, actors := SCHEDULER,
      target := .demoReady, reason := "demo_window_open" },
    { sources := [.scheduled, .remindersActive, .demoReady, .slotHeld],
      trigger := .rescheduleRequested, actors := [.user, .tutor, .operator],
      target := .negotiatingSlot, command := .proposeSlots, compensation := .cancelReminders,
      reason := "reschedule_requested" },
    { sources := CANCELLABLE, trigger := .cancelledByUser, actors := ANY_HUMAN,
      target := .cancelled, command := .notifyCancellation, compensation := .cancelCalendarEvent,
      reason := "cancelled_by_user" },
    { sources := [.scheduled, .remindersActive, .demoReady], trigger := .cancelledByTutor,
      actors := [.tutor, .operator], target := .negotiatingSlot, command := .tryFallbackTutor,
      compensation := .cancelCalendarEvent, reason := "cancelled_by_tutor" },
    { sources := [.demoReady, .remindersActive], trigger := .outcomeDue, actors := SCHEDULER,
      target := .outcomePending, command := .captureOutcome, reason := "outcome_due" },
    { sources := [.outcomePending, .demoReady], trigger := .demoCompleted,
      actors := [.system, .operator, .tutor], target := .completed,
      command := .runPostDemoAnalysis, reason := "demo_completed" },
    { sources := [.outcomePending, .demoReady], trigger := .studentAbsent,
      actors := [.system, .operator], target := .studentNoShowReview,
      guard := some outcomeIsEvidenced, reason := "student_no_show" },
    { sources := [.outcomePending, .demoReady], trigger := .tutorAbsent,
      actors := [.system, .operator], target := .tutorNoShowReview,
      guard := some outcomeIsEvidenced, reason := "tutor_no_show" },
    { sources := [.studentNoShowReview, .tutorNoShowReview], trigger := .noShowResolved,
      actors := [.operator, .system], target := .negotiatingSlot, command := .proposeSlots,
      reason := "no_show_rebooking" },
    { sources := [.completed], trigger := .analysisRequested, actors := SYSTEM,
      target := .postDemoAnalysis, command := .runPostDemoAnalysis, reason := "analysis_started" },
    { sources := [.postDemoAnalysis, .completed], trigger := .analysisComplete, actors := SYSTEM,
      target := .followupPending, command := .sendFollowup, reason := "analysis_complete" },
    { sources := [.followupPending], trigger := .followupSent, actors := SYSTEM,
      target := .followupPending, reason := "followup_sent" },
    { sources := [.followupPending, .postDemoAnalysis], trigger := .paymentLinkIssued,
      actors := SYSTEM, target := .paymentPending, command := .createPaymentOrder,
      guard := some (require "approved_quote" "no_approved_quote"),
      reason := "payment_link_issued" },
    { sources := [.paymentPending], trigger := .paymentPaid, actors := [.paymentProvider],
      target := .paymentConfirmed, command := .activateSubscription,
      guard := some paymentVerified, reason := "payment_verified" },
    { sources := [.paymentPending], trigger := .paymentFailed, actors := [.paymentProvider],
      target := .followupPending, reason := "payment_failed" },
    { sources := [.paymentConfirmed], trigger := .activationStarted, actors := SYSTEM,
      target := .subscriptionActivating, command := .activateSubscription,
      reason := "activation_started" },
    { sources := [.subscriptionActivating, .paymentConfirmed], trigger := .activationSucceeded,
      actors := SYSTEM, target := .onboardingHandoffPending, command := .handoffToOnboarding,
      guard := some (require "subscription_ref" "no_subscription_ref"),
      reason := "subscription_activated" },
    -- money is taken but activation failed: a human must close this
    { sources := [.subscriptionActivating], trigger := .activationFailed, actors := SYSTEM,
      target := .humanHandoff, command := .raiseHumanCase, reason := "activation_failed_paid" },
    { sources := [.onboardingHandoffPending], trigger := .onboardingAccepted,
      actors := [.agent, .system], target := .converted, command := .sendWelcome,
      reason := "onboarding_accepted" },
    { sources := ESCALATABLE, trigger := .humanRequested, actors := [.user, .system, .operator],
      target := .humanHandoff, command := .raiseHumanCase, reason := "human_requested" },
    { sources := [.humanHandoff], trigger := .humanResolved, actors := OPERATOR,
      target := .collectingRequirements, command := .askMissingRequirements,
      reason := "human_resolved" },
    { sources := ESCALATABLE, trigger := .recoverableFailure, actors := SYSTEM,
      target := .failedRecoverable, reason := "recoverable_failure" },
    { sources := [.failedRecoverable], trigger := .abandon, actors := [.operator, .system],
      target := .failedTerminal, reason := "abandoned" }
  ]

/-- The row for a trigger in a state. The source builds a dictionary from
`(source, trigger)` to rows once and looks it up. -/
def lookup (state : DemoState) (trigger : Trigger) : Option Transition :=
  TRANSITIONS.find? fun t => t.trigger = trigger && state ∈ t.sources

/-- The triggers with a row for a state. -/
def triggersFrom (state : DemoState) : List Trigger :=
  Trigger.all.filter fun trigger => (lookup state trigger).isSome

/-! ## Facts about the table -/

/-- A row that is looked up is in the table, under the state and the trigger asked for. -/
theorem lookup_eq_some {state : DemoState} {trigger : Trigger} {row : Transition}
    (h : lookup state trigger = some row) :
    row ∈ TRANSITIONS ∧ state ∈ row.sources ∧ row.trigger = trigger := by
  have hp := List.find?_some h
  simp only [Bool.and_eq_true, decide_eq_true_eq] at hp
  exact ⟨List.mem_of_find?_eq_some h, hp.2, hp.1⟩

/-- No trigger has two rows, so a key of the dictionary is never written twice. -/
theorem triggers_nodup : (TRANSITIONS.map Transition.trigger).Nodup := by decide

/-- The row of a trigger is determined by the trigger. -/
theorem row_unique {r r' : Transition} (hr : r ∈ TRANSITIONS) (hr' : r' ∈ TRANSITIONS)
    (h : r.trigger = r'.trigger) : r = r' :=
  List.inj_on_of_nodup_map triggers_nodup hr hr' h

/-- No row leaves a terminal state. -/
theorem source_not_terminal {row : Transition} (hrow : row ∈ TRANSITIONS) {state : DemoState}
    (hs : state ∈ row.sources) : isTerminal state = false := by
  revert state
  revert row
  decide

end NxTutors.DemoAgent
