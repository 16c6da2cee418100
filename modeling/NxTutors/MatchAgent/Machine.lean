import Mathlib.Data.List.Basic

/-!
# The conversation machine of the match agent

The transition table is data: from a state, a trigger leads to one other state, and what is not in
the table does not happen. A turn fires its triggers one after the other with `tryTransition`,
which leaves a snapshot alone where the table has no row, so where a turn ends depends on where it
began. Every transition takes a new snapshot, with the version of the lock raised by one.
-/

namespace NxTutors.MatchAgent

/-- A moment, in microseconds. -/
abbrev Time := Int

inductive ConversationState
  | new | collectingRequirements | readyToMatch | matching | shortlistReady | awaitingSelection
  | demoRequested | demoHandoff | humanReview | noMatch | closed | errorRecoverable
  deriving DecidableEq, Repr

inductive Trigger
  | messageReceived | requirementsIncomplete | requirementsComplete | matchStarted
  | shortlistGenerated | noCandidates | shortlistDelivered | parentSelected | demoRequested
  | demoHandedOff | requirementsChanged | humanHandoff | recoverableError | retry | close
  deriving DecidableEq, Repr

/-- States from which nothing further happens. -/
def TERMINAL : List ConversationState := [.closed, .demoHandoff]

/-- The complete table. -/
def TRANSITIONS : List ((ConversationState × Trigger) × ConversationState) :=
  -- intake
  [((.new, .messageReceived), .collectingRequirements),
    ((.new, .requirementsComplete), .readyToMatch),
    ((.new, .humanHandoff), .humanReview),
    ((.collectingRequirements, .messageReceived), .collectingRequirements),
    ((.collectingRequirements, .requirementsIncomplete), .collectingRequirements),
    ((.collectingRequirements, .requirementsComplete), .readyToMatch),
    ((.collectingRequirements, .humanHandoff), .humanReview),
    ((.collectingRequirements, .close), .closed),
    -- matching
    ((.readyToMatch, .matchStarted), .matching),
    ((.readyToMatch, .messageReceived), .collectingRequirements),
    ((.readyToMatch, .humanHandoff), .humanReview),
    ((.matching, .shortlistGenerated), .shortlistReady),
    ((.matching, .noCandidates), .noMatch),
    ((.matching, .recoverableError), .errorRecoverable),
    ((.matching, .humanHandoff), .humanReview),
    -- delivery and selection
    ((.shortlistReady, .shortlistDelivered), .awaitingSelection),
    ((.shortlistReady, .recoverableError), .errorRecoverable),
    ((.awaitingSelection, .parentSelected), .demoRequested),
    ((.awaitingSelection, .demoRequested), .demoRequested),
    ((.awaitingSelection, .requirementsChanged), .collectingRequirements),
    ((.awaitingSelection, .messageReceived), .awaitingSelection),
    ((.awaitingSelection, .humanHandoff), .humanReview),
    ((.awaitingSelection, .close), .closed),
    -- demo
    ((.demoRequested, .demoHandedOff), .demoHandoff),
    ((.demoRequested, .recoverableError), .errorRecoverable),
    ((.demoRequested, .humanHandoff), .humanReview),
    -- no match
    ((.noMatch, .requirementsChanged), .collectingRequirements),
    ((.noMatch, .messageReceived), .collectingRequirements),
    ((.noMatch, .humanHandoff), .humanReview),
    ((.noMatch, .close), .closed),
    -- recovery
    ((.errorRecoverable, .retry), .readyToMatch),
    ((.errorRecoverable, .messageReceived), .collectingRequirements),
    ((.errorRecoverable, .humanHandoff), .humanReview),
    -- only a human closes what is under review
    ((.humanReview, .close), .closed)]

/-- Where a trigger leads, if the table says so. -/
def nextState (state : ConversationState) (trigger : Trigger) : Option ConversationState :=
  TRANSITIONS.lookup (state, trigger)

/-- Where a trigger leaves a conversation. -/
def ConversationState.fire (state : ConversationState) (trigger : Trigger) : ConversationState :=
  (nextState state trigger).getD state

structure TransitionRecord where
  stateBefore : ConversationState
  stateAfter : ConversationState
  trigger : Trigger
  occurredAt : Time
  traceId : String
  deriving DecidableEq, Repr

/-- A persisted conversation, with its lock. -/
structure ConversationSnapshot where
  conversationId : String
  state : ConversationState := .new
  lockVersion : Nat := 0
  turnCount : Nat := 0
  /-- the last forty transitions -/
  history : List TransitionRecord := []
  deriving DecidableEq, Repr

namespace ConversationSnapshot

/-- The snapshot after a transition to `target`. -/
def moved (s : ConversationSnapshot) (trigger : Trigger) (target : ConversationState) (now : Time)
    (traceId : String) : ConversationSnapshot :=
  let history := s.history ++ [⟨s.state, target, trigger, now, traceId⟩]
  { s with
    state := target
    lockVersion := s.lockVersion + 1
    turnCount := s.turnCount + if trigger = .messageReceived then 1 else 0
    history := history.drop (history.length - 40) }

/-- A transition, if the table has it, and whether it has. -/
def tryTransition (s : ConversationSnapshot) (trigger : Trigger) (now : Time) (traceId : String) :
    ConversationSnapshot × Bool :=
  match nextState s.state trigger with
  | none => (s, false)
  | some target => (s.moved trigger target now traceId, true)

/-- The snapshot `try_transition` gives back. -/
def fired (s : ConversationSnapshot) (trigger : Trigger) (now : Time) (traceId : String) :
    ConversationSnapshot :=
  (s.tryTransition trigger now traceId).1

variable {s : ConversationSnapshot} {trigger : Trigger} {now : Time} {traceId : String}

@[simp] theorem fired_state : (s.fired trigger now traceId).state = s.state.fire trigger := by
  unfold fired tryTransition ConversationState.fire
  cases nextState s.state trigger <;> rfl

@[simp] theorem fired_conversationId :
    (s.fired trigger now traceId).conversationId = s.conversationId := by
  unfold fired tryTransition
  cases nextState s.state trigger <;> rfl

end ConversationSnapshot

end NxTutors.MatchAgent
