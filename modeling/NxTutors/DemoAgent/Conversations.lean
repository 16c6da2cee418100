import NxTutors.DemoAgent.Ownership

/-!
# The conversation store

A conversation's state lives behind an optimistic lock: a write names the version it was
decided on, and is refused if the stored version is another one. Every write that is not
refused appends to the conversation's history, the audit log.

There are two stores, in memory and in PostgreSQL. `ConversationRepository` is what the rest
of the agent sees of either; what is proved from the class holds over both.
-/

namespace NxTutors.DemoAgent

/-- Someone else advanced this conversation while we were deciding. -/
structure ConcurrencyConflict where
  conversationRef : String
  expected : Nat
  actual : Nat
  deriving DecidableEq, Repr

/-- `str(exc)`. -/
def ConcurrencyConflict.text (c : ConcurrencyConflict) : String :=
  "conversation " ++ c.conversationRef ++ " moved from version " ++ toString c.expected ++
    " to " ++ toString c.actual

/-- One row of the audit log. -/
structure HistoryEntry where
  fromState : DemoState
  toState : DemoState
  trigger : Trigger
  actor : Actor
  command : Command
  reason : String
  version : Nat
  occurredAt : Time
  deriving DecidableEq, Repr

/-- The audit row of a write that took the conversation to `version`. -/
def TransitionResult.entry (result : TransitionResult) (version : Nat) (now : Time) :
    HistoryEntry where
  fromState := result.fromState
  toState := result.toState
  trigger := result.trigger
  actor := result.actor
  command := result.command
  reason := result.reason
  version := version
  occurredAt := now

/-- What the agent sees of a conversation store. -/
class ConversationRepository (C : Type) where
  load : C → String → StateSnapshot
  /-- write under the optimistic lock: the new snapshot, or the conflict -/
  saveTransition : C → TransitionResult → Time → Facts →
    Except ConcurrencyConflict StateSnapshot × C
  loadOwnership : C → String → Time → Ownership
  saveOwnership : C → Ownership → C
  touchInbound : C → String → Time → C
  lastInboundAt : C → String → Option Time

/-! ## In memory -/

/-- `InMemoryConversationRepository`: four dictionaries keyed by conversation. -/
structure InMemoryConversations where
  states : String → Option StateSnapshot := fun _ => none
  history : String → List HistoryEntry := fun _ => []
  ownership : String → Option Ownership := fun _ => none
  lastInbound : String → Option Time := fun _ => none

namespace InMemoryConversations

/-- The stored snapshot, or the new conversation. -/
def load (s : InMemoryConversations) (ref : String) : StateSnapshot :=
  (s.states ref).getD { conversationRef := ref }

/-- The snapshot a write leaves. -/
def updated (current : StateSnapshot) (result : TransitionResult) (now : Time)
    (facts : Facts) : StateSnapshot where
  conversationRef := result.conversationRef
  state := result.toState
  version := current.version + 1
  demoId := (facts "demo_id").getD current.demoId
  updatedAt := some now
  facts := current.facts.merge facts

/-- The store after a write that was not refused. -/
def write (s : InMemoryConversations) (result : TransitionResult) (now : Time)
    (facts : Facts) : InMemoryConversations :=
  let ref := result.conversationRef
  let after := updated (s.load ref) result now facts
  { s with
    states := Function.update s.states ref (some after)
    history := Function.update s.history ref
      (s.history ref ++ [result.entry after.version now]) }

def saveTransition (s : InMemoryConversations) (result : TransitionResult) (now : Time)
    (facts : Facts) : Except ConcurrencyConflict StateSnapshot × InMemoryConversations :=
  let current := s.load result.conversationRef
  if current.version ≠ result.expectedVersion then
    (.error ⟨result.conversationRef, result.expectedVersion, current.version⟩, s)
  else (.ok (updated current result now facts), s.write result now facts)

instance : ConversationRepository InMemoryConversations where
  load := load
  saveTransition := saveTransition
  loadOwnership s ref now := (s.ownership ref).getD (.unowned ref now)
  saveOwnership s o :=
    { s with ownership := Function.update s.ownership o.conversationRef (some o) }
  touchInbound s ref moment :=
    { s with lastInbound := Function.update s.lastInbound ref (some moment) }
  lastInboundAt s ref := s.lastInbound ref

end InMemoryConversations

/-! ## PostgreSQL -/

/-- A row of `dcc_conversation_state`. -/
structure StateRow where
  state : DemoState
  version : Nat
  demoId : Value
  updatedAt : Time
  facts : Facts

/-- A row of `dcc_conversations`. It is created by whoever writes first, the ownership or
the moment of the last inbound message. -/
structure ConversationRow where
  owner : Owner
  since : Time
  leaseExpiresAt : Option Time := none
  previous : List Owner := []
  lastInboundAt : Option Time := none

/-- `PgConversationRepository`: three tables. -/
structure PgConversations where
  conversationState : String → Option StateRow := fun _ => none
  conversations : String → Option ConversationRow := fun _ => none
  stateTransitions : List (String × HistoryEntry) := []

namespace PgConversations

def load (s : PgConversations) (ref : String) : StateSnapshot :=
  match s.conversationState ref with
  | none => { conversationRef := ref }
  | some row =>
    { conversationRef := ref, state := row.state, version := row.version, demoId := row.demoId,
      updatedAt := some row.updatedAt, facts := row.facts }

/-- The row a write leaves, or none if it lost the race: an insert where a row exists
already, or an update whose version does not match. -/
def rowAfter (s : PgConversations) (result : TransitionResult) (now : Time)
    (facts : Facts) : Option StateRow :=
  let demoId := facts.get "demo_id"
  match s.conversationState result.conversationRef with
  | none =>
    if result.expectedVersion = 0 then
      some { state := result.toState, version := 1, demoId, updatedAt := now, facts }
    else none
  | some row =>
    if result.expectedVersion ≠ 0 && row.version = result.expectedVersion then
      some { state := result.toState, version := row.version + 1,
             demoId := if demoId = .none then row.demoId else demoId,
             updatedAt := now, facts := row.facts.merge facts }
    else none

def saveTransition (s : PgConversations) (result : TransitionResult) (now : Time)
    (facts : Facts) : Except ConcurrencyConflict StateSnapshot × PgConversations :=
  let ref := result.conversationRef
  match s.rowAfter result now facts with
  | none => (.error ⟨ref, result.expectedVersion, (s.load ref).version⟩, s)
  | some row =>
    (.ok { conversationRef := ref, state := result.toState, version := row.version,
           demoId := facts.get "demo_id", updatedAt := some now, facts },
      { s with
        conversationState := Function.update s.conversationState ref (some row)
        stateTransitions := s.stateTransitions ++ [(ref, result.entry row.version now)] })

instance : ConversationRepository PgConversations where
  load := load
  saveTransition := saveTransition
  loadOwnership s ref now :=
    match s.conversations ref with
    | none => .unowned ref now
    | some row =>
      { conversationRef := ref, owner := row.owner, since := row.since,
        leaseExpiresAt := row.leaseExpiresAt, previous := row.previous }
  saveOwnership s o :=
    -- the upsert sets the ownership columns and leaves the last inbound message alone
    let stored := s.conversations o.conversationRef
    let row : ConversationRow :=
      { owner := o.owner, since := o.since, leaseExpiresAt := o.leaseExpiresAt,
        previous := o.previous, lastInboundAt := stored.bind ConversationRow.lastInboundAt }
    { s with conversations := Function.update s.conversations o.conversationRef (some row) }
  touchInbound s ref moment :=
    let row : ConversationRow :=
      match s.conversations ref with
      | none => { owner := .released, since := moment, lastInboundAt := some moment }
      | some row => { row with lastInboundAt := some moment }
    { s with conversations := Function.update s.conversations ref (some row) }
  lastInboundAt s ref := (s.conversations ref).bind ConversationRow.lastInboundAt

end PgConversations

/-! ## Either of them -/

/-- The store a deployment is configured with. -/
inductive StorageBackend
  | memory | postgres
  deriving DecidableEq, Repr

/-- What it stores conversations in. -/
abbrev StorageBackend.Conversations : StorageBackend → Type
  | .memory => InMemoryConversations
  | .postgres => PgConversations

instance : (backend : StorageBackend) → ConversationRepository backend.Conversations
  | .memory => inferInstanceAs (ConversationRepository InMemoryConversations)
  | .postgres => inferInstanceAs (ConversationRepository PgConversations)

section Inbound

variable {backend : StorageBackend} (s : backend.Conversations) (ref : String)

/-- Storing a transition leaves the moment of the last inbound message alone. -/
theorem lastInboundAt_saveTransition (result : TransitionResult) (now : Time) (facts : Facts) :
    ConversationRepository.lastInboundAt
        (ConversationRepository.saveTransition s result now facts).2 ref =
      ConversationRepository.lastInboundAt s ref := by
  cases backend with
  | memory =>
    simp only [ConversationRepository.saveTransition, InMemoryConversations.saveTransition]
    split <;> rfl
  | postgres =>
    simp only [ConversationRepository.saveTransition, PgConversations.saveTransition]
    split <;> rfl

/-- So does storing who owns a conversation, also where this creates the row. -/
theorem lastInboundAt_saveOwnership (o : Ownership) :
    ConversationRepository.lastInboundAt (ConversationRepository.saveOwnership s o) ref =
      ConversationRepository.lastInboundAt s ref := by
  cases backend with
  | memory => rfl
  | postgres =>
    simp only [ConversationRepository.saveOwnership, ConversationRepository.lastInboundAt,
      Function.update_apply]
    split
    · rename_i href
      rw [href]
      rfl
    · rfl

end Inbound

section Writing

variable {backend : StorageBackend} {s : backend.Conversations} {result : TransitionResult}
  {now : Time} {facts : Facts}

/-- What a write that was not refused leaves. -/
structure Written {C : Type} [ConversationRepository C] (s s' : C) (result : TransitionResult)
    (snapshot : StateSnapshot) : Prop where
  state : (ConversationRepository.load s' result.conversationRef).state = result.toState
  version : (ConversationRepository.load s' result.conversationRef).version =
    (ConversationRepository.load s result.conversationRef).version + 1
  ref : (ConversationRepository.load s' result.conversationRef).conversationRef =
    result.conversationRef
  answer : snapshot.version =
    (ConversationRepository.load s' result.conversationRef).version

/-- **What writing does**: it is refused, and nothing happens, or it is written. What names the
stored version, which is not that of a new conversation, is written. -/
theorem saveTransition_cases :
    (∃ c, (ConversationRepository.saveTransition s result now facts) = (.error c, s) ∧
      (0 < result.expectedVersion → result.expectedVersion ≠
        (ConversationRepository.load s result.conversationRef).version)) ∨
    ∃ snapshot s', ConversationRepository.saveTransition s result now facts = (.ok snapshot, s') ∧
      Written s s' result snapshot := by
  cases backend with
  | memory =>
    change (∃ c, InMemoryConversations.saveTransition s result now facts = (.error c, s) ∧ _) ∨
      ∃ snapshot s', InMemoryConversations.saveTransition s result now facts = (.ok snapshot, s') ∧ _
    rw [InMemoryConversations.saveTransition]
    by_cases hv : (InMemoryConversations.load s result.conversationRef).version =
        result.expectedVersion
    · refine .inr ⟨_, _, if_neg (not_not.mpr hv), ?_⟩
      have hload : (s.write result now facts).load result.conversationRef =
          InMemoryConversations.updated (s.load result.conversationRef) result now facts := by
        simp [InMemoryConversations.load, InMemoryConversations.write]
      exact ⟨congrArg _ hload, congrArg _ hload, congrArg _ hload, (congrArg _ hload).symm⟩
    · exact .inl ⟨_, if_pos hv, fun _ heq => hv heq.symm⟩
  | postgres =>
    change (∃ c, PgConversations.saveTransition s result now facts = (.error c, s) ∧ _) ∨
      ∃ snapshot s', PgConversations.saveTransition s result now facts = (.ok snapshot, s') ∧ _
    rw [PgConversations.saveTransition]
    cases hrow : PgConversations.rowAfter s result now facts with
    | none =>
      refine .inl ⟨_, rfl, fun hpos heq => ?_⟩
      change result.expectedVersion = (PgConversations.load s result.conversationRef).version at heq
      rw [PgConversations.load] at heq
      rw [PgConversations.rowAfter] at hrow
      cases hstored : s.conversationState result.conversationRef with
      | none =>
        rw [hstored] at heq
        exact absurd heq hpos.ne'
      | some row =>
        rw [hstored] at heq hrow
        dsimp only at heq hrow
        have hmatch : (decide (result.expectedVersion ≠ 0) &&
            decide (row.version = result.expectedVersion)) = true := by
          rw [Bool.and_eq_true, decide_eq_true_eq, decide_eq_true_eq]
          exact ⟨hpos.ne', heq.symm⟩
        rw [if_pos hmatch] at hrow
        cases hrow
    | some row =>
      refine .inr ⟨_, _, rfl, ?_⟩
      have hversion : row.version =
          (PgConversations.load s result.conversationRef).version + 1 ∧
          row.state = result.toState := by
        rw [PgConversations.load]
        rw [PgConversations.rowAfter] at hrow
        cases hstored : s.conversationState result.conversationRef with
        | none =>
          rw [hstored] at hrow
          dsimp only at hrow
          split at hrow
          · cases hrow
            exact ⟨rfl, rfl⟩
          · cases hrow
        | some stored =>
          rw [hstored] at hrow
          dsimp only at hrow
          split at hrow
          · cases hrow
            exact ⟨rfl, rfl⟩
          · cases hrow
      have hload : PgConversations.load
          { s with
            conversationState := Function.update s.conversationState result.conversationRef (some row)
            stateTransitions := s.stateTransitions ++
              [(result.conversationRef, result.entry row.version now)] } result.conversationRef =
          { conversationRef := result.conversationRef, state := row.state, version := row.version,
            demoId := row.demoId, updatedAt := some row.updatedAt, facts := row.facts } := by
        simp [PgConversations.load]
      refine ⟨?_, ?_, congrArg _ hload, ?_⟩
      · exact (congrArg StateSnapshot.state hload).trans hversion.2
      · exact (congrArg StateSnapshot.version hload).trans hversion.1
      · exact (congrArg StateSnapshot.version hload).symm

/-- Storing who owns a conversation leaves its state alone. -/
theorem load_saveOwnership (s : backend.Conversations) (o : Ownership) (ref : String) :
    ConversationRepository.load (ConversationRepository.saveOwnership s o) ref =
      ConversationRepository.load s ref := by
  cases backend with
  | memory => rfl
  | postgres => rfl

end Writing

end NxTutors.DemoAgent
