import NxTutors.DemoAgent.Transitions

/-!
# The state machine

`fire` takes a snapshot and an event and says what should happen, or refuses. It is pure:
persistence, locking and command execution belong to the orchestrator. The order of its
checks is part of its meaning: a terminal state accepts nothing; then the table is
consulted; then the actor is authorised; then the guard sees the facts.

`fire_eq_ok` is the inversion lemma everything else uses: a move that is granted is a row
of the table, from one of its sources, by one of its actors.
-/

namespace NxTutors.DemoAgent

/-- The persisted state of one conversation, as the machine sees it. -/
structure StateSnapshot where
  conversationRef : String
  state : DemoState := .new
  /-- the optimistic lock: every successful write increments it -/
  version : Nat := 0
  demoId : Value := .none
  updatedAt : Option Time := none
  /-- the facts guards read -/
  facts : Facts := Facts.empty

/-- What the orchestrator must now do. Advisory until it is persisted. -/
structure TransitionResult where
  conversationRef : String
  fromState : DemoState
  toState : DemoState
  trigger : Trigger
  actor : Actor
  command : Command
  compensation : Command
  reason : String
  /-- the version the write must assert -/
  expectedVersion : Nat
  deriving DecidableEq, Repr

/-- The move is not permitted. -/
structure TransitionRejected where
  reason : String
  state : DemoState
  trigger : Trigger
  deriving DecidableEq, Repr

/-- Two independent checks, both required: a trigger forbidden for users is refused to a
user whatever the row says, and the actor must be one of the row's. -/
def authorise (transition : Transition) (actor : Actor) (state : DemoState)
    (trigger : Trigger) : Except TransitionRejected Unit :=
  if actor = .user ∧ trigger ∈ USER_FORBIDDEN then
    .error ⟨"trigger_forbidden_for_user", state, trigger⟩
  else if actor ∉ transition.actors then
    .error ⟨"actor_not_permitted:" ++ actor.value, state, trigger⟩
  else .ok ()

/-- What the guard of a row has against the facts, if anything. -/
def Transition.refusal (transition : Transition) (ctx : GuardContext) : Option String :=
  match transition.guard with
  | none => none
  | some guard => guard ctx

/-- What a granted move asks for. -/
def Transition.result (transition : Transition) (snapshot : StateSnapshot)
    (trigger : Trigger) (actor : Actor) : TransitionResult where
  conversationRef := snapshot.conversationRef
  fromState := snapshot.state
  toState := transition.target
  trigger := trigger
  actor := actor
  command := transition.command
  compensation := transition.compensation
  reason := if transition.reason ≠ "" then transition.reason else trigger.value
  expectedVersion := snapshot.version

/-- Evaluate one event. -/
def fire (snapshot : StateSnapshot) (trigger : Trigger) (actor : Actor) (facts : Facts) :
    Except TransitionRejected TransitionResult :=
  if isTerminal snapshot.state then
    .error ⟨"conversation_is_terminal", snapshot.state, trigger⟩
  else
    match lookup snapshot.state trigger with
    | none => .error ⟨"illegal_transition", snapshot.state, trigger⟩
    | some transition =>
      match authorise transition actor snapshot.state trigger with
      | .error e => .error e
      | .ok () =>
        match transition.refusal ⟨snapshot.state, actor, snapshot.facts.merge facts⟩ with
        | some refusal => .error ⟨refusal, snapshot.state, trigger⟩
        | none => .ok (transition.result snapshot trigger actor)

/-- The triggers this actor could fire from here, guards ignored. -/
def available (snapshot : StateSnapshot) (actor : Actor) : List Trigger :=
  (triggersFrom snapshot.state).filter fun trigger =>
    match lookup snapshot.state trigger with
    | none => false
    | some transition =>
      match authorise transition actor snapshot.state trigger with
      | .error _ => false
      | .ok () => true

section Lemmas

variable {snapshot : StateSnapshot} {trigger : Trigger} {actor : Actor} {facts : Facts}

/-- An actor who is authorised is one of the row's actors. -/
theorem authorise_eq_ok {row : Transition} {state : DemoState}
    (h : authorise row actor state trigger = .ok ()) : actor ∈ row.actors := by
  unfold authorise at h
  split at h
  · cases h
  · split at h
    · cases h
    · rename_i hmem
      exact not_not.mp hmem

/-- **What a granted move is.** The state is not terminal, the row looked up is in the
table, its actors include the one who asked, its guard has nothing against the facts, and
the result is the row's. -/
theorem fire_eq_ok {result : TransitionResult}
    (h : fire snapshot trigger actor facts = .ok result) :
    ∃ row, lookup snapshot.state trigger = some row ∧ isTerminal snapshot.state = false ∧
      authorise row actor snapshot.state trigger = .ok () ∧
      row.refusal ⟨snapshot.state, actor, snapshot.facts.merge facts⟩ = none ∧
      result = row.result snapshot trigger actor := by
  unfold fire at h
  split at h
  · cases h
  · rename_i hterm
    split at h
    · cases h
    · rename_i row hrow
      split at h
      · cases h
      · rename_i hauth
        split at h
        · cases h
        · rename_i hguard
          exact ⟨row, hrow, by simpa using hterm, hauth, hguard, by cases h; rfl⟩

/-- The guard of the row of its trigger has nothing against a granted move. -/
theorem fire_guard {result : TransitionResult}
    (h : fire snapshot trigger actor facts = .ok result) {row : Transition}
    (hrow : row ∈ TRANSITIONS) (htrigger : row.trigger = trigger) :
    row.refusal ⟨snapshot.state, actor, snapshot.facts.merge facts⟩ = none ∧
      result.trigger = trigger := by
  obtain ⟨row', hlookup, _, _, hguard, rfl⟩ := fire_eq_ok h
  obtain ⟨hmem, _, htrigger'⟩ := lookup_eq_some hlookup
  obtain rfl := row_unique hrow hmem (htrigger.trans htrigger'.symm)
  exact ⟨hguard, rfl⟩

/-- A granted move is a row of the table, from one of its sources by one of its actors. -/
theorem fire_lawful {result : TransitionResult}
    (h : fire snapshot trigger actor facts = .ok result) :
    ∃ row ∈ TRANSITIONS, snapshot.state ∈ row.sources ∧ row.trigger = trigger ∧
      actor ∈ row.actors ∧ result = row.result snapshot trigger actor := by
  obtain ⟨row, hrow, _, hauth, _, hres⟩ := fire_eq_ok h
  obtain ⟨hmem, hsrc, htrig⟩ := lookup_eq_some hrow
  exact ⟨row, hmem, hsrc, htrig, authorise_eq_ok hauth, hres⟩

theorem mem_available_iff : trigger ∈ available snapshot actor ↔
    ∃ row, lookup snapshot.state trigger = some row ∧
      authorise row actor snapshot.state trigger = .ok () := by
  have hall : trigger ∈ Trigger.all := by cases trigger <;> decide
  simp only [available, triggersFrom, List.mem_filter, hall, true_and]
  cases hl : lookup snapshot.state trigger with
  | none => simp
  | some row =>
    cases ha : authorise row actor snapshot.state trigger with
    | error e => simp [ha]
    | ok u => simp [ha]

/-- Only an available trigger is granted. -/
theorem mem_available_of_fire {result : TransitionResult}
    (h : fire snapshot trigger actor facts = .ok result) :
    trigger ∈ available snapshot actor := by
  obtain ⟨row, hrow, _, hauth, _, _⟩ := fire_eq_ok h
  exact mem_available_iff.mpr ⟨row, hrow, hauth⟩

end Lemmas

end NxTutors.DemoAgent
