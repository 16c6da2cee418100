import NxTutors.DemoAgent.Records
import NxTutors.Effect.Answering
import NxTutors.Text.Json
import NxTutors.Text.Strings

/-!
# Batches of capability events

A worker of a capability is handed a batch of records. It reads each of them, gives it to the
handler of the capability, and classifies what the handler raises: some failures are worth another
attempt, some need a person, and of the rest nothing is reported. What is reported is delivered
again, and what is not is deleted from the queue.

The classes, and what becomes of each, are one taxonomy for the whole agent. A record that cannot be
read, one whose failure is final, and one whose attempts are used up are not reported, and end
nowhere; and a case that cannot be opened ends the whole batch. `batch_ends_iff` says that nothing
else goes wrong.
-/

namespace NxTutors.DemoAgent

open Effect
open Text (Json)

/-! ## The taxonomy of failures -/

/-- What kind of failure this is. -/
inductive ErrorClass
  | validation | authentication | authorization | conflict | duplicate | rateLimit | timeout
  | transientProvider | permanentProvider | databaseTransient | businessPolicy | circuitOpen
  | unknown
  deriving DecidableEq, Repr

namespace ErrorClass

def value : ErrorClass → String
  | validation => "validation"
  | authentication => "authentication"
  | authorization => "authorization"
  | conflict => "conflict"
  | duplicate => "duplicate"
  | rateLimit => "rate_limit"
  | timeout => "timeout"
  | transientProvider => "transient_provider"
  | permanentProvider => "permanent_provider"
  | databaseTransient => "database_transient"
  | businessPolicy => "business_policy"
  | circuitOpen => "circuit_open"
  | unknown => "unknown"

/-- Classes worth retrying. Everything else fails now rather than later. -/
def RETRYABLE : List ErrorClass :=
  [rateLimit, timeout, transientProvider, databaseTransient, circuitOpen, unknown]

/-- Classes that need a person, not another attempt. -/
def NEEDS_HUMAN : List ErrorClass := [conflict, businessPolicy, authorization]

/-- Classes that are already handled. -/
def BENIGN : List ErrorClass := [duplicate]

end ErrorClass

/-- An exception, as far as the taxonomy looks at it. -/
inductive Failure
  | signature | ownership | tutorSelectionRejected | rateLimited | circuitOpen | slotConflict
  | concurrencyConflict | paymentReconciliation | transitionRejected | providerTimeout
  | providerUnavailable
  | providerRejected (statusCode : Option Int)
  | provider (retryable : Bool)
  /-- a `ValueError`, a `TypeError` or a `KeyError` -/
  | invalid
  /-- any other `Exception` -/
  | other (name : String)
  /-- what is raised and no `Exception`, as when a process is told to exit -/
  | exit
  deriving DecidableEq, Repr

/-- The status a provider has rejected a request with. -/
def classifyStatus (statusCode : Option Int) : ErrorClass :=
  let status := statusCode.getD 0
  if status = 401 then .authentication
  else if status = 403 then .authorization
  else if status = 409 then .conflict
  else if status = 429 then .rateLimit
  else if 400 ≤ status ∧ status < 500 then .permanentProvider
  else .transientProvider

/-- Map any exception onto the taxonomy. -/
def classify : Failure → ErrorClass
  | .signature => .authentication
  | .ownership | .tutorSelectionRejected => .authorization
  | .rateLimited => .rateLimit
  | .circuitOpen => .circuitOpen
  | .slotConflict | .concurrencyConflict => .conflict
  | .paymentReconciliation => .validation
  | .transitionRejected => .businessPolicy
  | .providerTimeout => .timeout
  | .providerUnavailable => .transientProvider
  | .providerRejected statusCode => classifyStatus statusCode
  | .provider retryable => if retryable then .transientProvider else .permanentProvider
  | .invalid => .validation
  | .other _ | .exit => .unknown

/-- Where a message ended up. -/
inductive Disposition
  | success | retry | deadLetter | humanReview | terminalFailure
  deriving DecidableEq, Repr

/-- How often something is tried. -/
structure RetryPolicy where
  maxAttempts : Int := 3

def RetryPolicy.shouldRetry (policy : RetryPolicy) (errorClass : ErrorClass) (attempt : Int) :
    Bool := errorClass ∈ ErrorClass.RETRYABLE && attempt < policy.maxAttempts

/-- Where this failure sends the message. -/
def dispositionFor (errorClass : ErrorClass) (attempt : Int) (policy : RetryPolicy) : Disposition :=
  if errorClass ∈ ErrorClass.BENIGN then .success
  else if errorClass ∈ ErrorClass.NEEDS_HUMAN then .humanReview
  else if policy.shouldRetry errorClass attempt then .retry
  else if errorClass ∈ ErrorClass.RETRYABLE then .deadLetter
  else .terminalFailure

/-! ## Records -/

/-- The bounded modules, and the workers of the infrastructure. -/
inductive CapabilityName
  | orchestrator | scheduling | reminders | forecasting | objections | conversion | discounts
  | paidTransition | monitoring | outbound | persistence
  deriving DecidableEq, Repr

namespace CapabilityName

def value : CapabilityName → String
  | orchestrator => "orchestrator"
  | scheduling => "scheduling"
  | reminders => "reminders"
  | forecasting => "forecasting"
  | objections => "objections"
  | conversion => "conversion"
  | discounts => "discounts"
  | paidTransition => "paid_transition"
  | monitoring => "monitoring"
  | outbound => "outbound"
  | persistence => "persistence"

def all : List CapabilityName :=
  [orchestrator, scheduling, reminders, forecasting, objections, conversion, discounts,
    paidTransition, monitoring, outbound, persistence]

end CapabilityName

/-- The events there are. -/
def DomainEvent.all : List DomainEvent :=
  [.demoRequested, .requirementsCompleted, .tutorSelected, .slotHeld, .slotHoldExpired, .scheduled,
    .rescheduled, .cancelled, .studentNoShow, .tutorNoShow, .completed, .objectionsExtracted,
    .forecastUpdated, .followupReady, .discountOffered, .discountEscalated, .paymentRequested,
    .paymentConfirmed, .paymentFailed, .subscriptionActivated, .onboardingRequested,
    .handoffRequested, .handoffAccepted, .handoffFailed, .humanHandoffRaised,
    .underperformanceDetected]

/-- An event as it crosses from one worker to another. -/
structure TypedEvent where
  event : DomainEvent
  capability : CapabilityName
  conversationRef : String
  idempotencyKey : String
  traceId : String := ""
  correlationId : String := ""
  causationId : Json := .null
  payload : Json
  attempt : Int := 1

/-- A record of a queue: how it is identified, and what the parser makes of its body. -/
structure SqsRecord where
  messageId : String
  body : Except Failure Json

/-- What the platform knows: what `int` makes of a value, and which texts are not to be shown. -/
structure Platform where
  int : Json → Except Failure Int
  redact : String → String

/-- `body[key]`. -/
def subscript (body : Json) (key : String) : Except Failure Json :=
  match body with
  | .object _ fields =>
    match fields.lookup key with
    | some value => .ok value
    | none => .error .invalid
  | _ => .error .invalid

/-- The member of an enumeration that has the value. -/
def member {α : Type} (all : List α) (value : α → String) : Json → Except Failure α
  | .string s =>
    match all.find? fun x => value x = s with
    | some x => .ok x
    | none => .error .invalid
  | _ => .error .invalid

/-- The event in the body of a record. -/
def typedEvent (platform : Platform) (body : Json) : Except Failure TypedEvent := do
  let event ← member DomainEvent.all DomainEvent.value (← subscript body "event")
  let capability ← member CapabilityName.all CapabilityName.value (← subscript body "capability")
  let conversationRef ← subscript body "conversation_ref"
  let idempotencyKey ← subscript body "idempotency_key"
  let get (key : String) : Json := (body.get? key).getD .null
  let attempt ← platform.int ((get "attempt").either (.number false "1"))
  pure
    { event, capability, conversationRef := conversationRef.text,
      idempotencyKey := idempotencyKey.text, traceId := (get "trace_id").textOrEmpty,
      correlationId := (get "correlation_id").textOrEmpty, causationId := get "causation_id",
      payload := (get "payload").orDict, attempt }

/-- A record that cannot be read is dropped, not retried. -/
def parse (platform : Platform) (record : SqsRecord) : Except Failure (Option TypedEvent) :=
  match record.body >>= typedEvent platform with
  | .ok event => .ok (some event)
  | .error .invalid => .ok none
  | .error failure => .error failure

/-! ## The worker -/

/-- What an operator is shown of an event that could not be processed. -/
structure HandoffPacket where
  caseId : String
  conversationRef : String
  trigger : String := "poison_event"
  state : DemoState
  problem : String
  attempted : List String

/-- What a worker calls: the handler of its capability, and what it takes to open a case. -/
inductive WorkerOp
  | handle (event : TypedEvent)
  | load (conversationRef : String)
  | openHumanCase (packet : HandoffPacket)

/-- What each call answers. -/
def WorkerOp.Res : WorkerOp → Type
  | .handle _ => Unit
  | .load _ => DemoState
  | .openHumanCase _ => Unit

/-- The interface of a worker. -/
abbrev workerPorts : Sig := ⟨WorkerOp, WorkerOp.Res⟩

/-- A program of a worker. -/
abbrev Work (α : Type) : Type := Prog workerPorts Failure α

/-- Open a case for a failure that no retry will fix. -/
def raiseCase (platform : Platform) (event : TypedEvent) (reason : String) : Work Unit := do
  let state : DemoState ← Prog.perform (S := workerPorts) (.load event.conversationRef)
  Prog.perform (S := workerPorts) (.openHumanCase
    { caseId := "hc_" ++ Text.take event.idempotencyKey 16,
      conversationRef := event.conversationRef, state,
      problem := Text.take
        (platform.redact (event.event.value ++ " could not be processed: " ++ reason)) 400,
      attempted := [Text.take (platform.redact (toString event.attempt ++ " attempt(s)")) 200] })

/-- What becomes of a record whose handler has raised: the identifiers that are reported. -/
def dispose (platform : Platform) (policy : RetryPolicy) (messageId : String) (event : TypedEvent)
    (failure : Failure) : Work (List String) :=
  match failure with
  | .exit => throw .exit
  | failure =>
    match dispositionFor (classify failure) event.attempt policy with
    | .retry => pure [messageId]
    | .humanReview => do
      raiseCase platform event (classify failure).value
      pure []
    | _ => pure []

/-- One record: the identifiers that are reported for it. -/
def batchOne (platform : Platform) (policy : RetryPolicy) (record : SqsRecord) :
    Work (List String) :=
  match parse platform record with
  | .error failure => throw failure
  | .ok none => pure []
  | .ok (some event) =>
    (Prog.perform (S := workerPorts) (.handle event) >>= fun _ => pure []).tryCatch
      (dispose platform policy record.messageId event)

/-- `_batch`: the identifiers of the records that are delivered again. -/
def batch (platform : Platform) (policy : RetryPolicy) : List SqsRecord → Work (List String)
  | [] => pure []
  | record :: rest => do
    let failures ← batchOne platform policy record
    let others ← batch platform policy rest
    pure (failures ++ others)

/-! ## What becomes of a record -/

/-- The setting in which a handler, and what it takes to open a case, may return or raise. -/
def anything : Setting workerPorts Failure Unit := answering fun _ _ => True

/-- The handler of a record has returned. -/
def Returned (calls : History workerPorts Failure) : Prop :=
  ∃ event, ⟨.handle event, .ok ()⟩ ∈ calls

/-- A case has been opened for it. -/
def CaseOpened (calls : History workerPorts Failure) : Prop :=
  ∃ packet, ⟨.openHumanCase packet, .ok ()⟩ ∈ calls

section Ends

variable {platform : Platform} {policy : RetryPolicy} {record : SqsRecord}
  {calls : History workerPorts Failure} {out : Except Failure (List String)}
  {a : Unit × History workerPorts Failure}

/-- **How a record ends**: the calls that are made for it, and what is reported, or raised. -/
inductive Ends (platform : Platform) (policy : RetryPolicy) (record : SqsRecord) :
    History workerPorts Failure → Except Failure (List String) → Prop
  | unread {failure : Failure} (hparse : parse platform record = .error failure) :
    Ends platform policy record [] (.error failure)
  | dropped (hparse : parse platform record = .ok none) : Ends platform policy record [] (.ok [])
  | returned {event : TypedEvent} (hparse : parse platform record = .ok (some event)) :
    Ends platform policy record [⟨.handle event, .ok ()⟩] (.ok [])
  | exited {event : TypedEvent} (hparse : parse platform record = .ok (some event)) :
    Ends platform policy record [⟨.handle event, .error .exit⟩] (.error .exit)
  | retried {event : TypedEvent} {failure : Failure}
      (hparse : parse platform record = .ok (some event)) (hexit : failure ≠ .exit)
      (hretry : dispositionFor (classify failure) event.attempt policy = .retry) :
    Ends platform policy record [⟨.handle event, .error failure⟩] (.ok [record.messageId])
  | deleted {event : TypedEvent} {failure : Failure}
      (hparse : parse platform record = .ok (some event)) (hexit : failure ≠ .exit)
      (hretry : dispositionFor (classify failure) event.attempt policy ≠ .retry)
      (hhuman : dispositionFor (classify failure) event.attempt policy ≠ .humanReview) :
    Ends platform policy record [⟨.handle event, .error failure⟩] (.ok [])
  | opened {event : TypedEvent} {failure : Failure} {state : DemoState} {packet : HandoffPacket}
      (hparse : parse platform record = .ok (some event)) (hexit : failure ≠ .exit)
      (hhuman : dispositionFor (classify failure) event.attempt policy = .humanReview) :
    Ends platform policy record [⟨.handle event, .error failure⟩,
      ⟨.load event.conversationRef, .ok state⟩, ⟨.openHumanCase packet, .ok ()⟩] (.ok [])
  | unloaded {event : TypedEvent} {failure failure' : Failure}
      (hparse : parse platform record = .ok (some event)) (hexit : failure ≠ .exit)
      (hhuman : dispositionFor (classify failure) event.attempt policy = .humanReview) :
    Ends platform policy record [⟨.handle event, .error failure⟩,
      ⟨.load event.conversationRef, .error failure'⟩] (.error failure')
  | unopened {event : TypedEvent} {failure failure' : Failure} {state : DemoState}
      {packet : HandoffPacket} (hparse : parse platform record = .ok (some event))
      (hexit : failure ≠ .exit)
      (hhuman : dispositionFor (classify failure) event.attempt policy = .humanReview) :
    Ends platform policy record [⟨.handle event, .error failure⟩,
      ⟨.load event.conversationRef, .ok state⟩, ⟨.openHumanCase packet, .error failure'⟩]
      (.error failure')

/-- Opening a case loads the conversation, and opens it, unless one of these raises. -/
theorem raiseCase_meets {event : TypedEvent} {reason : String} :
    Meets anything.logged (fun _ _ => True) (fun out b =>
      (out = .ok () ∧ ∃ state packet, b = ((), a.2 ++ [⟨.load event.conversationRef, .ok state⟩,
        ⟨.openHumanCase packet, .ok ()⟩])) ∨
      ∃ failure, out = .error failure ∧
        (b = ((), a.2 ++ [⟨.load event.conversationRef, .error failure⟩]) ∨
          ∃ state packet, b = ((), a.2 ++ [⟨.load event.conversationRef, .ok state⟩,
            ⟨.openHumanCase packet, .error failure⟩])))
      (raiseCase platform event reason) a := by
  refine meets_answering_bind (S := workerPorts) (o := WorkerOp.load event.conversationRef)
    (fun (state : DemoState) _ => ?_) fun failure _ => .inr ⟨failure, rfl, .inl rfl⟩
  refine meets_answering fun r _ => ?_
  rw [List.append_assoc]
  cases r with
  | ok => exact .inl ⟨rfl, state, _, rfl⟩
  | error failure => exact .inr ⟨failure, rfl, .inr ⟨state, _, rfl⟩⟩

/-- What comes after a handler that has raised. -/
theorem dispose_meets {event : TypedEvent} {failure : Failure}
    (hparse : parse platform record = .ok (some event)) : Meets anything.logged (fun _ _ => True)
      (fun out b => ∃ calls, Ends platform policy record calls out ∧ b = ((), a.2 ++ calls))
      (dispose platform policy record.messageId event failure)
      ((), a.2 ++ [⟨.handle event, .error failure⟩]) := by
  by_cases hexit : failure = .exit
  · subst hexit
    exact ⟨_, .exited hparse, rfl⟩
  have hdispose : dispose platform policy record.messageId event failure =
      match dispositionFor (classify failure) event.attempt policy with
      | .retry => pure [record.messageId]
      | .humanReview => raiseCase platform event (classify failure).value >>= fun _ => pure []
      | _ => pure [] := by
    cases failure <;> first | rfl | exact absurd rfl hexit
  rw [hdispose]
  split
  · rename_i hretry
    exact ⟨_, .retried hparse hexit hretry, rfl⟩
  · rename_i hhuman
    refine raiseCase_meets.bind (fun _ b h => ?_) fun failure' b h => ?_
    · rcases h with ⟨-, state, packet, rfl⟩ | ⟨failure', heq, -⟩
      · exact ⟨_, .opened hparse hexit hhuman, by rw [List.append_assoc]; rfl⟩
      · cases heq
    · rcases h with ⟨heq, -⟩ | ⟨failure'', heq, rfl | ⟨state, packet, rfl⟩⟩
      · cases heq
      · cases heq
        exact ⟨_, .unloaded hparse hexit hhuman, by rw [List.append_assoc]; rfl⟩
      · cases heq
        exact ⟨_, .unopened hparse hexit hhuman, by rw [List.append_assoc]; rfl⟩
  · rename_i hretry hhuman
    exact ⟨_, .deleted hparse hexit hretry hhuman, rfl⟩

/-- **One record** ends. -/
theorem batchOne_meets : Meets anything.logged (fun _ _ => True)
    (fun out b => ∃ calls, Ends platform policy record calls out ∧ b = ((), a.2 ++ calls))
    (batchOne platform policy record) a := by
  unfold batchOne
  split
  · rename_i failure hparse
    exact ⟨[], .unread hparse, by rw [List.append_nil]⟩
  · rename_i hparse
    exact ⟨[], .dropped hparse, by rw [List.append_nil]⟩
  · rename_i event hparse
    refine Meets.tryCatch (M := fun out b => (out = .ok [] ∧
        b = ((), a.2 ++ [⟨.handle event, .ok ()⟩])) ∨
      ∃ failure, out = .error failure ∧ b = ((), a.2 ++ [⟨.handle event, .error failure⟩]))
      (meets_answering_bind (fun _ _ => .inl ⟨rfl, rfl⟩)
        fun failure _ => .inr ⟨failure, rfl, rfl⟩) ?_ ?_
    · rintro ids b (⟨heq, rfl⟩ | ⟨failure, heq, -⟩)
      · cases heq
        exact ⟨_, .returned hparse, rfl⟩
      · cases heq
    · rintro failure b (⟨heq, -⟩ | ⟨failure', heq, rfl⟩)
      · cases heq
      · cases heq
        exact dispose_meets hparse

end Ends

/-! ## Batches -/

/-- **How a batch ends**: each record after the one before, until something is raised. The calls are
listed record by record. -/
inductive Batched (platform : Platform) (policy : RetryPolicy) :
    List SqsRecord → List (History workerPorts Failure) → Except Failure (List String) → Prop
  | nil : Batched platform policy [] [] (.ok [])
  | cons {record : SqsRecord} {rest : List SqsRecord} {calls : History workerPorts Failure}
      {parts : List (History workerPorts Failure)} {ids others : List String}
      (hone : Ends platform policy record calls (.ok ids))
      (hrest : Batched platform policy rest parts (.ok others)) :
    Batched platform policy (record :: rest) (calls :: parts) (.ok (ids ++ others))
  | later {record : SqsRecord} {rest : List SqsRecord} {calls : History workerPorts Failure}
      {parts : List (History workerPorts Failure)} {ids : List String} {failure : Failure}
      (hone : Ends platform policy record calls (.ok ids))
      (hrest : Batched platform policy rest parts (.error failure)) :
    Batched platform policy (record :: rest) (calls :: parts) (.error failure)
  | raised {record : SqsRecord} {rest : List SqsRecord} {calls : History workerPorts Failure}
      {failure : Failure} (hone : Ends platform policy record calls (.error failure)) :
    Batched platform policy (record :: rest) (calls :: rest.map fun _ => []) (.error failure)

/-- The record was read, and its handler has returned, or has raised what is worth another attempt,
or what needs a person, and the case was opened. -/
def Manageable (platform : Platform) (policy : RetryPolicy) (record : SqsRecord)
    (calls : History workerPorts Failure) : Prop :=
  ∃ event, parse platform record = .ok (some event) ∧ (Returned calls ∨
    ∃ failure, ⟨.handle event, .error failure⟩ ∈ calls ∧ failure ≠ .exit ∧
      (dispositionFor (classify failure) event.attempt policy = .retry ∨
        dispositionFor (classify failure) event.attempt policy = .humanReview ∧ CaseOpened calls))

/-- What is delivered again: what is reported, or, if the call raises, the whole batch. -/
def redelivered (records : List SqsRecord) : Except Failure (List String) → List String
  | .ok failures => failures
  | .error _ => records.map SqsRecord.messageId

/-- **Every record ends somewhere and alone**: the call returns, the handler of each record has
returned, or the record is delivered again, or a case has been opened for it, and no record whose
handler has returned is delivered again. -/
structure EndsAlone (records : List SqsRecord) (parts : List (History workerPorts Failure))
    (out : Except Failure (List String)) : Prop where
  returns : ∃ failures, out = .ok failures
  somewhere : ∀ x ∈ records.zip parts,
    Returned x.2 ∨ x.1.messageId ∈ redelivered records out ∨ CaseOpened x.2
  alone : ∀ x ∈ records.zip parts, Returned x.2 → x.1.messageId ∉ redelivered records out

section Batches

variable {platform : Platform} {policy : RetryPolicy} {record : SqsRecord}
  {records : List SqsRecord} {calls : History workerPorts Failure}
  {parts : List (History workerPorts Failure)} {out : Except Failure (List String)}
  {a : Unit × History workerPorts Failure}

/-- **A batch** ends, record by record. -/
theorem batch_meets : Meets anything.logged (fun _ _ => True)
    (fun out b => ∃ parts, Batched platform policy records parts out ∧
      b = ((), a.2 ++ parts.flatten)) (batch platform policy records) a := by
  induction records generalizing a with
  | nil => exact ⟨[], .nil, by rw [List.flatten_nil, List.append_nil]⟩
  | cons record rest ih =>
    refine batchOne_meets.bind (fun ids b h => ?_) fun failure b h => ?_
    · obtain ⟨calls, hone, rfl⟩ := h
      refine ih.bind (fun others b h => ?_) fun failure b h => ?_
      · obtain ⟨parts, hrest, rfl⟩ := h
        exact ⟨_, .cons hone hrest, by rw [List.flatten_cons, List.append_assoc]⟩
      · obtain ⟨parts, hrest, rfl⟩ := h
        exact ⟨_, .later hone hrest, by rw [List.flatten_cons, List.append_assoc]⟩
    · obtain ⟨calls, hone, rfl⟩ := h
      have hnone : (rest.map fun _ => ([] : History workerPorts Failure)).flatten = [] := by simp
      exact ⟨_, .raised hone, by rw [List.flatten_cons, hnone, List.append_nil]⟩

/-- A record is manageable exactly if its part of the call does not raise, and it ends somewhere. -/
theorem Ends.manageable_iff (h : Ends platform policy record calls out) :
    Manageable platform policy record calls ↔
      ∃ ids, out = .ok ids ∧ (Returned calls ∨ record.messageId ∈ ids ∨ CaseOpened calls) := by
  cases h with
  | unread hparse => simp [Manageable, Returned, CaseOpened, hparse]
  | dropped hparse => simp [Manageable, Returned, CaseOpened, hparse]
  | returned hparse => simp [Manageable, Returned, CaseOpened, hparse]
  | exited hparse => simp [Manageable, Returned, CaseOpened, hparse]
  | retried hparse hexit hretry => simp [Manageable, Returned, CaseOpened, hparse, hexit, hretry]
  | deleted hparse hexit hretry hhuman =>
    simp [Manageable, Returned, CaseOpened, hparse, hexit, hretry]
  | opened hparse hexit hhuman => simp [Manageable, Returned, CaseOpened, hparse, hexit, hhuman]
  | unloaded hparse hexit hhuman => simp [Manageable, Returned, CaseOpened, hparse, hexit, hhuman]
  | unopened hparse hexit hhuman => simp [Manageable, Returned, CaseOpened, hparse, hexit, hhuman]

/-- What is reported for a record is the record, and its handler has not returned. -/
theorem Ends.of_mem {ids : List String} (h : Ends platform policy record calls (.ok ids))
    {id : String} (hid : id ∈ ids) : id = record.messageId ∧ ¬ Returned calls := by
  cases h with
  | retried => exact ⟨List.mem_singleton.mp hid, by simp [Returned]⟩
  | dropped | returned | deleted | opened => cases hid

/-- What is reported for a batch are records of it. -/
theorem Batched.of_mem {failures : List String}
    (h : Batched platform policy records parts (.ok failures)) {id : String} (hid : id ∈ failures) :
    id ∈ records.map SqsRecord.messageId := by
  generalize hout : Except.ok failures = out at h
  induction h generalizing failures with
  | nil =>
    cases hout
    cases hid
  | cons hone hrest ih =>
    cases hout
    rcases List.mem_append.mp hid with hid | hid
    · exact List.mem_cons.mpr (.inl (hone.of_mem hid).1)
    · exact List.mem_cons_of_mem _ (ih hid rfl)
  | later => cases hout
  | raised => cases hout

/-- In a call that returns, every record has ended, and it is reported only if it is reported for
itself. -/
theorem Batched.ends {failures : List String}
    (h : Batched platform policy records parts (.ok failures))
    (hids : (records.map SqsRecord.messageId).Nodup) {x : SqsRecord × History workerPorts Failure}
    (hx : x ∈ records.zip parts) : ∃ ids, Ends platform policy x.1 x.2 (.ok ids) ∧
      (x.1.messageId ∈ failures ↔ x.1.messageId ∈ ids) := by
  generalize hout : Except.ok failures = out at h
  induction h generalizing failures with
  | nil => cases hx
  | @cons record rest calls parts ids others hone hrest ih =>
    cases hout
    obtain ⟨hfresh, hrest_ids⟩ := List.nodup_cons.mp hids
    rcases List.mem_cons.mp hx with rfl | hx
    · refine ⟨ids, hone, fun hmem => ?_, fun hmem => List.mem_append_left _ hmem⟩
      exact (List.mem_append.mp hmem).resolve_right fun hother => hfresh (hrest.of_mem hother)
    · obtain ⟨ids', hends, hiff⟩ := ih hrest_ids hx rfl
      refine ⟨ids', hends, fun hmem => ?_, fun hmem => List.mem_append_right _ (hiff.mpr hmem)⟩
      rcases List.mem_append.mp hmem with hmem | hmem
      · have hsame := (hone.of_mem hmem).1
        exact absurd (hsame ▸ List.mem_map_of_mem (List.of_mem_zip hx).1) hfresh
      · exact hiff.mp hmem
  | later => cases hout
  | raised => cases hout

/-- A call that raises does so at one of its records. -/
theorem Batched.raises {failure : Failure}
    (h : Batched platform policy records parts (.error failure)) :
    ∃ x ∈ records.zip parts, Ends platform policy x.1 x.2 (.error failure) := by
  generalize hout : Except.error failure = out at h
  induction h with
  | nil => cases hout
  | cons => cases hout
  | @later record rest calls parts ids failure hone hrest ih =>
    obtain ⟨x, hx, hends⟩ := ih hout
    exact ⟨x, List.mem_cons_of_mem _ hx, hends⟩
  | @raised record rest calls failure hone =>
    cases hout
    exact ⟨(record, calls), List.mem_cons_self, hone⟩

/-- **Every record of a batch ends somewhere and alone exactly if each of them is manageable.** -/
theorem batch_ends_iff {log : History workerPorts Failure}
    (hids : (records.map SqsRecord.messageId).Nodup)
    (hrun : Run anything.logged (batch platform policy records) ((), []) out ((), log)) :
    ∃ parts, log = parts.flatten ∧ Batched platform policy records parts out ∧
      (EndsAlone records parts out ↔
        ∀ x ∈ records.zip parts, Manageable platform policy x.1 x.2) := by
  obtain ⟨parts, hbatched, hlog⟩ := batch_meets.run hrun
  refine ⟨parts, congrArg Prod.snd hlog, hbatched, fun h x hx => ?_, fun h => ?_⟩
  · obtain ⟨failures, rfl⟩ := h.returns
    obtain ⟨ids, hends, hreported⟩ := hbatched.ends hids hx
    have hsomewhere := h.somewhere x hx
    rw [redelivered, hreported] at hsomewhere
    exact hends.manageable_iff.mpr ⟨ids, rfl, hsomewhere⟩
  · cases out with
    | error failure =>
      obtain ⟨x, hx, hends⟩ := hbatched.raises
      obtain ⟨ids, heq, -⟩ := hends.manageable_iff.mp (h x hx)
      cases heq
    | ok failures =>
      refine ⟨⟨failures, rfl⟩, fun x hx => ?_, fun x hx hreturned hmem => ?_⟩
      · obtain ⟨ids, hends, hreported⟩ := hbatched.ends hids hx
        obtain ⟨ids', heq, hsomewhere⟩ := hends.manageable_iff.mp (h x hx)
        obtain rfl := Except.ok.inj heq
        rw [redelivered, hreported]
        exact hsomewhere
      · obtain ⟨ids, hends, hreported⟩ := hbatched.ends hids hx
        exact (hends.of_mem (hreported.mp hmem)).2 hreturned

end Batches

/-- A platform that takes every number for a one, and shows every text. -/
def plainPlatform : Platform := ⟨fun _ => .ok 1, id⟩

/-- A record of a demo that was scheduled. -/
def scheduledRecord : SqsRecord where
  messageId := "m1"
  body := .ok (.object "" [("event", .string "demo.scheduled"),
    ("capability", .string "scheduling"), ("conversation_ref", .string "conv"),
    ("idempotency_key", .string "key")])

/-- What is read from it. -/
def scheduledEvent : TypedEvent where
  event := .scheduled
  capability := .scheduling
  conversationRef := "conv"
  idempotencyKey := "key"
  payload := .object "{}" []

theorem parse_scheduledRecord :
    parse plainPlatform scheduledRecord = .ok (some scheduledEvent) := rfl

/-- A record whose handler returns ends there. -/
theorem returned_ends : ∃ parts, Batched plainPlatform {} [scheduledRecord] parts (.ok []) ∧
    EndsAlone [scheduledRecord] parts (.ok []) := by
  have hrun : Run anything.logged (batch plainPlatform {} [scheduledRecord]) ((), []) (.ok [])
      ((), [⟨.handle scheduledEvent, .ok ()⟩]) :=
    run_answering (S := workerPorts) (o := WorkerOp.handle scheduledEvent) (r := .ok ()) trivial
      .ret
  obtain ⟨parts, hlog, hbatched, hiff⟩ := batch_ends_iff (by decide) hrun
  refine ⟨parts, hbatched, hiff.mpr fun x hx => ?_⟩
  have hparts : parts = [[⟨.handle scheduledEvent, .ok ()⟩]] := by
    generalize hids : ([scheduledRecord] : List SqsRecord) = records at hbatched
    generalize hout : (Except.ok [] : Except Failure (List String)) = out at hbatched
    cases hbatched with
    | nil => cases hids
    | cons hone hrest =>
      cases hids
      cases hrest
      rw [hlog, List.flatten_cons, List.flatten_nil, List.append_nil]
    | later => cases hout
    | raised => cases hout
  rw [hparts] at hx
  obtain rfl := List.mem_singleton.mp hx
  exact ⟨scheduledEvent, parse_scheduledRecord, .inl ⟨scheduledEvent, List.mem_singleton_self _⟩⟩

/-- **What a handler finds invalid is lost**: it is not reported, and no case is opened for it. -/
theorem invalid_lost : ∃ parts,
    Run anything.logged (batch plainPlatform {} [scheduledRecord]) ((), []) (.ok [])
      ((), parts.flatten) ∧ ¬ EndsAlone [scheduledRecord] parts (.ok []) := by
  refine ⟨[[⟨.handle scheduledEvent, .error .invalid⟩]],
    run_answering (S := workerPorts) (o := WorkerOp.handle scheduledEvent)
      (r := .error Failure.invalid) trivial .ret,
    fun h => ?_⟩
  rcases h.somewhere _ List.mem_cons_self with ⟨event, hmem⟩ | hmem | ⟨packet, hmem⟩
  · cases List.mem_singleton.mp hmem
  · cases hmem
  · cases List.mem_singleton.mp hmem

end NxTutors.DemoAgent
