import NxTutors.MatchAgent.Explanations
import NxTutors.Effect.Program

/-!
# One turn, end to end

A turn claims the key of its envelope, and whoever has claimed it before has answered it or is
about to. The state of the conversation, the requirement, the decision and the answer are written
by separate calls, in this order, and an exception anywhere gives the claim back, so that the
envelope can be delivered again, to a conversation that may have moved on.
-/

namespace NxTutors.MatchAgent

open Effect Prog

/-! ## The ports -/

/-- What abuse control does with a message that looks like abuse. -/
inductive Enforcement
  | allow | softThrottle | hardThrottle | cooldown | humanReview
  deriving DecidableEq, Repr

/-- A name that may be that of a tutor. -/
structure TutorLookup where
  name : String
  /-- whether the parent asks about the tutor, and does not only name one -/
  wantsSummary : Bool
  deriving DecidableEq, Repr

/-- What the directory knows of a tutor. -/
structure TutorCandidate where
  name : String
  locality : Option String := none
  city : Option String := none
  subjects : List String := []
  feeLabel : Option String := none
  profileLink : Option String := none
  /-- the short description of the tutor -/
  summary : String
  deriving DecidableEq, Repr

inductive Op
  | now
  | isPaused
  | claim (key : String)
  | release (key : String)
  | loadState (conversationId : String)
  | saveState (snapshot : ConversationSnapshot) (expectedVersion : Nat)
  | assessAbuse (conversationRef text : String)
  | findByName (terms : List String)
  | extract (payload : Payload) (conversationId : String) (now : Time)
  | recall (conversationRef traceId : String)
  | loadRequirement (conversationId : String)
  | saveRequirement (requirement : MatchRequirement)
  | search (requirement : MatchRequirement) (now : Time)
  | saveDecision (decision : MatchDecision)
  | enqueue (message : OutboxMessage)

def Op.Res : Op → Type
  | .now => Time
  | .isPaused => Bool
  /- whether the claim is ours -/
  | .claim _ => Bool
  | .release _ => Unit
  | .loadState _ => ConversationSnapshot
  | .saveState _ _ => Unit
  /- what is done about a message that is suspicious -/
  | .assessAbuse _ _ => Option Enforcement
  | .findByName _ => List TutorCandidate
  /- the requirement, and whether the model was down -/
  | .extract _ _ _ => MatchRequirement × Bool
  /- the facts that may be used, or that the memory is down -/
  | .recall _ _ => Option (List (String × String))
  | .loadRequirement _ => Option MatchRequirement
  | .saveRequirement _ => Unit
  | .search _ _ => PipelineRun
  | .saveDecision _ => Unit
  | .enqueue _ => Unit

/-- The calls of a turn. -/
def ports : Sig := ⟨Op, Op.Res⟩

abbrev Turn (α : Type) := Prog ports Fault α

def call (o : Op) : Turn o.Res := perform (S := ports) o

/-! ## The service -/

def THROTTLE_REPLY : String :=
  "I'm still working through your last few messages — give me a moment and " ++
    "I'll come back with tutor suggestions."

def MAX_LOOKUP_RESULTS : Nat := 3

/-- The answer to a selection. -/
def SELECTION_REPLY : String :=
  "Great choice — I'll arrange a demo class and confirm the timing shortly."

/-- A deployment of the service. -/
structure Service where
  speech : Explanation.Speech
  /-- the kinds of personal data in a text -/
  foundPiiKinds : String → List String
  publicBaseUrl : String
  domain : Domain
  /-- the name in a text, if there may be one -/
  detect : String → Option TutorLookup
  /-- the pseudonym of a conversation -/
  conversationHash : String → String
  /-- the deployment has kill switches -/
  switched : Bool
  /-- it has a cache, so that abuse can be seen -/
  cached : Bool
  recordDeeds : Bool
  plain : speech.t.Plain
  conversationHash_le : ∀ c, (conversationHash c).length ≤ 64

namespace Service

/-- The tables of the text operations. -/
def t (s : Service) : Text.Tables := s.speech.t

def rules (s : Service) : OutputGuard.Rules := ⟨s.t, s.foundPiiKinds, s.publicBaseUrl⟩

end Service

structure TurnResult where
  conversationId : String
  state : ConversationState
  reply : Option String
  duplicate : Bool := false
  outcome : Option MatchOutcome := none
  degraded : List String := []
  askedFor : Option String := none
  /-- abuse control shed this turn -/
  throttled : Bool := false
  /-- a kill switch declined it -/
  paused : Bool := false
  deriving DecidableEq, Repr

/-- The call was not answered as a duplicate, not shed and not declined. -/
def TurnResult.served (r : TurnResult) : Bool := !r.duplicate && !r.throttled && !r.paused

namespace TurnService

variable (s : Service)

/-! ### What goes out -/

def guardOutput (message : String) (decision : Option MatchDecision)
    (authorisedFees : List String) : String :=
  (OutputGuard.enforce s.rules message decision authorisedFees).1

/-- The row that carries a reply. -/
def delivery (e : InboundEnvelope) (text : String) : OutboundDelivery where
  kind := if present e.replyTo then .whatsappReply else .callerDeliveredReply
  recipient := e.replyTo
  body := Text.take text MAX_BODY_CHARS
  dedupKey := "reply:" ++ e.dedupKey
  traceId := e.traceId
  conversationRef := s.conversationHash e.conversationId

def replyMessage (e : InboundEnvelope) (text : String) : OutboxMessage :=
  let d := delivery s e text
  { kind := d.kind, conversationId := e.conversationId, payload := .delivery d
    dedupKey := d.dedupKey, traceId := e.traceId }

/-- Hand a reply to the outbox. -/
def enqueueReply (e : InboundEnvelope) (text : String) : Turn Unit :=
  match (delivery s e text).refusal s.t with
  | some reason => .throw (.validation reason)
  | none => call (.enqueue (replyMessage s e text))

/-- The row that carries a deed. None of its fields can be too long. -/
def deedMessage (e : InboundEnvelope) (deedType summary : String) (tutorIds : List String) :
    OutboxMessage :=
  let ref := s.conversationHash e.conversationId
  let key := Text.take ("deed:" ++ deedType ++ ":" ++ e.dedupKey) 128
  let deed : MemoryDeed :=
    { deedType, summary := Text.take summary 500
      entityScope := entityScope ref e.payload.leadId tutorIds
      dedupKey := key, traceId := e.traceId, conversationRef := ref }
  { kind := .memoryDeed, conversationId := e.conversationId, payload := .deed deed
    dedupKey := key, traceId := e.traceId }

/-- Queue a deed. One that is lost degrades the turn and does not fail it. -/
def recordDeed (e : InboundEnvelope) (deedType summary : String) (tutorIds degraded : List String) :
    Turn (List String) :=
  if s.recordDeeds then
    (call (.enqueue (deedMessage s e deedType summary tutorIds)) >>= fun _ =>
      .ret degraded).tryCatch fun _ => .ret (mark degraded "chitragupta")
  else .ret degraded

/-! ### What comes first -/

/-- A switch that cannot be read is no reason to stop. -/
def paused : Turn Bool :=
  if s.switched then (call .isPaused).tryCatch fun _ => .ret false else .ret false

def assessAbuse (e : InboundEnvelope) : Turn (Option Enforcement) :=
  if s.cached && Text.strip s.t e.payload.text ≠ "" then
    (call (.assessAbuse (s.conversationHash e.conversationId) e.payload.text)).tryCatch fun _ =>
      .ret none
  else .ret none

/-- The rungs that shed a turn. -/
def sheds : Option Enforcement → Bool
  | some .hardThrottle => true
  | some .cooldown => true
  | _ => false

/-! ### A question about a tutor -/

/-- One of several tutors of a name. -/
def lookupLines (tutor : TutorCandidate) : List String :=
  let place := if present tutor.locality then tutor.locality else tutor.city
  let subject := ", ".intercalate (tutor.subjects.take 2)
  let detail := " · ".intercalate (([place, some subject].filter present).map (·.getD ""))
  [("*" ++ tutor.name ++ "*") ++ if detail ≠ "" then "\n" ++ detail else ""] ++
    (if present tutor.profileLink then [tutor.profileLink.getD ""] else []) ++ [""]

/-- What is said about the tutors that were found. -/
def lookupReply (lookup : TutorLookup) (found : List TutorCandidate) : String :=
  match found with
  | [tutor] =>
    let tail := if lookup.wantsSummary then
      "\n\nTell me the class and subject and I'll check they're the right fit."
      else "\n\nWant me to check they're free for your class and subject?"
    guardOutput s (tutor.summary ++ tail) none [tutor.feeLabel.getD ""]
  | _ =>
    let lines := ["I found " ++ toString found.length ++ " tutors matching that name:", ""] ++
      (found.take MAX_LOOKUP_RESULTS).flatMap lookupLines ++ ["Which one did you mean?"]
    guardOutput s ("\n".intercalate lines) none []

/-- Answer a question about a tutor, or carry on. -/
def answerTutorLookup (e : InboundEnvelope) : Turn (Option String) :=
  match e.payload with
  | .whatsappTurn turn =>
    match s.detect turn.text with
    | none => .ret none
    | some lookup => do
      let terms := Text.split s.t lookup.name
      let found ← if terms = [] then .ret []
        else (call (.findByName terms)).tryCatch fun _ => .ret []
      .ret (if found = [] then none else some (lookupReply s lookup found))
  | _ => .ret none

/-! ### The requirement of a message -/

/-- What this message says, what is remembered, and what was down. -/
def resolve (e : InboundEnvelope) (now : Time) :
    Turn (MatchRequirement × List (String × String) × List String) :=
  match e.enrichment with
  | some enrichment =>
    if enrichment.supported then
      .ret (enrichment.requirement, enrichment.memoryFacts, enrichment.degraded.foldl mark [])
    else .throw .unsupportedEnrichment
  | none => do
    let (incoming, llmDown) ← call (.extract e.payload e.conversationId now)
    let recalled : Option (List (String × String)) ←
      call (.recall (s.conversationHash e.conversationId) e.traceId)
    let degraded := if llmDown then mark [] "llm" else []
    .ret (incoming, recalled.getD [],
      if recalled.isNone then mark degraded "chitragupta" else degraded)

/-- The stored requirement with what this message adds. -/
def merge (stored : Option MatchRequirement) (merged : MatchRequirement) : MatchRequirement :=
  match stored with
  | some r => r.mergedWith merged
  | none => merged

/-! ### Answering -/

/-- The parent chose a tutor. -/
def handleSelection (e : InboundEnvelope) (snapshot : ConversationSnapshot) : Turn TurnResult := do
  let now ← call .now
  let (moved, legal) := snapshot.tryTransition .parentSelected now e.traceId
  if legal then do
    let _ ← call (.saveState moved snapshot.lockVersion)
    let _ ← recordDeed s e DeedType.CANDIDATE_SELECTED "parent selected a tutor" [] []
    enqueueReply s e SELECTION_REPLY
    .ret { conversationId := e.conversationId, state := moved.state, reply := some SELECTION_REPLY }
  else
    -- a selection where no shortlist was sent: change nothing
    .ret { conversationId := e.conversationId, state := snapshot.state, reply := none }

/-- Something that matters is missing: ask for it. -/
def clarify (e : InboundEnvelope) (expected : Nat) (snapshot : ConversationSnapshot) (now : Time)
    (readiness : Readiness) (degraded : List String) : Turn TurnResult := do
  let snapshot := snapshot.fired .requirementsIncomplete now e.traceId
  let _ ← call (.saveState snapshot expected)
  let question := readiness.nextQuestion
  let text := (question.map NextQuestion.render).getD "Could you tell me a bit more?"
  let reply := guardOutput s text none []
  enqueueReply s e reply
  let summary := (question.map fun q => "asked for " ++ q.field).getD "asked for more detail"
  let degraded ← recordDeed s e DeedType.REQUIREMENT_CAPTURED summary [] degraded
  .ret { conversationId := e.conversationId, state := snapshot.state, reply := some reply
         degraded := asTuple degraded, askedFor := question.map (·.field) }

/-- The deed of an outcome, and its summary. -/
def outcomeDeed (outcome : MatchOutcome) : String × String :=
  let (deed, summary) :=
    if outcome.matched then
      (DeedType.SHORTLIST_GENERATED,
        "shortlisted " ++ toString outcome.decision.shortlist.length ++ " tutors")
    else
      (DeedType.FAILED_NO_CANDIDATES,
        if present outcome.decision.noMatchReason then outcome.decision.noMatchReason.getD ""
        else "no candidates")
  (if outcome.needsHuman then DeedType.HUMAN_HANDOFF_REQUESTED else deed, summary)

/-- The triggers of an outcome, in their order. -/
def outcomeTriggers (outcome : MatchOutcome) : List Trigger :=
  (if outcome.matched then [.shortlistGenerated] else [.noCandidates]) ++
    if outcome.needsHuman then [.humanHandoff]
    else if outcome.matched then [.shortlistDelivered] else []

/-- Nothing that matters is missing: match. -/
def shortlist (e : InboundEnvelope) (expected : Nat) (snapshot : ConversationSnapshot) (now : Time)
    (requirement : MatchRequirement) (degraded : List String) : Turn TurnResult := do
  let snapshot := (snapshot.fired .requirementsComplete now e.traceId).fired .matchStarted now
    e.traceId
  let run ← call (.search requirement now)
  let degraded := run.degraded.foldl mark degraded
  let outcome := outcomeOf s.speech requirement degraded run
  let _ ← call (.saveDecision outcome.decision)
  let snapshot := (outcomeTriggers outcome).foldl (fun x t => x.fired t now e.traceId) snapshot
  let _ ← call (.saveState snapshot expected)
  -- the state is written; only now is the message validated
  let reply := guardOutput s outcome.message (some outcome.decision) []
  enqueueReply s e reply
  let (deed, summary) := outcomeDeed outcome
  let degraded ← recordDeed s e deed summary (outcome.decision.shortlist.map (·.tutorId)) degraded
  .ret { conversationId := e.conversationId, state := snapshot.state, reply := some reply
         outcome := some outcome, degraded := asTuple degraded }

/-- A message that is not a question about a tutor. -/
def serve (e : InboundEnvelope) (expected : Nat) (snapshot : ConversationSnapshot) (now : Time) :
    Turn TurnResult := do
  let (incoming, recalled, degraded) ← resolve s e now
  let stored ← call (.loadRequirement e.conversationId)
  let requirement := merge stored (applyMemory incoming recalled now)
  let _ ← call (.saveRequirement requirement)
  let readiness := requirement.assess s.domain
  if readiness.readyToMatch then shortlist s e expected snapshot now requirement degraded
  else clarify s e expected snapshot now readiness degraded

/-- A lead or a message. -/
def handleMessage (e : InboundEnvelope) (loaded : ConversationSnapshot) (now : Time) :
    Turn TurnResult := do
  let assessment ← assessAbuse s e
  if sheds assessment then do
    let _ ← call (.release e.dedupKey)
    .ret { conversationId := e.conversationId, state := loaded.state
           reply := if assessment = some .cooldown then none else some THROTTLE_REPLY
           throttled := true }
  else do
    let snapshot := loaded.fired .messageReceived now e.traceId
    let lookup ← answerTutorLookup s e
    match lookup with
    | some reply => do
      let snapshot := snapshot.fired .requirementsIncomplete now e.traceId
      let _ ← call (.saveState snapshot loaded.lockVersion)
      enqueueReply s e reply
      .ret { conversationId := e.conversationId, state := snapshot.state, reply := some reply
             askedFor := some "tutor_lookup" }
    | none => serve s e loaded.lockVersion snapshot now

def process (e : InboundEnvelope) : Turn TurnResult := do
  let now ← call .now
  let snapshot ← call (.loadState e.conversationId)
  match e.payload with
  | .parentSelection _ => handleSelection s e snapshot
  | _ => handleMessage s e snapshot now

/-- Process one inbound envelope. -/
def handle (e : InboundEnvelope) : Turn TurnResult := do
  let stopped ← paused s
  -- before the claim, so that what is declined can be delivered again
  if stopped then do
    let snapshot ← call (.loadState e.conversationId)
    .ret { conversationId := e.conversationId, state := snapshot.state, reply := none
           paused := true }
  else do
    let ours : Bool ← call (.claim e.dedupKey)
    if ours then
      (process s e).tryCatch fun fault => do
        let _ ← call (.release e.dedupKey)
        .throw fault
    else do
      let snapshot ← call (.loadState e.conversationId)
      .ret { conversationId := e.conversationId, state := snapshot.state, reply := none
             duplicate := true }

/-! ### What the parts call -/

section Calls

variable {s} {e : InboundEnvelope} {P : Op → Prop} {α : Type} {R : α → Prop}

/-- A part of a turn makes only the calls in `P`, and returns only what is in `R`. -/
abbrev Calls (P : Op → Prop) (R : α → Prop) (p : Turn α) : Prop :=
  p.Within (fun o : ports.Op => P o) (fun _ => True) R

theorem calls_call {o : Op} (ho : P o) : Calls P (fun _ => True) (call o) :=
  within_perform (S := ports) ho

theorem calls_call_bind {o : Op} {f : o.Res → Turn α} (ho : P o) (hf : ∀ a, Calls P R (f a)) :
    Calls P R (call o >>= f) :=
  within_perform_bind (S := ports) ho hf

/-- A call whose failure is put up with. -/
theorem calls_tryCall {o : Op} {a : o.Res} (ho : P o) :
    Calls P (fun _ => True) ((call o).tryCatch fun _ => .ret a) :=
  (calls_call ho).tryCatch fun _ _ => trivial

theorem calls_enqueueReply {text : String}
    (h : (delivery s e text).refusal s.t = none → P (.enqueue (replyMessage s e text))) :
    Calls P (fun _ => True) (enqueueReply s e text) := by
  unfold enqueueReply
  split
  · trivial
  · exact calls_call (h ‹_›)

theorem calls_recordDeed {deed summary : String} {tutors degraded : List String}
    (h : s.recordDeeds = true → P (.enqueue (deedMessage s e deed summary tutors))) :
    Calls P (fun _ => True) (recordDeed s e deed summary tutors degraded) := by
  unfold recordDeed
  split
  · exact Within.tryCatch (calls_call_bind (h ‹_›) fun _ => trivial) fun _ _ => trivial
  · trivial

/-- Reply, note the deed, and return. -/
theorem calls_replied {text deed summary : String} {tutors degraded : List String}
    {f : List String → α}
    (hreply : (delivery s e text).refusal s.t = none → P (.enqueue (replyMessage s e text)))
    (hdeed : s.recordDeeds = true → P (.enqueue (deedMessage s e deed summary tutors)))
    (hf : ∀ d, R (f d)) : Calls P R (do
      enqueueReply s e text
      let degraded ← recordDeed s e deed summary tutors degraded
      .ret (f degraded)) :=
  (calls_enqueueReply hreply).bind fun _ _ => (calls_recordDeed hdeed).bind fun d _ => hf d

theorem calls_paused (h : P .isPaused) : Calls P (fun _ => True) (paused s) := by
  by_cases hswitched : s.switched = true
  · have hread : paused s = (call .isPaused).tryCatch fun _ => .ret false := if_pos hswitched
    rw [hread]
    exact calls_tryCall h
  · have hread : paused s = .ret false := if_neg hswitched
    rw [hread]
    trivial

theorem calls_assessAbuse (h : ∀ c text, P (.assessAbuse c text)) :
    Calls P (fun _ => True) (assessAbuse s e) := by
  by_cases hseen : (s.cached && Text.strip s.t e.payload.text ≠ "") = true
  · have hread : assessAbuse s e = (call (.assessAbuse (s.conversationHash e.conversationId)
        e.payload.text)).tryCatch fun _ => .ret none := if_pos hseen
    rw [hread]
    exact calls_tryCall (h _ _)
  · have hread : assessAbuse s e = .ret none := if_neg hseen
    rw [hread]
    trivial

theorem calls_answerTutorLookup (h : ∀ terms, P (.findByName terms)) :
    Calls P (fun _ => True) (answerTutorLookup s e) := by
  unfold answerTutorLookup
  split
  · split
    · trivial
    · dsimp only
      split
      · trivial
      · exact (calls_tryCall (o := .findByName _) (h _)).bind fun _ _ => trivial
  · trivial

theorem calls_resolve {now : Time} (hextract : ∀ p c t, P (.extract p c t))
    (hrecall : ∀ c t, P (.recall c t)) : Calls P (fun _ => True) (resolve s e now) := by
  unfold resolve
  split
  · split <;> trivial
  · refine calls_call_bind (hextract _ _ _) fun _ => ?_
    exact calls_call_bind (hrecall _ _) fun _ => trivial

end Calls

end TurnService

end NxTutors.MatchAgent
