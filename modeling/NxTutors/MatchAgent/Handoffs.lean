import NxTutors.MatchAgent.TurnService

/-!
# The handoff

Another agent owns the conversation and asks whether a message is ours. What is not ours is
declined, and the other agent answers it. What is ours is answered in a turn, and then either the
text goes back for the other agent to send, or it is in the outbox and we send it: that is decided
when the envelope is built, with the address or without, and looked at again, branch by branch,
when the turn is over.
-/

namespace NxTutors.MatchAgent

open Effect Prog

/-! ## The contract -/

inductive HandoffStatus
  | handled | accepted | declined | needsHandoff | humanReview | error
  deriving DecidableEq, Repr

/-- Who delivers the answers of a deployment. -/
inductive OutboundOwnership
  /-- the text is returned, and the caller sends it -/
  | callerSends
  /-- it goes out through our outbox -/
  | tutorMatchSends
  deriving DecidableEq, Repr

/-- The other agents. -/
inductive AgentId
  | onboarding | human
  deriving DecidableEq, Repr

def MAX_HANDOFF_CHARS : Nat := 4000

/-- What the other agent posts, as its model accepts it. -/
structure LeadIntakeHandoff (t : Text.Tables) where
  waMessageId : String
  waPhone : String
  messageText : String := ""
  leadId : Option String := none
  conversationId : Option String := none
  intent : Option String := none
  /-- set when we are resumed after a detour -/
  continuationToken : Option String := none
  waMessageId_le : waMessageId.length ≤ 128
  waPhone_le : waPhone.length ≤ 32
  messageText_le : messageText.length ≤ MAX_HANDOFF_CHARS
  leadId_le : (leadId.getD "").length ≤ 128
  conversationId_le : (conversationId.getD "").length ≤ 128
  intent_le : (intent.getD "").length ≤ 64
  continuationToken_le : (continuationToken.getD "").length ≤ 512
  identified : Text.strip t waMessageId ≠ ""
  addressed : Text.strip t waPhone ≠ ""

/-- The name of the conversation: the one that was agreed on, or that of the phone. -/
def LeadIntakeHandoff.effectiveConversationId {t : Text.Tables} (r : LeadIntakeHandoff t) :
    String :=
  let agreed := Text.strip t (r.conversationId.getD "")
  if agreed ≠ "" then agreed else "wa:" ++ Text.strip t r.waPhone

/-- What we answer. -/
structure HandoffResponse where
  status : HandoffStatus
  /-- to be sent by the caller, word by word -/
  replyText : Option String := none
  traceId : Option String := none
  matchSessionId : Option String := none
  handoffTo : Option AgentId := none
  continuationToken : Option String := none
  duplicate : Bool := false
  degraded : List String := []
  deriving DecidableEq, Repr

namespace HandoffResponse

/-- Why the model refuses its fields, if it does. -/
def refusal (r : HandoffResponse) : Option String :=
  if r.replyText.any (MAX_HANDOFF_CHARS < ·.length) || r.continuationToken.any (512 < ·.length) then
    some "string_too_long"
  else if r.status = .handled ∧ present r.replyText = false then
    some "HANDLED requires reply_text; use ACCEPTED for async"
  else if r.status = .needsHandoff ∧ r.handoffTo = none then
    some "NEEDS_HANDOFF requires handoff_to"
  else none

/-- Not our conversation: we say nothing. -/
def declined (reason traceId : String) : HandoffResponse where
  status := .declined
  traceId := some traceId
  degraded := if reason ≠ "" then [reason] else []

end HandoffResponse

/-- Answer, if the model takes the answer. -/
def respond (r : HandoffResponse) : Turn HandoffResponse :=
  match r.refusal with
  | some reason => .throw (.validation reason)
  | none => .ret r

/-! ## Routing -/

inductive Intent
  | findTutor | replaceTutor | compareTutors | specificTutor | selectFromShortlist | requestDemo
  | onboarding | humanRequested | continuation | other
  deriving DecidableEq, Repr

def OWNED_INTENTS : List Intent :=
  [.findTutor, .replaceTutor, .compareTutors, .specificTutor, .selectFromShortlist, .requestDemo,
    .continuation]

/-- What the regular expressions of routing find in a text. -/
structure Patterns where
  human : String → Bool
  replace : String → Bool
  compare : String → Bool
  demo : String → Bool
  findTutor : String → Bool
  onboarding : String → Bool
  subjectHint : String → Bool
  /-- `len(tokens(text))` -/
  tokens : String → Nat
  normalizeKey : String → String

structure RoutingDecision where
  intent : Intent
  owned : Bool
  handoffTo : Option AgentId := none
  onboardingSecondary : Bool := false
  reason : String := ""
  deriving DecidableEq, Repr

/-- Classify one message. In an active match, what is no other request is an answer to us. -/
def classify (t : Text.Tables) (p : Patterns) (text : String) (inActiveMatch : Bool) : Intent :=
  if Text.strip t text = "" then if inActiveMatch then .continuation else .other
  else if p.human text then .humanRequested
  else if p.replace text then .replaceTutor
  else if p.compare text then .compareTutors
  else if p.demo text && !p.findTutor text then .requestDemo
  else if p.findTutor text then .findTutor
  else if p.onboarding text && !p.subjectHint text then .onboarding
  else if p.onboarding text then .findTutor
  else if inActiveMatch then .continuation
  else if p.subjectHint text && p.tokens text ≤ 12 then .findTutor
  else .other

/-- Whether a turn is ours, and whom we need first. -/
def route (t : Text.Tables) (p : Patterns) (text : String)
    (inActiveMatch accountRequired hasAccount : Bool) : RoutingDecision :=
  let intent := classify t p text inActiveMatch
  if intent = .humanRequested then
    { intent, owned := false, handoffTo := some .human, reason := "parent_asked_for_human" }
  else if intent = .onboarding then
    { intent, owned := false, handoffTo := some .onboarding, reason := "pure_onboarding_intent" }
  else if intent ∉ OWNED_INTENTS then
    { intent, owned := false, reason := "not_a_matching_intent" }
  else
    let secondary := p.onboarding text
    if accountRequired && !hasAccount then
      { intent, owned := true, handoffTo := some .onboarding, onboardingSecondary := secondary
        reason := "account_required_for_next_action" }
    else
      { intent, owned := true, onboardingSecondary := secondary, reason := "matching_intent" }

def LEAD_INTAKE_INTENT_MAP : List (String × Intent) :=
  [("student_lead", .findTutor), ("demo_command_center", .findTutor),
    ("specific_tutor_request", .specificTutor), ("availability", .continuation),
    ("pricing", .continuation), ("callback", .humanRequested), ("complaint", .humanRequested),
    ("support", .humanRequested), ("tutor_application", .onboarding),
    ("personal_memory_bank", .other), ("ai_tutor", .other), ("ai_tutor_chat", .other)]

/-- The intent that the other agent has named, if we know it. -/
def intentFromUpstream (t : Text.Tables) (p : Patterns) (label : Option String) : Option Intent :=
  if present label then
    let label := label.getD ""
    (LEAD_INTAKE_INTENT_MAP.lookup (p.normalizeKey label)).or
      (LEAD_INTAKE_INTENT_MAP.lookup (t.lower (Text.strip t label)))
  else none

/-! ## Flags and tokens -/

inductive Mode
  | disabled | shadow | live
  deriving DecidableEq, Repr

structure FeatureFlags where
  enabled : Bool := false
  shadowMode : Bool := true
  percentageRollout : Int := 0
  alwaysOnRefs : List String := []
  /-- the bucket of a conversation, from 0 to 99 -/
  bucket : String → Int

namespace FeatureFlags

def inRollout (f : FeatureFlags) (ref : String) : Bool :=
  if f.percentageRollout ≤ 0 then false
  else if 100 ≤ f.percentageRollout then true
  else f.bucket ref < f.percentageRollout

/-- The mode of one conversation. -/
def modeFor (f : FeatureFlags) (ref : String) : Mode :=
  if !f.enabled then .disabled
  else if ref ∈ f.alwaysOnRefs then if f.shadowMode then .shadow else .live
  else if !f.inRollout ref then .disabled
  else if f.shadowMode then .shadow
  else .live

end FeatureFlags

/-- Continuation tokens. -/
structure ContinuationCodec where
  /-- the signature of a payload -/
  sign : String → String
  /-- whether a payload that we have signed still proves something of a conversation -/
  proves : String → String → Bool
  /-- a new token for a conversation, and its session -/
  issue : String → String × String
  issue_le : ∀ ref, (issue ref).1.length ≤ 512

def isAscii (s : String) : Bool := s.toList.all (·.toNat < 128)

/-- `token.split(".", 1)`, where it has two parts. -/
def splitDot (token : String) : Option (String × String) :=
  if '.' ∈ token.toList then
    some (String.ofList (token.toList.takeWhile (· ≠ '.')),
      String.ofList ((token.toList.dropWhile (· ≠ '.')).drop 1))
  else none

/-- Whether a token proves that we were in the conversation. Only what `verify` itself raises means
that it does not: a token that is not ASCII can neither be signed nor compared. -/
def ContinuationCodec.tryVerify (t : Text.Tables) (c : ContinuationCodec) (token : Option String)
    (ref : String) : Except Fault Bool :=
  if !present token then .ok false
  else
    match splitDot (Text.strip t (token.getD "")) with
    | none => .ok false
    | some (payload, signature) =>
      if !isAscii payload then .error .notAscii
      else if !isAscii signature then .error .notAscii
      else if c.sign payload ≠ signature then .ok false
      else .ok (c.proves payload ref)

/-! ## The service -/

structure HandoffService where
  turns : Service
  flags : FeatureFlags
  continuations : ContinuationCodec
  patterns : Patterns
  /-- the SHA-256 of a text, in hexadecimal digits -/
  sha256 : String → String
  outboundOwnership : OutboundOwnership := .callerSends
  accountRequired : Bool := false
  /-- the deployment has kill switches -/
  switched : Bool

namespace HandoffService

variable (h : HandoffService)

/-- The tables of the text operations. -/
def t : Text.Tables := h.turns.t

/-- A switch that cannot be read is no reason to stop. -/
def paused : Turn Bool :=
  if h.switched then (call .isPaused).tryCatch fun _ => .ret false else .ret false

/-- A conversation in one of these is finished. -/
def TERMINAL_STATES : List ConversationState := [.closed, .demoHandoff, .noMatch]

/-- We have asked the last question of a conversation. -/
def active (snapshot : ConversationSnapshot) : Bool :=
  snapshot.state ≠ .new && snapshot.state ∉ TERMINAL_STATES

def hasActiveSession (conversationId : String) : Turn Bool :=
  (call (.loadState conversationId) >>= fun snapshot => .ret (active snapshot)).tryCatch
    fun _ => .ret false

/-- `idempotency_key("handoff", conversation_id, wa_message_id)`. -/
def dedupKey (conversationId waMessageId : String) : String :=
  Text.take (h.sha256 ("\x1f".intercalate ["handoff", conversationId, waMessageId])) 48

/-- The address of the reply, if it is ours to deliver. -/
def replyTo (r : LeadIntakeHandoff h.t) : Option String :=
  if h.outboundOwnership = .tutorMatchSends then some (Text.strip h.t r.waPhone) else none

/-- The envelope of a message, if its models take it. -/
def envelope (r : LeadIntakeHandoff h.t) (conversationId traceId : String) :
    Turn InboundEnvelope :=
  if Text.strip h.t r.messageText = "" then .throw (.validation "empty message text")
  else if hbounds : traceId.length ≤ 64 ∧ conversationId.length ≤ 128 ∧
      (h.dedupKey conversationId r.waMessageId).length ≤ 128 ∧
      ((h.replyTo r).getD "").length ≤ 32 then
    .ret
      { traceId, conversationId
        dedupKey := h.dedupKey conversationId r.waMessageId
        replyTo := h.replyTo r
        payload := .whatsappTurn { text := r.messageText, leadId := r.leadId }
        traceId_le := hbounds.1
        conversationId_le := hbounds.2.1
        dedupKey_le := hbounds.2.2.1
        replyTo_le := hbounds.2.2.2 }
  else .throw (.validation "string_too_long")

/-- What is answered after a turn. -/
def answer (mode : Mode) (result : TurnResult) (traceId : String) : HandoffResponse :=
  let sessionId := result.outcome.map (·.decision.matchSessionId)
  if result.duplicate then
    { status := .accepted, traceId := some traceId, duplicate := true }
  else if mode = .shadow then
    { status := .declined, traceId := some traceId, matchSessionId := sessionId
      degraded := ["shadow_mode"] }
  else if result.outcome.any (·.needsHuman) then
    { status := .humanReview, replyText := result.reply, traceId := some traceId
      matchSessionId := sessionId, handoffTo := some .human, degraded := result.degraded }
  else if !present result.reply then
    { status := .accepted, traceId := some traceId, matchSessionId := sessionId
      degraded := result.degraded }
  else if h.outboundOwnership = .tutorMatchSends then
    -- the outbox holds the message: it is not returned as well
    { status := .accepted, traceId := some traceId, matchSessionId := sessionId
      degraded := result.degraded }
  else
    { status := .handled, replyText := result.reply, traceId := some traceId
      matchSessionId := sessionId, degraded := result.degraded }

/-- Whether a message is ours. -/
def decide (r : LeadIntakeHandoff h.t) (claimed activeSession : Bool) : RoutingDecision :=
  let upstream := intentFromUpstream h.t h.patterns r.intent
  let inActiveMatch := claimed || activeSession || upstream = some .continuation
  route h.t h.patterns r.messageText inActiveMatch h.accountRequired (present r.leadId)

/-- Handle one handoff. -/
def handle (r : LeadIntakeHandoff h.t) (traceId : String) : Turn HandoffResponse := do
  let conversationId := r.effectiveConversationId
  let ref := h.turns.conversationHash conversationId
  let stopped ← h.paused
  if stopped then respond (.declined "matching_paused" traceId)
  else
    let mode := h.flags.modeFor ref
    if mode = .disabled then respond (.declined "tutor_match_disabled" traceId)
    else
      match h.continuations.tryVerify h.t r.continuationToken ref with
      | .error fault => .throw fault
      | .ok claimed => do
        let activeSession ← hasActiveSession conversationId
        let decision := h.decide r claimed activeSession
        if decision.intent = .humanRequested then
          respond { status := .humanReview, traceId := some traceId, handoffTo := some .human }
        else if !decision.owned then respond (.declined decision.reason traceId)
        else if decision.handoffTo = some .onboarding then
          let (token, session) := h.continuations.issue ref
          respond
            { status := .needsHandoff, traceId := some traceId, handoffTo := some .onboarding
              continuationToken := some token, matchSessionId := some session }
        else do
          let e ← h.envelope r conversationId traceId
          let result ← TurnService.handle h.turns e
          respond (h.answer mode result traceId)

end HandoffService

end NxTutors.MatchAgent
