import NxTutors.MatchAgent.Requirements
import NxTutors.Text.Strings
import Mathlib.Data.List.Sort

/-!
# What comes in and what goes out

An envelope carries one message of a parent, a lead that was captured, or the choice of a tutor.
What answers it is not sent but written into the outbox, as a row whose kind says who delivers it:
a reply that is ours to deliver needs an address, and the constructors of the rows refuse what
cannot be delivered.

The rows of the outbox lie in four places, and a row goes from one to another as it is relayed. No
two rows have one key, wherever they lie: `Outbox.enqueue` sees to that.
-/

namespace NxTutors.MatchAgent

/-- What a call raises. -/
inductive Fault
  /-- another writer advanced the conversation first -/
  | optimisticLock
  /-- the enrichment is of a build that this one cannot read -/
  | unsupportedEnrichment
  /-- a model refuses its fields -/
  | validation (reason : String)
  /-- a text is not ASCII where only that may be -/
  | notAscii
  /-- a store or a service is down -/
  | unavailable
  deriving DecidableEq, Repr

/-- A dependency that is down is recorded once. -/
def mark (degraded : List String) (name : String) : List String :=
  if name ∈ degraded then degraded else degraded ++ [name]

/-- `degraded.as_tuple()`. -/
def asTuple (degraded : List String) : List String := degraded.insertionSort (· ≤ ·)

/-! ## Inbound -/

structure LeadEvent where
  leadId : Option String := none
  studentClass : Option String := none
  subject : Option String := none
  board : Option String := none
  city : Option String := none
  tuitionMode : Option String := none
  confidenceScore : Rat := 0
  deriving DecidableEq, Repr

structure WhatsAppTurn where
  text : String
  leadId : Option String := none
  deriving DecidableEq, Repr

structure ParentSelection where
  matchSessionId : String
  selectedPublicRef : String
  demoRequested : Bool := false
  deriving DecidableEq, Repr

inductive Payload
  | leadEvent (event : LeadEvent)
  | whatsappTurn (turn : WhatsAppTurn)
  | parentSelection (selection : ParentSelection)
  deriving DecidableEq, Repr

/-- `getattr(payload, "text", "") or ""`. -/
def Payload.text : Payload → String
  | .whatsappTurn turn => turn.text
  | _ => ""

/-- `getattr(payload, "lead_id", None)`. -/
def Payload.leadId : Payload → Option String
  | .leadEvent event => event.leadId
  | .whatsappTurn turn => turn.leadId
  | .parentSelection _ => none

def ENRICHMENT_VERSION : String := "1"

/-- What was resolved before the envelope was forwarded. -/
structure Enrichment where
  enrichmentVersion : String := ENRICHMENT_VERSION
  /-- the requirement of this message only -/
  requirement : MatchRequirement
  memoryFacts : List (String × String) := []
  degraded : List String := []
  deriving DecidableEq, Repr

/-- `assert_supported`. -/
def Enrichment.supported (e : Enrichment) : Bool := e.enrichmentVersion = ENRICHMENT_VERSION

/-- One inbound event, with the key under which it is known. -/
structure InboundEnvelope where
  traceId : String
  conversationId : String
  dedupKey : String
  /-- the address of the reply, if this deployment delivers it -/
  replyTo : Option String := none
  payload : Payload
  enrichment : Option Enrichment := none
  traceId_le : traceId.length ≤ 64
  conversationId_le : conversationId.length ≤ 128
  dedupKey_le : dedupKey.length ≤ 128
  replyTo_le : (replyTo.getD "").length ≤ 32

/-- The envelope carries a selection. -/
def InboundEnvelope.isSelection (e : InboundEnvelope) : Bool :=
  match e.payload with
  | .parentSelection _ => true
  | _ => false

/-! ## Decisions -/

/-- One tutor as presented to the parent. -/
structure ShortlistEntry where
  rank : Nat
  tutorId : String
  name : String
  profileUrl : String
  reasons : List String
  modeLabel : Option String := none
  localityLabel : Option String := none
  availabilityLabel : Option String := none
  feeLabel : Option String := none
  deriving DecidableEq, Repr

/-- The record of one matching run. -/
structure MatchDecision where
  matchSessionId : String
  conversationId : String
  candidateIds : List String
  shortlist : List ShortlistEntry := []
  noMatchReason : Option String := none
  requiresHumanReview : Bool := false
  degradedSources : List String := []
  deriving DecidableEq, Repr

def MatchDecision.matched (d : MatchDecision) : Bool := d.shortlist ≠ []

/-- A decision, and the message that tells the parent. -/
structure MatchOutcome where
  decision : MatchDecision
  message : String
  deriving DecidableEq, Repr

def MatchOutcome.matched (o : MatchOutcome) : Bool := o.decision.matched
def MatchOutcome.needsHuman (o : MatchOutcome) : Bool := o.decision.requiresHumanReview

/-! ## Outbound -/

def MAX_BODY_CHARS : Nat := 4096

inductive OutboxKind
  /-- ours to deliver -/
  | whatsappReply
  /-- the record that the caller has delivered it -/
  | callerDeliveredReply
  /-- for the memory service -/
  | memoryDeed
  deriving DecidableEq, Repr

/-- `^\+?[1-9]\d{7,14}$`, of an address without white space around it. -/
def isE164 (t : Text.Tables) (address : String) : Bool :=
  let digits := match address.toList with
    | '+' :: rest => rest
    | rest => rest
  match digits with
  | [] => false
  | first :: rest =>
    '1' ≤ first && first ≤ '9' && rest.all t.isDigit && 7 ≤ rest.length && rest.length ≤ 14

/-- One reply: ours to send, or the record that the caller sent it. -/
structure OutboundDelivery where
  kind : OutboxKind := .whatsappReply
  recipient : Option String := none
  body : String
  dedupKey : String
  traceId : String
  conversationRef : String := ""
  deriving DecidableEq, Repr

namespace OutboundDelivery

/-- Why the model refuses its fields, if it does. -/
def refusal (t : Text.Tables) (d : OutboundDelivery) : Option String :=
  if d.recipient.any (32 < ·.length) || MAX_BODY_CHARS < d.body.length ||
      128 < d.dedupKey.length || 64 < d.traceId.length || 64 < d.conversationRef.length then
    some "string_too_long"
  else if Text.strip t d.body = "" then some "refusing to store an empty message body"
  else if d.kind ≠ .whatsappReply then none
  else if d.recipient.any fun a => a ≠ "" && isE164 t (Text.strip t a) then none
  else some "kind=whatsapp_reply requires an E.164 recipient"

end OutboundDelivery

namespace DeedType

def REQUIREMENT_CAPTURED : String := "MATCH_REQUIREMENT_CAPTURED"
def SHORTLIST_GENERATED : String := "MATCH_SHORTLIST_GENERATED"
def CANDIDATE_SELECTED : String := "MATCH_CANDIDATE_SELECTED"
def FAILED_NO_CANDIDATES : String := "MATCH_FAILED_NO_CANDIDATES"
def HUMAN_HANDOFF_REQUESTED : String := "HUMAN_HANDOFF_REQUESTED"

end DeedType

/-- One deed, queued for the memory service. -/
structure MemoryDeed where
  deedType : String
  summary : String
  /-- entity types with their ids -/
  entityScope : List (String × String)
  dedupKey : String
  traceId : String
  conversationRef : String := ""
  deriving DecidableEq, Repr

/-- The entities a deed is about. -/
def entityScope (conversationHash : String) (leadId : Option String) (tutorIds : List String) :
    List (String × String) :=
  ("conversation", conversationHash) ::
    ((leadId.filter (· ≠ "")).toList.map fun lead => ("lead", lead)) ++
    (tutorIds.take 5).map fun tutor => ("tutor", tutor)

inductive OutboxPayload
  | delivery (d : OutboundDelivery)
  | deed (d : MemoryDeed)
  deriving DecidableEq, Repr

structure OutboxMessage where
  kind : OutboxKind
  conversationId : String
  payload : OutboxPayload
  dedupKey : String
  traceId : String
  availableAt : Option Time := none
  attempts : Nat := 0
  deriving DecidableEq, Repr

/-- The rows that are to be sent, that a relay has taken and when, that were sent, and that were
given up. -/
structure Outbox where
  pending : List OutboxMessage := []
  claimed : List (OutboxMessage × Time) := []
  delivered : List OutboxMessage := []
  dead : List OutboxMessage := []
  deriving DecidableEq, Repr

namespace Outbox

/-- All rows. -/
def rows (o : Outbox) : List OutboxMessage :=
  o.pending ++ o.claimed.map Prod.fst ++ o.delivered ++ o.dead

def knows (o : Outbox) (key : String) : Bool := o.rows.any (·.dedupKey = key)

/-- A row is added unless its key is known. -/
def enqueue (o : Outbox) (m : OutboxMessage) : Outbox :=
  if o.knows m.dedupKey then o else { o with pending := o.pending ++ [m] }

/-- How many rows a key has. -/
def count (o : Outbox) (key : String) : Nat := o.rows.countP (·.dedupKey = key)

variable {o : Outbox} {m : OutboxMessage} {key : String}

theorem knows_iff : o.knows key = true ↔ 0 < o.count key := by
  rw [knows, count, List.countP_pos_iff, List.any_eq_true]

/-- A new row counts once, a known one not at all. -/
theorem count_enqueue :
    (o.enqueue m).count key =
      if m.dedupKey = key ∧ o.count key = 0 then 1 else o.count key := by
  unfold enqueue
  split
  · rename_i hknown
    rw [knows_iff] at hknown
    rw [if_neg]
    rintro ⟨rfl, hnone⟩
    omega
  · rename_i hnew
    have hzero : o.count m.dedupKey = 0 := by
      have h := mt knows_iff.mpr hnew
      omega
    have hsum : Outbox.count { o with pending := o.pending ++ [m] } key =
        o.count key + if m.dedupKey = key then 1 else 0 := by
      simp only [count, rows, List.countP_append, List.countP_singleton, decide_eq_true_eq]
      omega
    rw [hsum]
    by_cases hkey : m.dedupKey = key
    · subst hkey
      simp [hzero]
    · simp [hkey]

/-- **Never two**: a key that has at most one row has at most one after any other is enqueued. -/
theorem count_enqueue_le (h : o.count key ≤ 1) : (o.enqueue m).count key ≤ 1 := by
  rw [count_enqueue]
  split
  · exact Nat.le_refl 1
  · exact h

/-- The row that is enqueued is there. -/
theorem count_enqueue_self (h : o.count m.dedupKey ≤ 1) : (o.enqueue m).count m.dedupKey = 1 := by
  rw [count_enqueue]
  split
  · rfl
  · rename_i hknown
    have hne : o.count m.dedupKey ≠ 0 := fun hnone => hknown ⟨rfl, hnone⟩
    omega

/-! ### The relay -/

/-- A row leaves the rows that are to be sent, or those a relay has taken. -/
inductive Leaves (o : Outbox) (m : OutboxMessage) : Outbox → Prop
  | pending {before after : List OutboxMessage} (h : o.pending = before ++ m :: after) :
    Leaves o m { o with pending := before ++ after }
  | claimed {before after : List (OutboxMessage × Time)} {takenAt : Time}
    (h : o.claimed = before ++ (m, takenAt) :: after) :
    Leaves o m { o with claimed := before ++ after }

/-- The row of another attempt. -/
def retried (m : OutboxMessage) (retryAt : Time) : OutboxMessage :=
  { m with availableAt := some retryAt, attempts := m.attempts + 1 }

/-- What a relay does with one row. -/
inductive Relayed (o : Outbox) : Outbox → Prop
  | claim {m : OutboxMessage} {o' : Outbox} (now : Time) (h : Leaves o m o') :
    Relayed o { o' with claimed := o'.claimed ++ [(m, now)] }
  | markDelivered {m : OutboxMessage} {o' : Outbox} (h : Leaves o m o') :
    Relayed o { o' with delivered := o'.delivered ++ [m] }
  | markFailed {m : OutboxMessage} {o' : Outbox} (retryAt : Time) (h : Leaves o m o') :
    Relayed o (if 5 ≤ (retried m retryAt).attempts then
      { o' with dead := o'.dead ++ [retried m retryAt] }
      else { o' with pending := o'.pending ++ [retried m retryAt] })
  | markDead {m : OutboxMessage} {o' : Outbox} (h : Leaves o m o') :
    Relayed o { o' with dead := o'.dead ++ [m] }
  | reclaim {m : OutboxMessage} {o' : Outbox} (h : Leaves o m o') :
    Relayed o { o' with pending := o'.pending ++ [m] }

theorem Leaves.count {o' : Outbox} (h : Leaves o m o') :
    o.count key = o'.count key + if m.dedupKey = key then 1 else 0 := by
  cases h with
  | pending h =>
    simp only [Outbox.count, rows, h, List.countP_append, List.countP_cons, decide_eq_true_eq]
    omega
  | claimed h =>
    simp only [Outbox.count, rows, h, List.map_append, List.map_cons, List.countP_append,
      List.countP_cons, decide_eq_true_eq]
    omega

/-- **A relay moves rows**, and neither adds one nor loses one. -/
theorem Relayed.count {o' : Outbox} (h : Relayed o o') : o'.count key = o.count key := by
  cases h with
  | claim now h =>
    rw [h.count]
    simp only [Outbox.count, rows, List.map_append, List.map_cons, List.map_nil,
      List.countP_append, List.countP_singleton, decide_eq_true_eq]
    omega
  | markDelivered h =>
    rw [h.count]
    simp only [Outbox.count, rows, List.countP_append, List.countP_singleton, decide_eq_true_eq]
    omega
  | markFailed retryAt h =>
    rw [h.count]
    split <;>
    · simp only [Outbox.count, rows, retried, List.countP_append, List.countP_singleton,
        decide_eq_true_eq]
      omega
  | markDead h =>
    rw [h.count]
    simp only [Outbox.count, rows, List.countP_append, List.countP_singleton, decide_eq_true_eq]
    omega
  | reclaim h =>
    rw [h.count]
    simp only [Outbox.count, rows, List.countP_append, List.countP_singleton, decide_eq_true_eq]
    omega

/-- No row is lost. -/
theorem count_le_enqueue : o.count key ≤ (o.enqueue m).count key := by
  rw [count_enqueue]
  split
  · rename_i h
    omega
  · exact Nat.le_refl _

end Outbox

end NxTutors.MatchAgent
