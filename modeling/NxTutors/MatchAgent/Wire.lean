import NxTutors.MatchAgent.Stores
import NxTutors.Text.JsonText

/-!
# From the outbox to the worker

A row of the outbox holds its payload as a JSON object, whose fields come back in whatever order.
The relay reads the object as a delivery, whatever the kind of the row is, and puts the text of what
it has read on a queue; the worker reads that text as a deed or as a delivery, by its kind.

A reply arrives as it was written, or is closed if the caller has delivered it. A deed never
arrives: it has no body, so the relay cannot read it as a delivery (`agrees_iff`).
-/

namespace NxTutors.MatchAgent

open Text

/-! ## The contracts -/

def OutboxKind.value : OutboxKind → String
  | .whatsappReply => "whatsapp_reply"
  | .callerDeliveredReply => "caller_delivered_reply"
  | .memoryDeed => "memory_deed"

/-- A text that may be missing from an object, but must not be anything else nor too long. -/
def textField (fields : List (String × JsonValue)) (name : String) (limit : Nat)
    (default : Option String) : Option String :=
  match JsonValue.get fields name with
  | none => default
  | some (.str s) => if s.length ≤ limit then some s else none
  | some _ => none

/-- A text that may be null. -/
def nullableField (fields : List (String × JsonValue)) (name : String) (limit : Nat) :
    Option (Option String) :=
  match JsonValue.get fields name with
  | none => some none
  | some .null => some none
  | some (.str s) => if s.length ≤ limit then some (some s) else none
  | some _ => none

/-- A truth value, or a text that stands for one. -/
def boolField (t : Tables) (fields : List (String × JsonValue)) (name : String) (default : Bool) :
    Option Bool :=
  match JsonValue.get fields name with
  | none => some default
  | some (.bool b) => some b
  | some (.str s) =>
    if t.lower s ∈ ["1", "on", "t", "true", "y", "yes"] then some true
    else if t.lower s ∈ ["0", "off", "f", "false", "n", "no"] then some false
    else none
  | some _ => none

/-- A version may be as long as it likes. -/
def versionField (fields : List (String × JsonValue)) : Option String :=
  match JsonValue.get fields "schema_version" with
  | none => some "1.0"
  | some (.str s) => some s
  | some _ => none

/-- One reply, as it is stored and sent. -/
structure OutboundDeliveryV1 where
  schemaVersion : String := "1.0"
  kind : String := "whatsapp_reply"
  recipient : Option String := none
  body : String
  dedupKey : String
  traceId : String
  conversationRef : String := ""
  previewUrl : Bool := true
  deriving DecidableEq, Repr

/-- A text, or null. -/
def nullable : Option String → JsonValue
  | none => .null
  | some s => .str s

namespace OutboundDeliveryV1

/-- `_deliverable_rows_are_addressable`. -/
def addressable (t : Tables) (d : OutboundDeliveryV1) : Bool :=
  if strip t d.body = "" then false
  else if d.kind ≠ "whatsapp_reply" then true
  else d.recipient.any fun a => a ≠ "" && isE164 t (strip t a)

/-- It is pushed to the queue. -/
def deliverable (d : OutboundDeliveryV1) : Bool := d.kind ∈ ["whatsapp_reply", "memory_deed"]

def toPayload (d : OutboundDeliveryV1) : List (String × JsonValue) :=
  [("schema_version", .str d.schemaVersion), ("kind", .str d.kind),
    ("recipient", nullable d.recipient), ("body", .str d.body), ("dedup_key", .str d.dedupKey),
    ("trace_id", .str d.traceId), ("conversation_ref", .str d.conversationRef),
    ("preview_url", .bool d.previewUrl)]

/-- Nothing else is looked at. -/
def fromPayload (t : Tables) (fields : List (String × JsonValue)) : Option OutboundDeliveryV1 := do
  let schemaVersion ← versionField fields
  let kind ← textField fields "kind" 48 (some "whatsapp_reply")
  let recipient ← nullableField fields "recipient" 32
  let body ← textField fields "body" MAX_BODY_CHARS none
  let dedupKey ← textField fields "dedup_key" 128 none
  let traceId ← textField fields "trace_id" 64 none
  let conversationRef ← textField fields "conversation_ref" 64 (some "")
  let previewUrl ← boolField t fields "preview_url" true
  let d : OutboundDeliveryV1 :=
    { schemaVersion, kind, recipient, body, dedupKey, traceId, conversationRef, previewUrl }
  if d.addressable t then some d else none

end OutboundDeliveryV1

/-- One deed, as it is stored and sent. -/
structure MemoryDeedV1 where
  schemaVersion : String := "1.0"
  kind : String := "memory_deed"
  deedType : String
  purpose : String := "tutor_matching"
  summary : String
  /-- objects of texts -/
  entityScope : List (List (String × String)) := []
  dedupKey : String
  traceId : String
  conversationRef : String := ""
  deriving DecidableEq, Repr

/-- An object of texts. -/
def textsOf : JsonValue → Option (List (String × String))
  | .obj fields => fields.mapM fun x =>
    match x.2 with
    | .str s => some (x.1, s)
    | _ => none
  | _ => none

/-- A list of at most sixteen objects of texts. -/
def scopeField (fields : List (String × JsonValue)) : Option (List (List (String × String))) :=
  match JsonValue.get fields "entity_scope" with
  | none => some []
  | some (.arr items) => if items.length ≤ 16 then items.mapM textsOf else none
  | some _ => none

namespace MemoryDeedV1

def toPayload (d : MemoryDeedV1) : List (String × JsonValue) :=
  [("schema_version", .str d.schemaVersion), ("kind", .str d.kind), ("deed_type", .str d.deedType),
    ("purpose", .str d.purpose), ("summary", .str d.summary),
    ("entity_scope",
      .arr (d.entityScope.map fun entity => .obj (entity.map fun x => (x.1, .str x.2)))),
    ("dedup_key", .str d.dedupKey), ("trace_id", .str d.traceId),
    ("conversation_ref", .str d.conversationRef)]

def fromPayload (fields : List (String × JsonValue)) : Option MemoryDeedV1 := do
  let schemaVersion ← versionField fields
  let kind ← textField fields "kind" 48 (some "memory_deed")
  let deedType ← textField fields "deed_type" 64 none
  let purpose ← textField fields "purpose" 64 (some "tutor_matching")
  let summary ← textField fields "summary" 500 none
  let entityScope ← scopeField fields
  let dedupKey ← textField fields "dedup_key" 128 none
  let traceId ← textField fields "trace_id" 64 none
  let conversationRef ← textField fields "conversation_ref" 64 (some "")
  some { schemaVersion, kind, deedType, purpose, summary, entityScope, dedupKey, traceId,
         conversationRef }

end MemoryDeedV1

/-! ## What is written -/

def OutboundDelivery.v1 (d : OutboundDelivery) : OutboundDeliveryV1 where
  kind := d.kind.value
  recipient := d.recipient
  body := d.body
  dedupKey := d.dedupKey
  traceId := d.traceId
  conversationRef := d.conversationRef

def MemoryDeed.v1 (d : MemoryDeed) : MemoryDeedV1 where
  deedType := d.deedType
  summary := d.summary
  entityScope := d.entityScope.map fun x => [("entity_type", x.1), ("entity_id", x.2)]
  dedupKey := d.dedupKey
  traceId := d.traceId
  conversationRef := d.conversationRef

def OutboxPayload.fields : OutboxPayload → List (String × JsonValue)
  | .delivery d => d.v1.toPayload
  | .deed d => d.v1.toPayload

/-- What a relay sees of a row. -/
structure OutboxRow where
  kind : String
  payload : List (String × JsonValue)
  traceId : String

/-- The row of a message. -/
def OutboxMessage.row (m : OutboxMessage) : OutboxRow where
  kind := m.kind.value
  payload := m.payload.fields
  traceId := m.traceId

/-! ## The relay -/

/-- `_delivery`. -/
def OutboxRow.delivery (t : Tables) (row : OutboxRow) : Option OutboundDeliveryV1 :=
  OutboundDeliveryV1.fromPayload t
    (JsonValue.override (JsonValue.override row.payload "kind" (.str row.kind)) "trace_id" (.str row.traceId))

/-- What becomes of a row that a relay has claimed, if the queue takes what it is sent. -/
inductive Fate
  /-- no retry can help -/
  | dead
  /-- it was only for the record -/
  | closed
  | pushed (body : String)
  deriving DecidableEq, Repr

def OutboxRow.relayed (t : Tables) (row : OutboxRow) : Fate :=
  match row.delivery t with
  | none => .dead
  | some d => if d.deliverable then .pushed (JsonValue.dumps (.obj d.toPayload)) else .closed

/-! ## The worker -/

/-- A message for the provider. -/
structure OutboundMessage where
  to' : String
  body : String
  dedupKey : String
  traceId : String
  previewUrl : Bool
  deriving DecidableEq, Repr

/-- What the worker takes a record for. -/
inductive Received
  | deed (d : MemoryDeedV1)
  | message (m : OutboundMessage)
  /-- it goes back to the queue -/
  | failed
  deriving DecidableEq, Repr

/-- `payload_kind(payload) == OUTBOX_KIND_DEED`. -/
def isDeed (fields : List (String × JsonValue)) : Bool :=
  match JsonValue.get fields "kind" with
  | some (.str kind) => kind = "memory_deed"
  | _ => false

/-- One record of `outbound_worker_handler`, which gives a trace to what has none. -/
def received (t : Tables) (newTraceId : String) (body : String) : Received :=
  match JsonValue.loads body with
  | some (.obj fields) =>
    if isDeed fields then
      match MemoryDeedV1.fromPayload fields with
      | none => .failed
      | some d => .deed d
    else
      match OutboundDeliveryV1.fromPayload t fields with
      | none => .failed
      | some d =>
        if !d.deliverable || !present d.recipient then .failed
        else .message ⟨d.recipient.getD "", d.body, d.dedupKey,
          if d.traceId = "" then newTraceId else d.traceId, d.previewUrl⟩
  | _ => .failed

/-! ## What they should agree on -/

/-- A row that the turn service writes. -/
inductive Written (s : Service) (e : InboundEnvelope) : OutboxMessage → Prop
  | reply (text : String) (h : (TurnService.delivery s e text).refusal s.t = none) :
    Written s e (TurnService.replyMessage s e text)
  | deed (deedType summary : String) (tutorIds : List String) (h : s.recordDeeds = true) :
    Written s e (TurnService.deedMessage s e deedType summary tutorIds)

/-- What the worker takes for a record is what was written. -/
def Arrives (m : OutboxMessage) (record : Received) : Prop :=
  match m.payload, record with
  | .delivery d, .message message =>
    some message.to' = d.recipient ∧ message.body = d.body ∧ message.dedupKey = d.dedupKey
  | .deed d, .deed d' => d' = d.v1
  | _, _ => False

/-- **They agree on a row**, in whatever order its fields are stored: the relay can read it,
forwards it unless it is only for the record, and the worker reads what was written. -/
def Agrees (t : Tables) (newTraceId : String) (m : OutboxMessage) : Prop :=
  ∀ stored, stored.Perm m.payload.fields →
    match { m.row with payload := stored }.relayed t with
    | .dead => False
    | .closed => m.kind = .callerDeliveredReply
    | .pushed body => m.kind ≠ .callerDeliveredReply ∧ Arrives m (received t newTraceId body)

/-! ## Reading what was written -/

section Fields

variable {t : Tables} {fields stored : List (String × JsonValue)} {d : OutboundDeliveryV1}

/-- A delivery that the contract takes. -/
structure OutboundDeliveryV1.Valid (t : Tables) (d : OutboundDeliveryV1) : Prop where
  kind : d.kind.length ≤ 48
  recipient : ∀ a, d.recipient = some a → a.length ≤ 32
  body : d.body.length ≤ MAX_BODY_CHARS
  dedupKey : d.dedupKey.length ≤ 128
  traceId : d.traceId.length ≤ 64
  conversationRef : d.conversationRef.length ≤ 64
  addressable : d.addressable t = true

/-- The fields are those of a delivery. -/
def Holds (fields : List (String × JsonValue)) (d : OutboundDeliveryV1) : Prop :=
  ∀ x ∈ d.toPayload, JsonValue.get fields x.1 = some x.2

theorem textField_of_get {name text : String} {limit : Nat} {default : Option String}
    (h : JsonValue.get fields name = some (.str text)) (hlimit : text.length ≤ limit) :
    textField fields name limit default = some text := by
  rw [textField, h]
  exact if_pos hlimit

theorem nullableField_of_get {name : String} {text : Option String} {limit : Nat}
    (h : JsonValue.get fields name = some (nullable text))
    (hlimit : ∀ a, text = some a → a.length ≤ limit) :
    nullableField fields name limit = some text := by
  rw [nullableField, h]
  cases text with
  | none => rfl
  | some a => exact if_pos (hlimit a rfl)

/-- **A delivery is read back** from its fields. -/
theorem fromPayload_of_holds (h : Holds fields d) (hd : d.Valid t) :
    OutboundDeliveryV1.fromPayload t fields = some d := by
  have hfield : ∀ x ∈ d.toPayload, JsonValue.get fields x.1 = some x.2 := h
  simp only [OutboundDeliveryV1.toPayload, List.forall_mem_cons] at hfield
  obtain ⟨hversion, hkind, hrecipient, hbody, hkey, htrace, href, hurl, -⟩ := hfield
  have hversion' : versionField fields = some d.schemaVersion := by
    rw [versionField, hversion]
  have hurl' : boolField t fields "preview_url" true = some d.previewUrl := by
    rw [boolField, hurl]
  rw [OutboundDeliveryV1.fromPayload, hversion', textField_of_get hkind hd.kind,
    nullableField_of_get hrecipient hd.recipient, textField_of_get hbody hd.body,
    textField_of_get hkey hd.dedupKey, textField_of_get htrace hd.traceId,
    textField_of_get href hd.conversationRef, hurl']
  exact if_pos hd.addressable

theorem nodup_toPayload : (d.toPayload.map Prod.fst).Nodup := by
  have hnames : d.toPayload.map Prod.fst = ["schema_version", "kind", "recipient", "body",
      "dedup_key", "trace_id", "conversation_ref", "preview_url"] := rfl
  rw [hnames]
  decide

/-- The fields of a delivery are those of it, in whatever order. -/
theorem holds_of_perm (h : stored.Perm d.toPayload) : Holds stored d :=
  fun _ hx => JsonValue.get_perm nodup_toPayload h hx

/-- And they still are, when the kind and the trace of the row are put in. -/
theorem holds_override (h : Holds stored d) :
    Holds (JsonValue.override (JsonValue.override stored "kind" (.str d.kind)) "trace_id"
      (.str d.traceId)) d := by
  intro x hx
  by_cases htrace : x.1 = "trace_id"
  · have hsame : x = ("trace_id", .str d.traceId) :=
      List.inj_on_of_nodup_map nodup_toPayload hx (by simp [OutboundDeliveryV1.toPayload]) htrace
    rw [hsame, JsonValue.get_override_self]
  · rw [JsonValue.get_override_of_ne htrace]
    by_cases hkind : x.1 = "kind"
    · have hsame : x = ("kind", .str d.kind) :=
        List.inj_on_of_nodup_map nodup_toPayload hx (by simp [OutboundDeliveryV1.toPayload]) hkind
      rw [hsame, JsonValue.get_override_self]
    · rw [JsonValue.get_override_of_ne hkind]
      exact h x hx

end Fields

/-! ## Replies and deeds -/

/-- A message whose answer is for us to deliver. -/
def hello : InboundEnvelope :=
  messageOf "m1" "maths" onlineMaths (some "+919876543210") m1_le (by decide)

section Rows

variable {t : Tables} {s : Service} {e : InboundEnvelope} {m : OutboxMessage} {newTraceId : String}

theorem value_eq_whatsappReply_iff {kind : OutboxKind} :
    kind.value = "whatsapp_reply" ↔ kind = .whatsappReply := by
  cases kind <;> decide

/-- What the constructor takes fits, says something, and has an address if it is ours to deliver. -/
theorem of_refusal {d : OutboundDelivery} (h : d.refusal t = none) :
    ((((¬d.recipient.any (32 < ·.length) = true ∧ d.body.length ≤ MAX_BODY_CHARS) ∧
      d.dedupKey.length ≤ 128) ∧ d.traceId.length ≤ 64) ∧ d.conversationRef.length ≤ 64) ∧
    strip t d.body ≠ "" ∧
    (d.kind = .whatsappReply → d.recipient.any (fun a => a ≠ "" && isE164 t (strip t a)) = true) := by
  unfold OutboundDelivery.refusal at h
  have hfits : ¬(d.recipient.any (32 < ·.length) || decide (MAX_BODY_CHARS < d.body.length) ||
      decide (128 < d.dedupKey.length) || decide (64 < d.traceId.length) ||
      decide (64 < d.conversationRef.length)) = true := by
    intro hlong
    rw [if_pos hlong] at h
    cases h
  have hbody : strip t d.body ≠ "" := by
    intro hblank
    rw [if_neg hfits, if_pos hblank] at h
    cases h
  rw [if_neg hfits, if_neg hbody] at h
  simp only [Bool.or_eq_true, not_or, decide_eq_true_eq, Nat.not_lt] at hfits
  refine ⟨hfits, hbody, fun hkind => ?_⟩
  rw [if_neg (not_not.mpr hkind)] at h
  by_contra haddress
  rw [if_neg haddress] at h
  cases h

/-- What the constructor takes is a delivery that the contract takes. -/
theorem valid_of_refusal {d : OutboundDelivery} (h : d.refusal t = none) : d.v1.Valid t := by
  obtain ⟨⟨⟨⟨⟨hrecipient, hlength⟩, hkey⟩, htrace⟩, href⟩, hbody, haddress⟩ := of_refusal h
  refine
    { kind := ?_, recipient := ?_, body := hlength, dedupKey := hkey, traceId := htrace,
      conversationRef := href, addressable := ?_ }
  · have hkind : d.v1.kind = d.kind.value := rfl
    rw [hkind]
    cases d.kind <;> decide
  · intro a ha
    by_contra hlong
    refine hrecipient ?_
    have hsome : d.recipient = some a := ha
    rw [hsome, Option.any_some, decide_eq_true_eq]
    exact Nat.not_le.mp hlong
  · unfold OutboundDeliveryV1.addressable
    rw [if_neg (show ¬strip t d.v1.body = "" from hbody)]
    by_cases hkind : d.kind = .whatsappReply
    · rw [if_neg (show ¬d.v1.kind ≠ "whatsapp_reply" from
        not_not.mpr (value_eq_whatsappReply_iff.mpr hkind))]
      exact haddress hkind
    · exact if_pos fun hvalue => hkind (value_eq_whatsappReply_iff.mp hvalue)

theorem kind_delivery_ne {text : String} :
    (TurnService.delivery s e text).kind ≠ .memoryDeed := by
  unfold TurnService.delivery
  dsimp only
  split <;> decide

/-- The relay reads a reply as it was written. -/
theorem delivery_row {stored : List (String × JsonValue)} {d : OutboundDelivery}
    (hd : d.refusal t = none) (hstored : stored.Perm d.v1.toPayload) :
    ({ kind := d.kind.value, payload := stored, traceId := d.traceId } : OutboxRow).delivery t
      = some d.v1 :=
  fromPayload_of_holds (holds_override (holds_of_perm hstored)) (valid_of_refusal hd)

/-- The worker reads what the relay has pushed. -/
theorem received_dumps {d : OutboundDelivery} (hd : d.refusal t = none)
    (hkind : d.kind = .whatsappReply) :
    received t newTraceId (JsonValue.dumps (.obj d.v1.toPayload)) = .message
      ⟨d.recipient.getD "", d.body, d.dedupKey,
        if d.traceId = "" then newTraceId else d.traceId, true⟩ := by
  have hread : Holds d.v1.toPayload d.v1 := holds_of_perm (.refl _)
  have hvalue : d.v1.kind = "whatsapp_reply" := value_eq_whatsappReply_iff.mpr hkind
  have hdeed : isDeed d.v1.toPayload = false := by
    have hget : JsonValue.get d.v1.toPayload "kind" = some (.str d.v1.kind) :=
      hread ("kind", .str d.v1.kind) (by simp [OutboundDeliveryV1.toPayload])
    rw [isDeed, hget, hvalue]
    rfl
  have hdeliverable : d.v1.deliverable = true := by
    rw [OutboundDeliveryV1.deliverable, hvalue]
    rfl
  have hrecipient : present d.v1.recipient = true := by
    have haddress := (of_refusal hd).2.2 hkind
    have hv1 : d.v1.recipient = d.recipient := rfl
    rw [hv1]
    cases hsome : d.recipient with
    | none =>
      rw [hsome] at haddress
      cases haddress
    | some a =>
      rw [hsome] at haddress
      exact (Bool.and_eq_true_iff.mp haddress).1
  rw [received, JsonValue.loads_dumps]
  simp only [hdeed, fromPayload_of_holds hread (valid_of_refusal hd), hdeliverable, hrecipient]
  rfl

/-- **A reply** that is ours to deliver arrives, and the record of one that is not is closed. -/
theorem agrees_reply {text : String} (h : (TurnService.delivery s e text).refusal s.t = none) :
    Agrees s.t newTraceId (TurnService.replyMessage s e text) := by
  intro stored hstored
  have hrow := delivery_row h hstored
  rw [OutboxRow.relayed]
  have hdelivery : ({ (TurnService.replyMessage s e text).row with payload := stored }
      : OutboxRow).delivery s.t = some (TurnService.delivery s e text).v1 := hrow
  rw [hdelivery]
  dsimp only
  cases hpresent : present e.replyTo with
  | true =>
    have hkind : (TurnService.delivery s e text).kind = .whatsappReply := by
      rw [TurnService.delivery, hpresent]
      rfl
    have hdeliverable : (TurnService.delivery s e text).v1.deliverable = true := by
      rw [OutboundDeliveryV1.deliverable, OutboundDelivery.v1, hkind]
      rfl
    rw [if_pos hdeliverable]
    dsimp only
    have hne : (TurnService.replyMessage s e text).kind ≠ .callerDeliveredReply := by
      have hsame : (TurnService.replyMessage s e text).kind = .whatsappReply := hkind
      rw [hsame]
      decide
    refine ⟨hne, ?_⟩
    rw [received_dumps h hkind]
    refine ⟨?_, rfl, rfl⟩
    have hrecipient : (TurnService.delivery s e text).recipient = e.replyTo := rfl
    rw [hrecipient]
    cases hreply : e.replyTo with
    | none =>
      rw [hreply] at hpresent
      cases hpresent
    | some a => rfl
  | false =>
    have hkind : (TurnService.delivery s e text).kind = .callerDeliveredReply := by
      rw [TurnService.delivery, hpresent]
      rfl
    have hdeliverable : (TurnService.delivery s e text).v1.deliverable = false := by
      rw [OutboundDeliveryV1.deliverable, OutboundDelivery.v1, hkind]
      rfl
    rw [if_neg (by rw [hdeliverable]; exact Bool.false_ne_true)]
    exact hkind

/-- **A deed** has no body, so no relay can read it. -/
theorem delivery_deed {stored : List (String × JsonValue)} {d : MemoryDeedV1} {kind traceId : String}
    (hstored : stored.Perm d.toPayload) :
    ({ kind, payload := stored, traceId } : OutboxRow).delivery t = none := by
  have hnames : d.toPayload.map Prod.fst = ["schema_version", "kind", "deed_type", "purpose",
      "summary", "entity_scope", "dedup_key", "trace_id", "conversation_ref"] := rfl
  have hbody : JsonValue.get (JsonValue.override (JsonValue.override stored "kind" (.str kind))
      "trace_id" (.str traceId)) "body" = none := by
    rw [JsonValue.get_override_of_ne (by decide), JsonValue.get_override_of_ne (by decide)]
    refine JsonValue.get_eq_none ?_
    rw [(hstored.map Prod.fst).mem_iff, hnames]
    decide
  have hfield : textField (JsonValue.override (JsonValue.override stored "kind" (.str kind))
      "trace_id" (.str traceId)) "body" MAX_BODY_CHARS none = none := by
    rw [textField, hbody]
  rw [OutboxRow.delivery, OutboundDeliveryV1.fromPayload]
  dsimp only
  rw [hfield]
  cases versionField _ with
  | none => rfl
  | some version =>
    cases textField _ "kind" _ _ with
    | none => rfl
    | some kind =>
      cases nullableField _ "recipient" _ with
      | none => rfl
      | some recipient => rfl

theorem not_agrees_deed {deedType summary : String} {tutorIds : List String} :
    ¬Agrees t newTraceId (TurnService.deedMessage s e deedType summary tutorIds) := by
  intro h
  have hdead := h _ (.refl _)
  rw [OutboxRow.relayed] at hdead
  have hdelivery : ({ (TurnService.deedMessage s e deedType summary tutorIds).row with
      payload := (TurnService.deedMessage s e deedType summary tutorIds).payload.fields }
      : OutboxRow).delivery t = none := delivery_deed (.refl _)
  rw [hdelivery] at hdead
  exact hdead

/-- **The producer and the consumer agree** on a row exactly if it is not a deed. -/
theorem agrees_iff (hm : Written s e m) : Agrees s.t newTraceId m ↔ m.kind ≠ .memoryDeed := by
  cases hm with
  | reply text h =>
    exact iff_of_true (agrees_reply h) (@kind_delivery_ne s e text)
  | deed deedType summary tutorIds h => exact iff_of_false not_agrees_deed fun hne => hne rfl

/-- A question about a class, which is for us to deliver. -/
theorem agrees_hello :
    Written smallService hello (TurnService.replyMessage smallService hello "Which class?") ∧
      Agrees smallService.t "new"
        (TurnService.replyMessage smallService hello "Which class?") := by
  have hwritten : Written smallService hello
      (TurnService.replyMessage smallService hello "Which class?") :=
    .reply "Which class?" (by decide)
  exact ⟨hwritten, (agrees_iff hwritten).mpr (by decide)⟩

/-- The deed of a shortlist is written, and lost. -/
theorem shortlist_deed_lost :
    Written { smallService with recordDeeds := true } hello
        (TurnService.deedMessage { smallService with recordDeeds := true } hello
          DeedType.SHORTLIST_GENERATED "shortlisted 3 tutors" ["t1", "t2", "t3"]) ∧
      ¬Agrees smallService.t "new"
        (TurnService.deedMessage { smallService with recordDeeds := true } hello
          DeedType.SHORTLIST_GENERATED "shortlisted 3 tutors" ["t1", "t2", "t3"]) :=
  ⟨.deed _ _ _ rfl, not_agrees_deed⟩

end Rows

/-! ## A deed that reached the worker -/

section Deeds

variable {t : Tables} {newTraceId : String} {d : MemoryDeedV1}

/-- A deed that the contract takes. -/
structure MemoryDeedV1.Valid (d : MemoryDeedV1) : Prop where
  kind : d.kind = "memory_deed"
  deedType : d.deedType.length ≤ 64
  purpose : d.purpose.length ≤ 64
  summary : d.summary.length ≤ 500
  entityScope : d.entityScope.length ≤ 16
  dedupKey : d.dedupKey.length ≤ 128
  traceId : d.traceId.length ≤ 64
  conversationRef : d.conversationRef.length ≤ 64

/-- What reads each back reads all of them. -/
theorem mapM_of_reads {α β : Type} {f : α → Option β} {g : β → α} (h : ∀ b, f (g b) = some b)
    (l : List β) : (l.map g).mapM f = some l := by
  induction l with
  | nil => rfl
  | cons b l ih => simp [h, ih]

theorem textsOf_texts (entity : List (String × String)) :
    textsOf (.obj (entity.map fun x => (x.1, .str x.2))) = some entity :=
  mapM_of_reads (g := fun x : String × String => (x.1, JsonValue.str x.2)) (fun _ => rfl) entity

/-- **The worker could read a deed**, if the relay pushed one: it is the relay that loses it. -/
theorem received_deed (hd : d.Valid) :
    received t newTraceId (JsonValue.dumps (.obj d.toPayload)) = .deed d := by
  have hversion : versionField d.toPayload = some d.schemaVersion := rfl
  have hkind : isDeed d.toPayload = true := decide_eq_true hd.kind
  have hkindField : textField d.toPayload "kind" 48 (some "memory_deed") = some d.kind :=
    textField_of_get rfl (by rw [hd.kind]; decide)
  have hdeed : textField d.toPayload "deed_type" 64 none = some d.deedType :=
    textField_of_get rfl hd.deedType
  have hpurpose : textField d.toPayload "purpose" 64 (some "tutor_matching") = some d.purpose :=
    textField_of_get rfl hd.purpose
  have hsummary : textField d.toPayload "summary" 500 none = some d.summary :=
    textField_of_get rfl hd.summary
  have hscope : scopeField d.toPayload = some d.entityScope := by
    have hget : JsonValue.get d.toPayload "entity_scope" = some (.arr (d.entityScope.map
        fun entity => .obj (entity.map fun x => (x.1, .str x.2)))) := rfl
    rw [scopeField, hget]
    dsimp only
    rw [List.length_map, if_pos hd.entityScope, mapM_of_reads textsOf_texts]
  have hkey : textField d.toPayload "dedup_key" 128 none = some d.dedupKey :=
    textField_of_get rfl hd.dedupKey
  have htrace : textField d.toPayload "trace_id" 64 none = some d.traceId :=
    textField_of_get rfl hd.traceId
  have href : textField d.toPayload "conversation_ref" 64 (some "") = some d.conversationRef :=
    textField_of_get rfl hd.conversationRef
  rw [received, JsonValue.loads_dumps]
  dsimp only
  rw [if_pos hkind, MemoryDeedV1.fromPayload, hversion, hkindField, hdeed, hpurpose, hsummary,
    hscope, hkey, htrace, href]
  rfl

theorem received_choice :
    let d : MemoryDeedV1 :=
      { deedType := DeedType.CANDIDATE_SELECTED, summary := "parent selected a tutor"
        entityScope := [[("tutor_id", "7")]], dedupKey := "k", traceId := "t" }
    received Text.ascii "" (JsonValue.dumps (.obj d.toPayload)) = .deed d :=
  received_deed ⟨rfl, by decide, by decide, by decide, by decide, by decide, by decide, by decide⟩

end Deeds

/-! ## Every row of a turn -/

section Turns

open TurnService

variable {s : Service} {e : InboundEnvelope}

/-- What is enqueued has been written by the turn service. -/
def Op.Writes (s : Service) (e : InboundEnvelope) : Op → Prop
  | .enqueue m => Written s e m
  | _ => True

/-- A part of a turn that enqueues only what is written. -/
abbrev Writing (s : Service) (e : InboundEnvelope) (p : Turn TurnResult) : Prop :=
  Calls (Op.Writes s e) (fun _ => True) p

theorem writing_shortlist {expected : Nat} {snapshot : ConversationSnapshot} {now : Time}
    {q : MatchRequirement} {degraded : List String} :
    Writing s e (shortlist s e expected snapshot now q degraded) := by
  unfold shortlist
  refine calls_call_bind trivial fun run => calls_call_bind trivial fun _ => ?_
  refine calls_call_bind trivial fun _ => ?_
  exact calls_replied (Written.reply _) (Written.deed _ _ _) fun _ => trivial

theorem writing_clarify {expected : Nat} {snapshot : ConversationSnapshot} {now : Time}
    {readiness : Readiness} {degraded : List String} :
    Writing s e (clarify s e expected snapshot now readiness degraded) := by
  unfold clarify
  refine calls_call_bind trivial fun _ => ?_
  exact calls_replied (Written.reply _) (Written.deed _ _ _) fun _ => trivial

theorem writing_serve {expected : Nat} {snapshot : ConversationSnapshot} {now : Time} :
    Writing s e (serve s e expected snapshot now) := by
  unfold serve
  refine (calls_resolve (fun _ _ _ => trivial) fun _ _ => trivial).bind fun x _ => ?_
  refine calls_call_bind trivial fun stored => calls_call_bind trivial fun _ => ?_
  dsimp only
  split
  · exact writing_shortlist
  · exact writing_clarify

theorem writing_handleMessage {loaded : ConversationSnapshot} {now : Time} :
    Writing s e (handleMessage s e loaded now) := by
  unfold handleMessage
  refine (calls_assessAbuse fun _ _ => trivial).bind fun assessment _ => ?_
  split
  · exact calls_call_bind trivial fun _ => trivial
  · refine (calls_answerTutorLookup fun _ => trivial).bind fun lookup _ => ?_
    cases lookup with
    | none => exact writing_serve
    | some reply =>
      refine calls_call_bind trivial fun _ => ?_
      exact (calls_enqueueReply (Written.reply _)).bind fun _ _ => trivial

theorem writing_handleSelection {snapshot : ConversationSnapshot} :
    Writing s e (handleSelection s e snapshot) := by
  unfold handleSelection
  refine calls_call_bind trivial fun now => ?_
  dsimp only
  split
  · refine calls_call_bind trivial fun _ => ?_
    refine (calls_recordDeed (Written.deed _ _ _)).bind fun _ _ => ?_
    exact (calls_enqueueReply (Written.reply _)).bind fun _ _ => trivial
  · trivial

/-- **A turn enqueues nothing** but replies that the constructor takes and deeds. -/
theorem writing_handle : Writing s e (handle s e) := by
  have hprocess : Writing s e (process s e) := by
    unfold process
    refine calls_call_bind trivial fun now => calls_call_bind trivial fun snapshot => ?_
    split
    · exact writing_handleSelection
    · exact writing_handleMessage
  unfold handle
  refine (calls_paused trivial).bind fun stopped _ => ?_
  split
  · exact calls_call_bind trivial fun _ => trivial
  · refine calls_call_bind trivial fun ours => ?_
    split
    · exact hprocess.tryCatch fun _ _ => calls_call_bind trivial fun _ => trivial
    · exact calls_call_bind trivial fun _ => trivial

end Turns

end NxTutors.MatchAgent
