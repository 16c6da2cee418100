import NxTutors.DemoAgent.PaidTransition
import NxTutors.Text.Json

/-!
# The public webhooks

The two functions that face the internet. Each verifies a signature over the raw bytes, reads
the body, and does next to nothing else: the one for messages flattens the provider's batch
into one work item per message and publishes them; the one for payments hands a verified event
to `accept_webhook`.

What the signature check and the JSON parser have said is given to the handlers as arguments.
-/

namespace NxTutors.DemoAgent

open Effect
open Text (Json)

/-! ## Pseudonyms -/

/-- `Pseudonymiser.hash(value)`. -/
def Config.hash (cfg : Config) (value : String) : String := Text.take (cfg.hmac value) 16

/-- `Pseudonymiser.conversation(conversation_id)`. -/
def Config.conversation (cfg : Config) (conversationId : String) : String :=
  "cv_" ++ cfg.hash conversationId

/-- The last ten digits of a phone number, or all of them if there are fewer. -/
def normalisePhone (t : Text.Tables) (phone : String) : String :=
  let digits := phone.toList.filter t.isDigit
  String.ofList (digits.drop (digits.length - 10))

/-- `Pseudonymiser.phone(phone)`: normalised first, so that ways of writing a number collide. -/
def Config.phone (cfg : Config) (phone : String) : String :=
  "ph_" ++ cfg.hash (normalisePhone cfg.tables phone)

example : normalisePhone Text.ascii "+91 98765-43210" = normalisePhone Text.ascii "9876543210" :=
  by decide

/-! ## Responses -/

/-- What a handler answers: a status code, and a JSON body. -/
structure Response where
  statusCode : Nat
  body : List (String × Value)
  deriving DecidableEq, Repr

/-- `value.get(key)`, which raises unless the value is a dictionary. -/
def field (j : Json) (key : String) : Except Exn Json :=
  match j.get? key with
  | some value => .ok value
  | none => .error (.other "AttributeError")

/-- `value or []`, which raises when it is iterated unless it can be. -/
def elements (j : Json) : Except Exn (List Json) :=
  match j.iter? with
  | some items => .ok items
  | none => .error (.other "TypeError")

/-- A computation that makes no calls. -/
def lift {α : Type} : Except Exn α → Act α
  | .ok a => pure a
  | .error e => throw e

/-! ## Messages -/

/-- One entry of a batch. -/
inductive MetaItem
  | inboundMessage (message : Json)
  | deliveryStatus (status : Json)

/-- What a message says: its text, and the identifier of the button that was tapped. What is
neither text nor a tap says nothing. -/
def said (message : Json) : Except Exn (String × String) := do
  let messageType := (← field message "type").textOrEmpty
  if messageType = "text" then
    let body ← field (← field message "text").orDict "body"
    return (body.textOrEmpty, "")
  else if messageType = "interactive" then
    let interactive := (← field message "interactive").orDict
    let reply := ((← field interactive "button_reply").either
      (← field interactive "list_reply")).orDict
    return ((← field reply "title").textOrEmpty, (← field reply "id").textOrEmpty)
  else if messageType = "button" then
    let button := (← field message "button").orDict
    return ((← field button "text").textOrEmpty, (← field button "payload").textOrEmpty)
  else return ("", "")

/-- One entry as a work item, or none when it carries no turn. The trigger is not decided
here. -/
def workItem (cfg : Config) : MetaItem → Except Exn (Option WorkBody)
  | .deliveryStatus status => do
    let status := status.orDict
    let id := (← field status "id").textOrEmpty
    return some
      { fields := Facts.ofList
          [("kind", .str "delivery_status"),
            ("conversation_ref", .str (cfg.phone (← field status "recipient_id").textOrEmpty)),
            ("provider_message_id", .str id),
            ("status", .str (← field status "status").textOrEmpty),
            ("event_id", .str id)] }
  | .inboundMessage message => do
    let message := message.orDict
    let sender := (← field message "from").textOrEmpty
    if sender = "" then return none
    else
      let (text, buttonId) ← said message
      let id := (← field message "id").textOrEmpty
      return some
        { fields := Facts.ofList
            [("kind", .str "inbound_message"),
              ("conversation_ref", .str (cfg.phone sender)),
              ("text", .str (Text.take text cfg.maxBodyBytes)),
              ("button_id", .str buttonId),
              ("wa_message_id", .str id),
              ("event_id", .str id),
              ("received_at", .str (← field message "timestamp").textOrEmpty)] }

/-- The key the queue deduplicates on. -/
def metaDedup (cfg : Config) : MetaItem → Except Exn String
  | .deliveryStatus status => do
    return cfg.idempotencyKey ["meta", "delivery_status", (← field status.orDict "id").text]
  | .inboundMessage message => do
    return cfg.idempotencyKey ["meta", "inbound_message", (← field message.orDict "id").text]

/-- The items of one change. -/
def changeItems (change : Json) : Except Exn (List MetaItem) := do
  let value := (← field change "value").orDict
  let messages ← elements (← field value "messages")
  let statuses ← elements (← field value "statuses")
  return messages.map .inboundMessage ++ statuses.map .deliveryStatus

/-- The items of one entry. -/
def entryItems (entry : Json) : Except Exn (List MetaItem) := do
  let changes ← elements (← field entry "changes")
  return (← changes.mapM changeItems).flatten

/-- The items of a batch. -/
def metaItems (payload : Json) : Except Exn (List MetaItem) := do
  let entries ← elements (← field payload "entry")
  return (← entries.mapM entryItems).flatten

/-- Publish the items that carry a turn, one after another. -/
def publishAll (cfg : Config) : List MetaItem → Nat → Act Nat
  | [], sent => pure sent
  | item :: rest, sent => do
    let dedup ← lift (metaDedup cfg item)
    match ← lift (workItem cfg item) with
    | none => publishAll cfg rest sent
    | some work =>
      let ref := (work.fields.get "conversation_ref").textOrEmpty
      let _ ← ask (.publish work (if ref = "" then "default" else ref) dedup)
      publishAll cfg rest (sent + 1)

/-- Flatten the batch and publish it. -/
def enqueueMeta (cfg : Config) (payload : Json) : Act Nat := do
  publishAll cfg (← lift (metaItems payload)) 0

/-- The webhook of the message provider. -/
def metaWebhook (cfg : Config) (verified : Bool) (payload : Option Json) : Act Response :=
  if !verified then pure ⟨403, [("status", .str "invalid_signature")]⟩
  else
    match payload with
    | none => pure ⟨200, [("status", .str "ignored")]⟩
    | some payload => do
      let queued ← enqueueMeta cfg payload
      pure ⟨200, [("status", .str "accepted"), ("queued", .int queued)]⟩

/-! ## Payments -/

/-- The webhook of the payment provider: `event` is what was made of the body, if anything
could be. -/
def cashfreeWebhook (verified : Bool) (event : Option PaymentEvent) : Act Response :=
  if !verified then pure ⟨403, [("status", .str "invalid_signature")]⟩
  else
    match event with
    | none => pure ⟨200, [("status", .str "ignored")]⟩
    | some event => do
      let result ← acceptWebhook event
      if result.duplicate then pure ⟨200, [("status", .str "duplicate")]⟩
      else if !result.accepted then
        pure ⟨200, [("status", .str "rejected"), ("reason", .str result.reason)]⟩
      else pure ⟨200, [("status", .str "accepted")]⟩

/-! ## What is published -/

section Published

variable {cfg : Config} {item : MetaItem} {work : WorkBody}

/-- The body of a message or of a delivery status: it names no trigger. -/
structure FromMeta (body : WorkBody) : Prop where
  kind : body.fields "kind" = some (.str "inbound_message") ∨
    body.fields "kind" = some (.str "delivery_status")
  trigger : body.fields "trigger" = none

/-- A computation that returned has returned from its first part. -/
theorem bind_eq_ok {α β : Type} {x : Except Exn α} {f : α → Except Exn β} {b : β}
    (h : x >>= f = .ok b) : ∃ a, x = .ok a ∧ f a = .ok b := by
  cases x with
  | error e => cases h
  | ok a => exact ⟨a, rfl, h⟩

/-- **A message is filed under its sender.** -/
theorem workItem_inbound {message : Json}
    (h : workItem cfg (.inboundMessage message) = .ok (some work)) :
    FromMeta work ∧ ∃ sender, field message.orDict "from" = .ok sender ∧
      work.fields "conversation_ref" = some (.str (cfg.phone sender.textOrEmpty)) := by
  rw [workItem] at h
  obtain ⟨sender, hsender, h⟩ := bind_eq_ok h
  dsimp only at h
  split at h
  · cases h
  · obtain ⟨⟨text, buttonId⟩, _, h⟩ := bind_eq_ok h
    obtain ⟨id, _, h⟩ := bind_eq_ok h
    obtain ⟨timestamp, _, h⟩ := bind_eq_ok h
    cases h
    exact ⟨⟨.inl rfl, rfl⟩, sender, hsender, rfl⟩

/-- What is published names no trigger. -/
theorem workItem_fromMeta (h : workItem cfg item = .ok (some work)) : FromMeta work := by
  cases item with
  | inboundMessage message => exact (workItem_inbound h).1
  | deliveryStatus status =>
    rw [workItem] at h
    obtain ⟨id, _, h⟩ := bind_eq_ok h
    obtain ⟨recipient, _, h⟩ := bind_eq_ok h
    obtain ⟨value, _, h⟩ := bind_eq_ok h
    cases h
    exact ⟨.inr rfl, rfl⟩

end Published

end NxTutors.DemoAgent
