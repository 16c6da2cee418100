import NxTutors.DemoAgent.Workers

/-!
# One phone, two conversations

A handoff and a message from the same phone name a conversation each, and work out its
reference on their own. The message's is the pseudonym of the number, normalised first; the
handoff's is the pseudonym of a conversation identifier, or of the number as it was written.
The pseudonyms carry different prefixes, so whatever the hash is, they never agree: a parent
who has been handed over writes to a conversation that nobody has handed over.
-/

namespace NxTutors.DemoAgent

open Effect
open Text (Json)

variable {cfg : Config}

/-- No pseudonym of a phone is a pseudonym of a conversation. -/
theorem phone_ne_conversation (cfg : Config) (phone conversationId : String) :
    cfg.phone phone ≠ cfg.conversation conversationId := by
  intro h
  have hchars := congrArg String.toList h
  rw [Config.phone, Config.conversation, String.toList_append, String.toList_append] at hchars
  cases hchars

/-- **The conversation of a message** is the pseudonym of its sender. -/
theorem workItem_ref {message : Json} {work : WorkBody}
    (h : workItem cfg (.inboundMessage message) = .ok (some work)) :
    ∃ sender, work.fields.firstText ["conversation_ref"] = cfg.phone sender := by
  obtain ⟨-, sender, -, href⟩ := workItem_inbound h
  have hne : cfg.phone sender.textOrEmpty ≠ "" := by
    intro hempty
    have hchars := congrArg String.toList hempty
    rw [Config.phone, String.toList_append] at hchars
    cases hchars
  refine ⟨sender.textOrEmpty, ?_⟩
  simp [Facts.firstText, Facts.get, href, Value.truthy, Value.text, hne]

/-- **A handoff never reaches the conversation that messages reach**: whatever the handoff
says, and whoever the message is from, the same phone or not. -/
theorem handoff_elsewhere (cfg : Config) {body message : Json} {e : Event} {work : WorkBody}
    (hhandoff : handoffEvent cfg body = .ok e)
    (hmessage : workItem cfg (.inboundMessage message) = .ok (some work)) :
    work.fields.firstText ["conversation_ref"] ≠ e.conversationRef := by
  obtain ⟨-, -, conversationId, hid⟩ := handoffEvent_eq_ok hhandoff
  obtain ⟨sender, hsender⟩ := workItem_ref hmessage
  rw [hid, hsender]
  exact phone_ne_conversation cfg sender conversationId

/-! ## A parent who is handed over -/

/-- The handoff of a parent, by phone number. -/
def handoffOf (phone : String) : Json :=
  .object "" [("wa_phone", .string phone), ("event_id", .string "1")]

/-- A text message. -/
def textMessage (sender text : String) : Json :=
  .object "" [("from", .string sender), ("id", .string "2"), ("type", .string "text"),
    ("text", .object "" [("body", .string text)])]

/-- The work item of a text message. -/
def messageWork (sender text : String) : WorkBody :=
  match workItem plainConfig (.inboundMessage (textMessage sender text)) with
  | .ok (some work) => work
  | _ => { fields := Facts.empty }

/-- It applies to any handoff and any message, such as these two of one phone. -/
theorem handoffOf_elsewhere :
    ∃ e, handoffEvent plainConfig (handoffOf "+91 98765 43210") = .ok e ∧
      (messageWork "919876543210" "hello").fields.firstText ["conversation_ref"] ≠
        e.conversationRef :=
  ⟨_, rfl, @handoff_elsewhere plainConfig (handoffOf "+91 98765 43210")
    (textMessage "919876543210" "hello") _ _ rfl rfl⟩

/-- A parent is handed over, and the handoff is accepted; the parent writes from the same
phone, and is not understood, since the conversation of the message is still new. -/
theorem handed_over_parent_not_recognised :
    normalisePhone Text.ascii "+91 98765 43210" = normalisePhone Text.ascii "919876543210" ∧
    ∃ e r w₁ w₂, handoffEvent plainConfig (handoffOf "+91 98765 43210") = .ok e ∧
      Run alone (internalHandoff plainConfig true (some (handoffOf "+91 98765 43210")))
        ({ conversations := {} } : World InMemoryConversations) (.ok r) w₁ ∧
      r.body.lookup "status" = some (.str "accepted") ∧
      (w₁.conversations.load e.conversationRef).state = .ownershipAcquiring ∧
      (w₁.conversations.load ((messageWork "919876543210" "hello").fields.firstText
        ["conversation_ref"])).state = .new ∧
      Run alone (handleRecord plainConfig (messageWork "919876543210" "hello")) w₁
        (.ok none) w₂ := by
  have h₁ := run_smooth (internalHandoff plainConfig true (some (handoffOf "+91 98765 43210")))
    ({ conversations := {} } : World InMemoryConversations)
  have h₂ := run_smooth (handleRecord plainConfig (messageWork "919876543210" "hello"))
    (play (fun _ o w => w.smooth o) 0
      (internalHandoff plainConfig true (some (handoffOf "+91 98765 43210")))
      ({ conversations := {} } : World InMemoryConversations)).2
  exact ⟨by decide, _, _, _, _, rfl, h₁, by decide, by decide,
    by decide, h₂⟩

end NxTutors.DemoAgent
