import NxTutors.DemoAgent.World

/-!
# The outbound boundary

Nothing else may send. The gates come in a fixed order, each cheaper than the next: expiry,
ownership, state, opt-out, the claim of the message, the session window or a template, the
output guard, the rate limit; then the recipient is resolved and the message delivered. A
refusal is an outcome, not an exception, and from the claim on it is recorded.

In the rest of the development a send is a single call of a component that is `Neutral`.
`send_neutral` is what entitles it to that: no run of the boundary moves a conversation.
-/

namespace NxTutors.DemoAgent

open Effect

/-! ## The gates -/

/-- None when the message may go as composed, and otherwise why not. Free-form is only legal
in the session window. -/
def templateCheck (cfg : Config) (message : OutboundMessage) (now : Time) :
    Act (Option String) :=
  match message.template with
  | some template =>
    if cfg.requireApprovedTemplate && !cfg.templateNames.isEmpty
        && template.name ∉ cfg.templateNames then
      pure (some ("template_not_approved:" ++ template.name))
    else pure none
  | none => do
    let lastInbound : Option Time ← ask (.lastInboundAt message.conversationRef)
    if sessionWindowOpen lastInbound now cfg.sessionWindowHours then pure none
    else pure (some "session_window_closed_and_no_template")

/-- A refusal, with what there is to say about it. -/
def refuse (message : OutboundMessage) (outcome : SendOutcome) (detail : String) : SendResult :=
  { outcome, idempotencyKey := message.idempotencyKey, detail := Text.take detail 200 }

/-- Refuse, and record it. -/
def refuseRecorded (message : OutboundMessage) (now : Time) (outcome : SendOutcome)
    (detail : String) : Act SendResult := do
  let result := refuse message outcome detail
  ask (.recordSendResult message.idempotencyKey result now)
  pure result

/-- The last gates, and the delivery. -/
def deliverClaimed (cfg : Config) (message : OutboundMessage) (now : Time) :
    Act SendResult := do
  match ← templateCheck cfg message now with
  | some refusal => refuseRecorded message now .suppressedNoTemplate refusal
  | none =>
    let violations : List String ← ask (.checkOutput message)
    if violations ≠ [] then
      refuseRecorded message now .suppressedGuardrail (",".intercalate violations)
    else
      let decision ← ask (.checkLimit ("whatsapp_send:" ++ message.recipientRef)
        cfg.sendsPerIdentityPerHour 3600)
      if !decision.allowed then
        refuseRecorded message now .suppressedRateLimit
          ("retry_in=" ++ toString decision.retryAfterSeconds)
      else
        let recipient : Option String ← ask (.resolveContact message.recipientRef)
        if recipient.getD "" = "" then
          refuseRecorded message now .suppressedOptOut "unresolvable_recipient"
        else
          let delivered ← ask (.deliver message (recipient.getD ""))
          let result : SendResult :=
            match delivered with
            | .ok result => result
            | .error e =>
              { outcome := .failed, idempotencyKey := message.idempotencyKey,
                detail := Text.take
                  (e.provider ++ ":" ++ if e.code = "" then "error" else e.code) 200 }
          ask (.recordSendResult message.idempotencyKey result now)
          pure result

/-- Whether the parent has opted out of this message. -/
def optedOutOf (message : OutboundMessage) : Act Bool :=
  if message.optOutExempt then pure false else ask (.optedOut message.recipientRef)

/-- The only send path. -/
def send (cfg : Config) (message : OutboundMessage) : Act SendResult := do
  let now ← ask .now
  if message.expired now then pure (refuse message .suppressedExpired "")
  else
    let ownership ← ask (.loadOwnership message.conversationRef now)
    match ownership.assertMaySend now with
    | .error e => pure (refuse message .suppressedNotOwner e.reason)
    | .ok () =>
      let snapshot ← ask (.load message.conversationRef)
      if snapshot.state ∈ SUSPENDED
          || !canSendAutomatedMessage snapshot.state && message.kind ∉ TERMINAL_ALLOWED then
        pure (refuse message .suppressedState snapshot.state.value)
      else
        if ← optedOutOf message then pure (refuse message .suppressedOptOut "")
        else
          let claimed : Bool ← ask (.claimSend message now)
          if !claimed then
            pure { outcome := .duplicate, idempotencyKey := message.idempotencyKey }
          else deliverClaimed cfg message now

/-! ## What the boundary calls -/

/-- The calls of the boundary about a message: they read, claim, ask the outside, or deliver
that message and no other. -/
inductive SendCall (message : OutboundMessage) : Op → Prop
  | now : SendCall message .now
  | loadOwnership (now : Time) : SendCall message (.loadOwnership message.conversationRef now)
  | load : SendCall message (.load message.conversationRef)
  | optedOut : SendCall message (.optedOut message.recipientRef)
  | claimSend (now : Time) : SendCall message (.claimSend message now)
  | lastInboundAt : SendCall message (.lastInboundAt message.conversationRef)
  | checkOutput : SendCall message (.checkOutput message)
  | checkLimit (key : String) (limit perSeconds : Int) :
    SendCall message (.checkLimit key limit perSeconds)
  | resolveContact : SendCall message (.resolveContact message.recipientRef)
  | deliver (recipient : String) : SendCall message (.deliver message recipient)
  | recordSendResult (result : SendResult) (now : Time) :
    SendCall message (.recordSendResult message.idempotencyKey result now)

section Within

variable {cfg : Config} {message : OutboundMessage} {now : Time} {X : Exn → Prop}

theorem templateCheck_within :
    (templateCheck cfg message now).Within (SendCall message) X fun _ => True := by
  unfold templateCheck
  split
  · split <;> trivial
  · refine Prog.within_perform_bind .lastInboundAt fun lastInbound => ?_
    split <;> trivial

theorem refuseRecorded_within (outcome : SendOutcome) (detail : String) :
    (refuseRecorded message now outcome detail).Within (SendCall message) X fun _ => True :=
  Prog.within_perform_bind (.recordSendResult _ now) fun _ => trivial

theorem deliverClaimed_within :
    (deliverClaimed cfg message now).Within (SendCall message) X fun _ => True := by
  refine templateCheck_within.bind fun refusal _ => ?_
  cases refusal with
  | some refusal => exact refuseRecorded_within _ _
  | none =>
    refine Prog.within_perform_bind .checkOutput fun violations => ?_
    split
    · exact refuseRecorded_within _ _
    · refine Prog.within_perform_bind (.checkLimit _ _ _) fun decision => ?_
      split
      · exact refuseRecorded_within _ _
      · refine Prog.within_perform_bind .resolveContact fun recipient => ?_
        split
        · exact refuseRecorded_within _ _
        · refine Prog.within_perform_bind (.deliver _) fun delivered => ?_
          exact Prog.within_perform_bind (.recordSendResult _ now) fun _ => trivial

theorem optedOutOf_within :
    (optedOutOf message).Within (SendCall message) X fun _ => True := by
  unfold optedOutOf
  cases message.optOutExempt with
  | true => trivial
  | false => exact Prog.within_perform (S := ports) (P := SendCall message) .optedOut

/-- The boundary makes no other calls. -/
theorem send_within : (send cfg message).Within (SendCall message) X fun _ => True := by
  refine Prog.within_perform_bind .now fun now => ?_
  split
  · trivial
  · refine Prog.within_perform_bind (.loadOwnership now) fun ownership => ?_
    split
    · trivial
    · refine Prog.within_perform_bind .load fun snapshot => ?_
      split
      · trivial
      · refine optedOutOf_within.bind fun out _ => ?_
        split
        · trivial
        · refine Prog.within_perform_bind (.claimSend now) fun claimed => ?_
          split
          · trivial
          · exact deliverClaimed_within

end Within

/-! ## The boundary is neutral -/

section Refinement

variable {C : Type}

theorem Neutral.trans {a b c : World C} (h : Neutral a b) (h' : Neutral b c) : Neutral a c where
  conversations := h'.conversations.trans h.conversations
  claims := h'.claims.trans h.claims
  queue := h'.queue.trans h.queue
  clock := h.clock.trans h'.clock
  scheduled body hbody := (h'.scheduled body hbody).elim (h.scheduled body) .inr
  outbox row hrow := (h'.outbox row hrow).elim (h.outbox row) .inr

variable [ConversationRepository C]

/-- A call of the boundary is neutral. -/
theorem SendCall.neutral {message : OutboundMessage} {o : Op} (ho : SendCall message o)
    {w w' : World C} {r : Except Exn o.Res} (h : Answers o w r w') : Neutral w w' := by
  refine h.keeps (Neutral.refl w) ?_ fun _ _ hn => hn
  cases ho with
  | claimSend now =>
    simp only [World.answer]
    split
    · exact Neutral.refl w
    · exact ⟨rfl, rfl, rfl, le_refl _, fun _ h => .inl h, fun _ h => .inl h⟩
  | _ => exact Neutral.refl w

/-- **The boundary is neutral.** Whatever it decides, and wherever it fails, a run of it is
what a single call of the component may do. -/
theorem send_neutral {cfg : Config} {message : OutboundMessage} {w : World C} :
    Meets alone (fun _ _ => True) (fun _ w' => Neutral w w') (send cfg message) w :=
  (Meets.of_within (X := fun _ => True) send_within (fun _ _ ha hm => hm ▸ ha)
    (fun _ _ _ _ ho ha hans => ⟨trivial, ha.trans (ho.neutral hans), fun _ _ => trivial⟩)
    (Neutral.refl w)).post fun _ _ h => h.1

end Refinement

end NxTutors.DemoAgent
