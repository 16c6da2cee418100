import NxTutors.DemoAgent.SendOnce

/-!
# A message that was not delivered

The boundary claims the key of a message before it asks whether the session window is open, what
the limiter says, who the recipient is, and before it delivers. The claim is for good. So a message
that is refused by one of these, or that the provider fails to deliver, is as good as sent: the key
is in the message log, and whoever sends the message again is told that it is a duplicate.
-/

namespace NxTutors.DemoAgent

open Effect

/-- **A send that ended without delivery** and could be repeated: the limiter said when, the session
window was closed, the recipient could not be resolved, or the provider failed. -/
inductive Undelivered (r : SendResult) : Prop
  | limited (houtcome : r.outcome = .suppressedRateLimit)
  | windowClosed (houtcome : r.outcome = .suppressedNoTemplate)
  | unresolvable (houtcome : r.outcome = .suppressedOptOut)
    (hdetail : r.detail = "unresolvable_recipient")
  | providerFailed (houtcome : r.outcome = .failed)

variable {C : Type} [ConversationRepository C]

/-- Between two calls others do what they like; the keys in the message log stay there. -/
def amidOthers : Setting ports Exn (World C) where
  answers := Answers
  moves a b := ∀ key ∈ a.messageLog, key ∈ b.messageLog

/-- **A message is sent again**, at any time after a send of it has ended without delivery. -/
structure SentAgain (cfg : Config) (message : OutboundMessage) (result : SendResult)
    (out : Except Exn SendResult) (calls : History ports Exn) (w : World C) : Prop where
  first : ∃ w₀ w₁ calls₀, Run amidOthers.logged (send cfg message) (w₀, []) (.ok result)
    (w₁, calls₀) ∧ amidOthers.moves w₁ w
  undelivered : Undelivered result
  again : ∃ w₂, Run amidOthers.logged (send cfg message) (w, []) out (w₂, calls)

/-- The send reaches the provider. -/
def Reaches (message : OutboundMessage) (calls : History ports Exn) : Prop :=
  ∃ c ∈ calls, deliveryOf c = some message

/-! ## The first send -/

section First

variable {cfg : Config} {message : OutboundMessage}

/-- What was claimed stays claimed while the message is delivered. -/
theorem deliverClaimed_claimed {now : Time} {a : World C × History ports Exn}
    (h : message.idempotencyKey ∈ a.1.messageLog) :
    Meets amidOthers.logged (fun _ _ => True)
      (fun _ b => message.idempotencyKey ∈ b.1.messageLog) (deliverClaimed cfg message now) a :=
  have hmove : ∀ a b : World C × History ports Exn, message.idempotencyKey ∈ a.1.messageLog →
      amidOthers.logged.moves a b → message.idempotencyKey ∈ b.1.messageLog :=
    fun _ _ ha hm => hm.1 _ ha
  have hcall : ∀ (o : Op) (a : World C × History ports Exn) (r : Except Exn o.Res)
      (b : World C × History ports Exn), SendCall message o →
      message.idempotencyKey ∈ a.1.messageLog → amidOthers.logged.answers o a r b →
      True ∧ message.idempotencyKey ∈ b.1.messageLog ∧ ∀ e, r = .error e → True :=
    fun _ _ _ _ ho ha hans => ⟨trivial, ho.messageLog hans.1 _ ha, fun _ _ => trivial⟩
  (Meets.of_within deliverClaimed_within hmove hcall h).post fun _ _ hout => hout.1

/-- A call before the claim, of which nothing is used. -/
theorem ask_before_claim {o : Op} {f : o.Res → Act SendResult}
    {Q : Except Exn SendResult → World C × History ports Exn → Prop}
    {a : World C × History ports Exn}
    (hf : ∀ x b, Meets amidOthers.logged (fun _ _ => True) Q (f x) b) (he : ∀ e b, Q (.error e) b) :
    Meets amidOthers.logged (fun _ _ => True) Q (ask o >>= f) a :=
  Meets.perform_bind fun _ _ _ b _ => ⟨trivial, fun x _ => hf x b, fun e _ => he e b⟩

/-- **What ends without delivery has claimed its key**: the refusals before the claim are others. -/
theorem send_claims (a : World C × History ports Exn) :
    Meets amidOthers.logged (fun _ _ => True) (fun out b => ∀ r, out = .ok r → Undelivered r →
      message.idempotencyKey ∈ b.1.messageLog) (send cfg message) a := by
  have hraised : ∀ (e : Exn) (b : World C × History ports Exn) (r : SendResult),
      (Except.error e : Except Exn SendResult) = .ok r → Undelivered r →
        message.idempotencyKey ∈ b.1.messageLog := fun _ _ _ heq => nomatch heq
  have hrefused : ∀ (r : SendResult) (b : World C × History ports Exn), ¬ Undelivered r →
      ∀ r', (Except.ok r : Except Exn SendResult) = .ok r' → Undelivered r' →
        message.idempotencyKey ∈ b.1.messageLog := by
    intro r b hnot r' heq hr'
    cases heq
    exact absurd hr' hnot
  refine ask_before_claim (fun now b => ?_) hraised
  split
  · exact hrefused _ b (by rintro (h | h | ⟨h, -⟩ | h) <;> cases h)
  · refine ask_before_claim (fun ownership b => ?_) hraised
    split
    · exact hrefused _ b (by rintro (h | h | ⟨h, -⟩ | h) <;> cases h)
    · refine ask_before_claim (fun snapshot b => ?_) hraised
      split
      · exact hrefused _ b (by rintro (h | h | ⟨h, -⟩ | h) <;> cases h)
      · refine Meets.bind (M := fun _ _ => True) ?_ (fun out b _ => ?_) fun e b _ => hraised e b
        · exact Meets.of_run fun _ _ _ => trivial
        · split
          · refine hrefused _ b ?_
            rintro (h | h | ⟨-, h⟩ | h)
            · cases h
            · cases h
            · exact absurd (show Text.take "" 200 = "unresolvable_recipient" from h) (by decide)
            · cases h
          · refine Meets.perform_bind fun b₁ _ r b₂ hans => ⟨trivial, ?_, fun e _ => hraised e b₂⟩
            rintro granted rfl
            cases granted with
            | false => exact hrefused _ b₂ (by rintro (h | h | ⟨h, -⟩ | h) <;> cases h)
            | true =>
              exact (deliverClaimed_claimed (Answers.granted hans.1).2).post
                fun _ _ hkey _ _ _ => hkey

end First

/-! ## The second -/

section Second

variable {cfg : Config} {message : OutboundMessage}

/-- The key is in the log, and the send has neither claimed nor delivered. -/
structure Barred (message : OutboundMessage) (a : World C × History ports Exn) : Prop where
  key : message.idempotencyKey ∈ a.1.messageLog
  unclaimed : ∀ now granted, ¬ Answered a.2 (.claimSend message now) granted
  unreached : ¬ Reaches message a.2

/-- What comes of it: nothing is delivered, and who asks for the claim is told of a duplicate. -/
structure TurnedAway (message : OutboundMessage) (out : Except Exn SendResult)
    (calls : History ports Exn) : Prop where
  unreached : ¬ Reaches message calls
  duplicate : ∀ now granted, Answered calls (.claimSend message now) granted →
    out = .ok { outcome := .duplicate, idempotencyKey := message.idempotencyKey }

omit [ConversationRepository C] in
theorem Barred.turnedAway {a : World C × History ports Exn} (h : Barred message a)
    (out : Except Exn SendResult) : TurnedAway message out a.2 :=
  ⟨h.unreached, fun now granted hclaim => absurd hclaim (h.unclaimed now granted)⟩

/-- A gate before the claim leaves the send barred. -/
theorem Barred.snoc {a b : World C × History ports Exn} {o : Op} {r : Except Exn o.Res}
    (h : Barred message a) (ho : SendCall message o)
    (hclaim : ∀ now granted, (⟨o, r⟩ : Call ports Exn) ≠ ⟨.claimSend message now, .ok granted⟩)
    (hdeliver : o.delivers = false) {a' : World C × History ports Exn}
    (hmove : amidOthers.logged.moves a a') (hans : amidOthers.logged.answers o a' r b) :
    Barred message b := by
  obtain ⟨hans, hlog⟩ := hans
  rw [hmove.2] at hlog
  refine ⟨ho.messageLog hans _ (hmove.1 _ h.key), fun now granted hanswered => ?_, ?_⟩
  · rw [hlog] at hanswered
    rcases List.mem_append.mp hanswered with hold | hnew
    · exact h.unclaimed now granted hold
    · exact hclaim now granted (List.mem_singleton.mp hnew).symm
  · rintro ⟨c, hmem, hc⟩
    rw [hlog] at hmem
    rcases List.mem_append.mp hmem with hold | hnew
    · exact h.unreached ⟨c, hold, hc⟩
    · obtain rfl := List.mem_singleton.mp hnew
      have hnone : deliveryOf ⟨o, r⟩ = none := by
        cases o with
        | deliver => cases hdeliver
        | _ => rfl
      rw [hnone] at hc
      cases hc

/-- One gate before the claim, and what comes after it. -/
theorem ask_barred {α : Type} {o : Op} {f : o.Res → Act α} {a : World C × History ports Exn}
    {Q : Except Exn α → World C × History ports Exn → Prop} (h : Barred message a)
    (ho : SendCall message o) (hclaim : ∀ now, o ≠ .claimSend message now)
    (hdeliver : o.delivers = false)
    (hf : ∀ x b, Barred message b → Meets amidOthers.logged (fun _ _ => True) Q (f x) b)
    (he : ∀ e b, Barred message b → Q (.error e) b) :
    Meets amidOthers.logged (fun _ _ => True) Q (ask o >>= f) a :=
  Meets.perform_bind fun _ hmove _ b hans =>
    have hb := h.snoc ho (fun now _ heq => hclaim now (congrArg Sigma.fst heq)) hdeliver hmove hans
    ⟨trivial, fun x _ => hf x b hb, fun e _ => he e b hb⟩

/-- **A send of a message whose key is taken is turned away.** -/
theorem send_turned_away {a : World C × History ports Exn} (h : Barred message a) :
    Meets amidOthers.logged (fun _ _ => True) (fun out b => TurnedAway message out b.2)
      (send cfg message) a := by
  have hends : ∀ (out : Except Exn SendResult) (b : World C × History ports Exn),
      Barred message b → TurnedAway message out b.2 := fun out _ hb => hb.turnedAway out
  refine ask_barred h .now nofun rfl (fun now b h => ?_) fun e => hends _
  split
  · exact hends _ b h
  · refine ask_barred h (.loadOwnership now) nofun rfl (fun ownership b h => ?_) fun e => hends _
    split
    · exact hends _ b h
    · refine ask_barred h .load nofun rfl (fun snapshot b h => ?_) fun e => hends _
      split
      · exact hends _ b h
      · refine Meets.bind (M := fun _ b => Barred message b) ?_ (fun out b h => ?_)
          fun e b => hends _ b
        · unfold optedOutOf
          cases message.optOutExempt with
          | true => exact h
          | false =>
            refine (meets_perform (S := ports) (o := .optedOut message.recipientRef)).mpr ?_
            intro b₁ hmove r b₂ hans
            exact ⟨trivial, h.snoc .optedOut (fun _ _ heq => nomatch congrArg Sigma.fst heq) rfl
              hmove hans⟩
        · split
          · exact hends _ b h
          · refine Meets.perform_bind fun b₁ hmove r b₂ hans => ⟨trivial, ?_, ?_⟩
            · rintro granted rfl
              have hkey : message.idempotencyKey ∈ b₁.1.messageLog := hmove.1 _ h.key
              cases granted with
              | true => exact absurd hkey (Answers.granted hans.1).1
              | false =>
                refine ⟨?_, fun _ _ _ => rfl⟩
                rintro ⟨c, hmem, hc⟩
                rw [hans.2, hmove.2] at hmem
                rcases List.mem_append.mp hmem with hold | hnew
                · exact h.unreached ⟨c, hold, hc⟩
                · obtain rfl := List.mem_singleton.mp hnew
                  cases hc
            · rintro e rfl
              exact hends _ b₂ (h.snoc (.claimSend now)
                (fun _ _ heq => by cases heq) rfl hmove hans)

end Second

/-- **What was not delivered is never sent again.** However a send ended without delivery, whoever
sends the message again, then or at any later time and whatever has happened since, does not reach
the provider; if the gates before the claim let it pass, it is told of a duplicate. -/
theorem undelivered_turned_away {cfg : Config} {message : OutboundMessage} {result : SendResult}
    {out : Except Exn SendResult} {calls : History ports Exn} {w : World C}
    (h : SentAgain cfg message result out calls w) : TurnedAway message out calls := by
  obtain ⟨w₀, w₁, calls₀, hfirst, hlater⟩ := h.first
  obtain ⟨w₂, hagain⟩ := h.again
  have hkey : message.idempotencyKey ∈ w₁.messageLog :=
    (send_claims (w₀, [])).run hfirst result rfl h.undelivered
  have hbarred : Barred message (w, []) :=
    ⟨hlater _ hkey, fun _ _ hmem => absurd hmem List.not_mem_nil,
      fun ⟨_, hmem, _⟩ => absurd hmem List.not_mem_nil⟩
  exact (send_turned_away hbarred).run hagain

/-! ## An answer that was limited -/

/-- What a call is answered when everything works, but the limiter says to wait a minute. -/
def World.limiting (o : Op) (w : World InMemoryConversations) :
    Except Exn o.Res × World InMemoryConversations :=
  match o with
  | .checkLimit .. => (.ok { allowed := false, retryAfterSeconds := 60 }, w)
  | o => w.smooth o

theorem answers_limiting (o : Op) (w : World InMemoryConversations) :
    Answers o w (World.limiting o w).1 (World.limiting o w).2 := by
  cases o with
  | checkLimit => exact .outside _ rfl
  | _ => exact answers_smooth _ w

/-- An answer to the parent is refused by the limiter. -/
def limited : Except Exn SendResult × (World InMemoryConversations × History ports Exn) :=
  play (S := ports) (scribe fun _ o w => World.limiting o w) 0 (send plainConfig answerText)
    (inSession, [])

/-- An hour later, nobody has done anything else. -/
def hourLater : World InMemoryConversations := { limited.2.1 with clock := hour }

/-- The answer is sent again, and everything works. -/
def resent : Except Exn SendResult × (World InMemoryConversations × History ports Exn) :=
  play (S := ports) (scribe fun _ o w => World.smooth w o) 0 (send plainConfig answerText)
    (hourLater, [])

/-- What it would come to if nobody had claimed its key. -/
def sentAnew : Except Exn SendResult × (World InMemoryConversations × History ports Exn) :=
  play (S := ports) (scribe fun _ o w => World.smooth w o) 0 (send plainConfig answerText)
    ({ hourLater with messageLog := [] }, [])

theorem limited_ends :
    limited.1 = .ok (refuse answerText .suppressedRateLimit "retry_in=60") ∧
      resent.1 = .ok { outcome := .duplicate, idempotencyKey := "k" } ∧
      (∀ c ∈ resent.2.2, deliveryOf c = none) ∧
      ∃ c ∈ sentAnew.2.2, deliveryOf c = some answerText := by
  decide

theorem limited_sentAgain : SentAgain plainConfig answerText
    (refuse answerText .suppressedRateLimit "retry_in=60") resent.1 resent.2.2 hourLater := by
  have hmove : ∀ w : World InMemoryConversations, amidOthers.moves w w := fun _ _ h => h
  have hlimiting : ∀ (_ : Nat) (o : Op) (w : World InMemoryConversations), ∃ w₁,
      amidOthers.moves w w₁ ∧
        amidOthers.answers o w₁ (World.limiting o w).1 (World.limiting o w).2 :=
    fun _ o w => ⟨w, hmove w, answers_limiting o w⟩
  have hsmooth : ∀ (_ : Nat) (o : Op) (w : World InMemoryConversations), ∃ w₁,
      amidOthers.moves w w₁ ∧ amidOthers.answers o w₁ (w.smooth o).1 (w.smooth o).2 :=
    fun _ o w => ⟨w, hmove w, answers_smooth o w⟩
  have hfirst : Run amidOthers.logged (send plainConfig answerText) (inSession, [])
      limited.1 limited.2 := run_play (scribe_possible hlimiting) 0 _ _
  have hagain : Run amidOthers.logged (send plainConfig answerText) (hourLater, [])
      resent.1 resent.2 := run_play (scribe_possible hsmooth) 0 _ _
  rw [limited_ends.1] at hfirst
  exact ⟨⟨inSession, limited.2.1, limited.2.2, hfirst, fun _ h => h⟩, .limited rfl,
    ⟨resent.2.1, hagain⟩⟩

/-- It is turned away. -/
theorem limited_turned_away : TurnedAway answerText resent.1 resent.2.2 :=
  undelivered_turned_away limited_sentAgain

/-- **An answer that the limiter held up is lost**: an hour later every gate would let it pass, and
yet it is a duplicate. -/
theorem limited_lost : ∃ (cfg : Config) (message : OutboundMessage) (result : SendResult)
    (out : Except Exn SendResult) (calls : History ports Exn) (w : World InMemoryConversations),
    SentAgain cfg message result out calls w ∧ result.detail = "retry_in=60" ∧
      message.expired w.clock = false ∧
      (∃ w' calls', Run amidOthers.logged (send cfg message) ({ w with messageLog := [] }, [])
        sentAnew.1 (w', calls') ∧ Reaches message calls') ∧
      ¬ Reaches message calls ∧ out = .ok { outcome := .duplicate, idempotencyKey := "k" } := by
  have hsmooth : ∀ (_ : Nat) (o : Op) (w : World InMemoryConversations), ∃ w₁,
      amidOthers.moves w w₁ ∧ amidOthers.answers o w₁ (w.smooth o).1 (w.smooth o).2 :=
    fun _ o w => ⟨w, fun _ h => h, answers_smooth o w⟩
  have hanew : Run amidOthers.logged (send plainConfig answerText)
      ({ hourLater with messageLog := [] }, []) sentAnew.1 sentAnew.2 :=
    run_play (scribe_possible hsmooth) 0 _ _
  obtain ⟨-, hduplicate, hundelivered, hdelivered⟩ := limited_ends
  refine ⟨plainConfig, answerText, _, resent.1, resent.2.2, hourLater, limited_sentAgain, rfl, rfl,
    ⟨sentAnew.2.1, sentAnew.2.2, hanew, hdelivered⟩, ?_, hduplicate⟩
  rintro ⟨c, hmem, hc⟩
  rw [hundelivered c hmem] at hc
  cases hc

end NxTutors.DemoAgent
