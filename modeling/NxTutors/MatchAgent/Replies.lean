import NxTutors.MatchAgent.Evaluation
import NxTutors.Effect.Answering
import NxTutors.Effect.Path

/-!
# One reply for each message

A message is redelivered until a call for it returns, and each call that is cut off gives its claim
back. For a message that is enough: whatever was written before, the next call goes on to write the
row of the reply, and the outbox takes it once.

A selection is written before its reply. A call that is cut off in between leaves a conversation in
which the selection is no longer legal, so the next call returns with nothing to say, and the reply
is lost. `answered_once` says that this is the only way to lose one.
-/

namespace NxTutors.MatchAgent

open Effect Prog TurnService

/-- The key of the row that carries the reply. -/
def replyKey (e : InboundEnvelope) : String := "reply:" ++ e.dedupKey

/-- A conversation was saved. -/
def Saved (log : History ports Fault) : Prop :=
  ∃ snapshot expected, ⟨.saveState snapshot expected, .ok ()⟩ ∈ log

/-- No row that carries a reply was refused. -/
def RepliesTaken (log : History ports Fault) : Prop :=
  ∀ m f, ⟨.enqueue m, .error f⟩ ∈ log → m.kind = .memoryDeed

/-! ## Messages -/

section Messages

variable {s : Service} {e : InboundEnvelope} {fails : Op → Prop} {w : World}

/-- A row that carries the reply, when it is taken. -/
theorem enqueue_one {m : OutboxMessage} (hm : m.dedupKey = replyKey e) (hw : w.Unique) :
    (w.enqueue m).One (replyKey e) := by
  refine ⟨fun key => Outbox.count_enqueue_le (hw key), ?_⟩
  have hself := Outbox.count_enqueue_self (hw m.dedupKey)
  rwa [hm] at hself

/-- **The row of the reply is there when it has been handed over.** -/
theorem enqueueReply_meets {text : String} (hw : w.Unique) :
    Meets (stores fails) (fun _ _ => True) (fun out b => out = .ok () → b.One (replyKey e))
      (enqueueReply s e text) w := by
  unfold enqueueReply
  cases hrefusal : (delivery s e text).refusal s.t with
  | some reason => exact fun h => nomatch h
  | none =>
    refine meets_perform.mpr fun a hm r b hans => ⟨trivial, fun hok => ?_⟩
    obtain rfl : w = a := hm
    subst hok
    rcases hans with ⟨-, rfl⟩ | ⟨-, ⟨f, hf⟩, -⟩
    · exact enqueue_one rfl hw
    · cases hf

/-- How a message may end: whoever is served is answered. -/
def MessageEnd (e : InboundEnvelope) (out : Except Fault TurnResult) (w : World) : Prop :=
  ∀ r, out = .ok r → r.served = true → r.reply.isSome ∧ w.One (replyKey e)

theorem messageEnd_error {f : Fault} : MessageEnd e (.error f) w := fun _ h => nomatch h

/-- Reply, note the deed, and return with the reply. -/
theorem replied_meets {text deed summary : String} {tutors degraded : List String}
    {f : List String → TurnResult} (hw : w.Unique) (hf : ∀ d, (f d).reply = some text) :
    Meets (stores fails) (fun _ _ => True) (MessageEnd e) (do
      enqueueReply s e text
      let degraded ← recordDeed s e deed summary tutors degraded
      .ret (f degraded)) w := by
  refine (enqueueReply_meets hw).bind (fun _ a ha => ?_) fun _ _ _ => messageEnd_error
  have hone : a.One (replyKey e) := ha rfl
  refine (meets_one hone).bind (fun d b hb => ?_)
    fun _ _ _ => messageEnd_error
  rintro r hr -
  cases hr
  rw [hf]
  exact ⟨rfl, hb⟩

variable {expected : Nat} {snapshot : ConversationSnapshot} {now : Time}

theorem clarify_meets {readiness : Readiness} {degraded : List String} (hw : w.Unique) :
    Meets (stores fails) (fun _ _ => True) (MessageEnd e)
      (clarify s e expected snapshot now readiness degraded) w := by
  refine meets_call_bind (fun _ b hb => ?_) fun _ _ _ => messageEnd_error
  exact replied_meets (unique_after hb hw) fun _ => rfl

theorem shortlist_meets {requirement : MatchRequirement} {degraded : List String}
    (hw : w.Unique) : Meets (stores fails) (fun _ _ => True) (MessageEnd e)
      (shortlist s e expected snapshot now requirement degraded) w := by
  refine meets_call_bind (fun run a ha => ?_) fun _ _ _ => messageEnd_error
  have hfound := unique_after ha hw
  refine meets_call_bind (fun _ b hb => ?_) fun _ _ _ => messageEnd_error
  have hdecided := unique_after hb hfound
  refine meets_call_bind (fun _ c hc => ?_) fun _ _ _ => messageEnd_error
  exact replied_meets (unique_after hc hdecided) fun _ => rfl

theorem serve_meets (hw : w.Unique) : Meets (stores fails) (fun _ _ => True) (MessageEnd e)
    (serve s e expected snapshot now) w := by
  refine (meets_unique hw).bind (fun x a ha => ?_) fun _ _ _ => messageEnd_error
  obtain ⟨incoming, recalled, degraded⟩ := x
  refine meets_call_bind (fun stored b hb => ?_) fun _ _ _ => messageEnd_error
  have hloaded := unique_after hb ha
  refine meets_call_bind (fun _ c hc => ?_) fun _ _ _ => messageEnd_error
  have hsaved := unique_after hc hloaded
  dsimp only
  split
  · exact shortlist_meets hsaved
  · exact clarify_meets hsaved

theorem handleMessage_meets (hw : w.Unique) :
    Meets (stores fails) (fun _ _ => True) (MessageEnd e) (handleMessage s e snapshot now) w := by
  refine (meets_unique hw).bind (fun assessment a ha => ?_) fun _ _ _ => messageEnd_error
  split
  · refine meets_call_bind (fun _ b _ => ?_) fun _ _ _ => messageEnd_error
    rintro r hr hserved
    cases hr
    cases hserved
  · refine (meets_unique ha).bind (fun lookup b hb => ?_) fun _ _ _ => messageEnd_error
    cases lookup with
    | none => exact serve_meets hb
    | some reply =>
      refine meets_call_bind (fun _ c hc => ?_) fun _ _ _ => messageEnd_error
      have hsaved := unique_after hc hb
      refine (enqueueReply_meets hsaved).bind (fun _ d hd => ?_) fun _ _ _ => messageEnd_error
      rintro r hr -
      cases hr
      exact ⟨rfl, hd rfl⟩

/-- **A call for a message**: whoever is served is answered. -/
theorem handle_message_meets (he : e.isSelection = false) (hw : w.Unique) :
    Meets (stores fails) (fun _ _ => True) (MessageEnd e) (handle s e) w := by
  refine (meets_unique hw).bind (fun stopped a ha => ?_) fun _ _ _ => messageEnd_error
  split
  · refine meets_call_bind (fun _ b _ => ?_) fun _ _ _ => messageEnd_error
    rintro r hr hserved
    cases hr
    cases hserved
  · refine meets_call_bind (fun ours b hb => ?_) fun _ _ _ => messageEnd_error
    have hclaimed := unique_after hb ha
    split
    · refine Meets.tryCatch (M := MessageEnd e) ?_ (fun _ _ h => h) fun f c _ => ?_
      · refine meets_call_bind (fun now c hc => ?_) fun _ _ _ => messageEnd_error
        have hclock := unique_after hc hclaimed
        refine meets_call_bind (fun snapshot d hd => ?_) fun _ _ _ => messageEnd_error
        have hloaded := unique_after hd hclock
        cases hpayload : e.payload with
        | parentSelection selection => simp [InboundEnvelope.isSelection, hpayload] at he
        | leadEvent event => exact handleMessage_meets hloaded
        | whatsappTurn turn => exact handleMessage_meets hloaded
      · exact meets_call_bind (fun _ _ _ => messageEnd_error) fun _ _ _ => messageEnd_error
    · refine meets_call_bind (fun _ c _ => ?_) fun _ _ _ => messageEnd_error
      rintro r hr hserved
      cases hr
      cases hserved

end Messages

/-! ## Selections -/

section Selections

variable {s : Service} {e : InboundEnvelope} {fails : Op → Prop} {w : World}
  {log : History ports Fault}

theorem RepliesTaken.of_append {rest : History ports Fault} (h : RepliesTaken (log ++ rest)) :
    RepliesTaken log := fun m f hm => h m f (List.mem_append_left rest hm)

/-- A call that is no save that was answered leaves a log without one. -/
theorem saved_concat {c : Call ports Fault}
    (hc : ∀ snapshot expected, c ≠ ⟨.saveState snapshot expected, .ok ()⟩)
    (h : Saved (log ++ [c])) : Saved log := by
  obtain ⟨snapshot, expected, hmem⟩ := h
  rcases List.mem_append.mp hmem with hmem | hmem
  · exact ⟨snapshot, expected, hmem⟩
  · exact absurd (List.mem_singleton.mp hmem).symm (hc snapshot expected)

/-- What is true of a call for a selection until it saves. -/
def Unsaved (b : World × History ports Fault) : Prop := b.1.Unique ∧ ¬ Saved b.2

/-- The reply to a selection can be addressed. -/
def Addressed (s : Service) (e : InboundEnvelope) : Prop :=
  (delivery s e SELECTION_REPLY).refusal s.t = none

/-- How it may end: with the reply, if it can be addressed, the selection was saved and no reply
was refused; and with the reply in any case if it says so. -/
def SelectionEnd (s : Service) (e : InboundEnvelope) (out : Except Fault TurnResult)
    (b : World × History ports Fault) : Prop :=
  (Addressed s e → Saved b.2 → RepliesTaken b.2 → b.1.One (replyKey e)) ∧
    ∀ r, out = .ok r → r.served = true → r.reply.isSome → b.1.One (replyKey e)

/-- Nothing was saved, and an exception ends the call. -/
theorem Unsaved.error {b : World × History ports Fault} {f : Fault} (h : Unsaved b) :
    SelectionEnd s e (.error f) b := ⟨fun _ hsaved => absurd hsaved h.2, fun _ hr => nomatch hr⟩

/-- Nothing was saved, and there is nothing to say. -/
theorem Unsaved.silent {b : World × History ports Fault} {r : TurnResult} (h : Unsaved b)
    (hr : r.reply = none) : SelectionEnd s e (.ok r) b := by
  refine ⟨fun _ hsaved => absurd hsaved h.2, fun r' heq _ hreply => ?_⟩
  cases heq
  rw [hr] at hreply
  cases hreply

/-- What is no save is no save that was answered. -/
theorem ne_saved {o : Op} (ho : ∀ snapshot expected, o ≠ .saveState snapshot expected)
    (r : Except Fault o.Res) (snapshot : ConversationSnapshot) (expected : Nat) :
    (⟨o, r⟩ : Call ports Fault) ≠ ⟨.saveState snapshot expected, .ok ()⟩ := by
  intro heq
  injection heq with hop
  exact ho snapshot expected hop

/-- Neither is a save that was refused. -/
theorem ne_saved_error {o : Op} {f : Fault} {snapshot : ConversationSnapshot} {expected : Nat} :
    (⟨o, .error f⟩ : Call ports Fault) ≠ ⟨.saveState snapshot expected, .ok ()⟩ := by
  intro heq
  cases heq

theorem Unsaved.call {o : Op} {r : Except Fault o.Res} {a b : World × History ports Fault}
    (h : Unsaved a) (hans : (stores fails).logged.answers o a r b)
    (hc : ∀ snapshot expected, (⟨o, r⟩ : Call ports Fault) ≠ ⟨.saveState snapshot expected, .ok ()⟩) :
    Unsaved b := by
  refine ⟨unique_after hans.1 h.1, fun hsaved => h.2 ?_⟩
  rw [hans.2] at hsaved
  exact saved_concat hc hsaved

/-- A call that saves nothing, and what comes after it. -/
theorem meets_unsaved_bind {o : Op} {f : o.Res → Turn TurnResult} {a : World × History ports Fault}
    (ho : ∀ snapshot expected, o ≠ .saveState snapshot expected) (ha : Unsaved a)
    (hok : ∀ x b, Unsaved b →
      Meets (stores fails).logged (fun _ _ => True) (SelectionEnd s e) (f x) b) :
    Meets (stores fails).logged (fun _ _ => True) (SelectionEnd s e) (call o >>= f) a := by
  refine Meets.perform_bind (S := ports) (o := o) fun a' hm r b hans => ?_
  obtain rfl : a = a' := Prod.ext hm.1 hm.2.symm
  have hb : Unsaved b := ha.call hans (ne_saved ho r)
  exact ⟨trivial, fun x _ => hok x b hb, fun x _ => hb.error⟩

/-- What a call for a selection leaves, it leaves when the claim has been given back. -/
theorem SelectionEnd.release {out : Except Fault TurnResult} {a : World × History ports Fault}
    {f : Fault} (h : SelectionEnd s e out a) :
    Meets (stores fails).logged (fun _ _ => True) (SelectionEnd s e)
      (call (.release e.dedupKey) >>= fun _ => .throw f) a := by
  refine Meets.perform_bind (S := ports) (o := .release e.dedupKey) fun a' hm r b hans => ?_
  obtain rfl : a = a' := Prod.ext hm.1 hm.2.symm
  have hend : ∀ x, SelectionEnd s e (.error x) b := by
    refine fun x => ⟨fun haddressed hsaved htaken => ?_, fun _ hr => nomatch hr⟩
    rw [hans.2] at hsaved htaken
    have hone := h.1 haddressed (saved_concat (ne_saved (o := .release e.dedupKey) (fun _ _ => nofun) r) hsaved) htaken.of_append
    exact stores_keeps (fun _ _ _ _ h => h.one) hans.1 hone
  exact ⟨trivial, fun x _ => hend f, fun x _ => hend x⟩

/-- The reply of a selection that was saved. -/
theorem selectionReply_meets {r : TurnResult} {a : World × History ports Fault} (ha : a.1.Unique) :
    Meets (stores fails).logged (fun _ _ => True) (SelectionEnd s e) (do
      enqueueReply s e SELECTION_REPLY
      .ret r) a := by
  unfold enqueueReply
  cases hrefusal : (delivery s e SELECTION_REPLY).refusal s.t with
  | some reason =>
    refine ⟨fun haddressed => ?_, fun _ hr => nomatch hr⟩
    rw [Addressed, hrefusal] at haddressed
    cases haddressed
  | none =>
    refine Meets.perform_bind (S := ports) fun a' hm res b hans => ?_
    obtain rfl : a = a' := Prod.ext hm.1 hm.2.symm
    refine ⟨trivial, fun x hx => ?_, fun x hx => ?_⟩
    · have hone : b.1.One (replyKey e) := by
        rcases hans.1 with ⟨-, hb⟩ | ⟨-, ⟨f, hf⟩, -⟩
        · rw [hb]
          exact enqueue_one rfl ha
        · rw [hx] at hf
          cases hf
      exact ⟨fun _ _ _ => hone, fun _ _ _ _ => hone⟩
    · refine ⟨fun _ _ htaken => ?_, fun _ hr => nomatch hr⟩
      -- a reply that is refused carries no deed
      have hkind := htaken (replyMessage s e SELECTION_REPLY) x
        (by rw [hans.2, hx]; simp)
      unfold replyMessage delivery at hkind
      dsimp only at hkind
      split at hkind <;> cases hkind

/-- A deed that cannot be queued does not end the turn. -/
theorem recordDeed_returns {deed summary : String} {tutors degraded : List String} :
    (recordDeed s e deed summary tutors degraded).Returns := by
  unfold recordDeed
  split
  · intro r
    cases r <;> trivial
  · trivial

/-- **A selection and its reply.** Between the two only the deed is written, and an exception
there does not end the call. -/
theorem handleSelection_meets {snapshot : ConversationSnapshot} {a : World × History ports Fault}
    (ha : Unsaved a) :
    Meets (stores fails).logged (fun _ _ => True) (SelectionEnd s e)
      (handleSelection s e snapshot) a := by
  refine meets_unsaved_bind (fun _ _ => nofun) ha fun now b hb => ?_
  dsimp only
  split
  · refine Meets.perform_bind (S := ports) fun b' hm r c hans => ?_
    obtain rfl : b = b' := Prod.ext hm.1 hm.2.symm
    refine ⟨trivial, fun x hx => ?_, fun x hx => ?_⟩
    · have hc : c.1.Unique := unique_after hans.1 hb.1
      have hdeed : Meets (stores fails).logged (fun _ _ => True)
          (fun out d => d.1.Unique ∧ ∃ x, out = .ok x)
          (recordDeed s e DeedType.CANDIDATE_SELECTED "parent selected a tutor" [] [])
          c := .of_run fun _ _ hrun =>
        ⟨unique_of_run hrun.unlogged hc, hrun.returns recordDeed_returns⟩
      refine hdeed.bind (fun _ d hd => selectionReply_meets hd.1) ?_
      rintro f d ⟨-, y, hy⟩
      cases hy
    · subst hx
      exact (hb.call hans fun _ _ => ne_saved_error).error
  · exact hb.silent rfl

/-- **A call for a selection**: if the selection was saved and its reply was not refused, the reply
is there. -/
theorem handle_selection_meets (he : e.isSelection = true) (hw : w.Unique) :
    Meets (stores fails).logged (fun _ _ => True) (SelectionEnd s e) (handle s e) (w, []) := by
  have hstart : Unsaved (w, []) := ⟨hw, fun ⟨_, _, hmem⟩ => absurd hmem List.not_mem_nil⟩
  have hpaused : Meets (stores fails).logged (fun _ _ => True) (fun out b => Unsaved b)
      (paused s) (w, []) := by
    refine (Meets.of_within (I := Unsaved) (calls_paused
      (P := fun o => ∀ snapshot expected, o ≠ .saveState snapshot expected)
      fun _ _ => nofun) ?_ ?_ hstart).post fun _ _ h => h.1
    · rintro a b ha hm
      obtain rfl : a = b := Prod.ext hm.1 hm.2.symm
      exact ha
    · exact fun o a r b ho ha hans => ⟨trivial, ha.call hans (ne_saved ho r), fun _ _ => trivial⟩
  refine hpaused.bind (fun stopped a ha => ?_) fun _ _ h => h.error
  split
  · exact meets_unsaved_bind (fun _ _ => nofun) ha fun _ b hb => hb.silent rfl
  · refine meets_unsaved_bind (fun _ _ => nofun) ha fun ours b hb => ?_
    split
    · refine Meets.tryCatch (M := SelectionEnd s e) ?_ (fun _ _ h => h) fun f c hc => hc.release
      refine meets_unsaved_bind (fun _ _ => nofun) hb fun now c hc => ?_
      refine meets_unsaved_bind (fun _ _ => nofun) hc fun snapshot d hd => ?_
      cases hpayload : e.payload with
      | parentSelection selection => exact handleSelection_meets hd
      | leadEvent event => simp [InboundEnvelope.isSelection, hpayload] at he
      | whatsappTurn turn => simp [InboundEnvelope.isSelection, hpayload] at he
    · exact meets_unsaved_bind (fun _ _ => nofun) hb fun _ c hc => hc.silent rfl

end Selections

/-! ## Deliveries and redeliveries -/

/-- One call of the service: the envelope, what its calls were answered, and how it ended. -/
structure Delivery where
  envelope : InboundEnvelope
  log : History ports Fault
  out : Except Fault TurnResult

namespace Delivery

/-- The call returned a result that is no duplicate, not throttled and not paused. -/
def Returned (d : Delivery) : Prop := ∃ r, d.out = .ok r ∧ r.served = true

/-- The trigger was legal: that of a message always is, and that of a selection is when the
selection was saved. -/
def Accepted (d : Delivery) : Prop := d.envelope.isSelection = false ∨ Saved d.log

/-- What follows a selection in its call works: its row has an address, and is taken. -/
def Taken (s : Service) (d : Delivery) : Prop :=
  d.envelope.isSelection = true → Addressed s d.envelope ∧ RepliesTaken d.log

/-- What a call leaves in the outbox. -/
structure Left (s : Service) (d : Delivery) (w : World) : Prop where
  /-- a reply that is named is there -/
  named : ∀ r, d.out = .ok r → r.served = true → r.reply.isSome → w.One (replyKey d.envelope)
  /-- a message that was served is answered -/
  message : d.envelope.isSelection = false → d.Returned → w.One (replyKey d.envelope)
  /-- a selection that was saved is answered, if its reply was taken -/
  selection : d.envelope.isSelection = true → Saved d.log → d.Taken s → w.One (replyKey d.envelope)

end Delivery

/-- What happens: a call, or a step of the relay. -/
inductive Event
  | delivery (d : Delivery)
  | relay

/-- The calls in `fails` may raise. -/
inductive Happens (s : Service) (fails : Op → Prop) (w : World) : Event → World → Prop
  | delivery {d : Delivery} {w' : World}
    (h : Run (stores fails).logged (handle s d.envelope) (w, []) d.out (w', d.log)) :
    Happens s fails w (.delivery d) w'
  | relay {o : Outbox} (h : w.outbox.Relayed o) : Happens s fails w .relay { w with outbox := o }

section Runs

variable {s : Service} {fails : Op → Prop} {w w' : World} {events : List Event}

theorem Happens.unique {x : Event} (h : Happens s fails w x w') (hw : w.Unique) : w'.Unique := by
  cases h with
  | delivery h => exact unique_of_run h.unlogged hw
  | relay h => exact fun key => h.count ▸ hw key

theorem Happens.one {x : Event} {key : String} (h : Happens s fails w x w') (hw : w.One key) :
    w'.One key := by
  cases h with
  | delivery h => exact one_of_run h.unlogged hw
  | relay h => exact ⟨fun key => h.count ▸ hw.1 key, h.count.trans hw.2⟩

/-- What a call has left stays. -/
theorem Delivery.Left.after {d : Delivery} {x : Event} (hd : d.Left s w)
    (h : Happens s fails w x w') : d.Left s w' where
  named r hr hserved hreply := h.one (hd.named r hr hserved hreply)
  message he hreturned := h.one (hd.message he hreturned)
  selection he hsaved htaken := h.one (hd.selection he hsaved htaken)

/-- What a call leaves. -/
theorem Happens.left {d : Delivery} (h : Happens s fails w (.delivery d) w') (hw : w.Unique) :
    d.Left s w' := by
  cases h with
  | delivery h =>
    cases he : d.envelope.isSelection with
    | false =>
      have hend : MessageEnd d.envelope d.out w' := (handle_message_meets he hw).run h.unlogged
      exact
        { named := fun r hr hserved _ => (hend r hr hserved).2
          message := fun _ ⟨r, hr, hserved⟩ => (hend r hr hserved).2
          selection := fun htrue => absurd (he ▸ htrue) Bool.false_ne_true }
    | true =>
      have hend : SelectionEnd s d.envelope d.out (w', d.log) :=
        (handle_selection_meets he hw).run h
      exact
        { named := hend.2
          message := fun hfalse => absurd (he ▸ hfalse) Bool.false_ne_true.symm
          selection := fun _ hsaved htaken => hend.1 (htaken he).1 hsaved (htaken he).2 }

/-- Every call of a run leaves what it leaves. -/
theorem left_of_path (h : Path (Happens s fails) .fresh events w) :
    w.Unique ∧ ∀ d, .delivery d ∈ events → d.Left s w := by
  induction h with
  | nil => exact ⟨World.unique_fresh, fun d hd => absurd hd List.not_mem_nil⟩
  | snoc _ hstep ih =>
    refine ⟨hstep.unique ih.1, fun d hd => ?_⟩
    rcases List.mem_append.mp hd with hd | hd
    · exact (ih.2 d hd).after hstep
    · obtain rfl := List.mem_singleton.mp hd
      exact hstep.left ih.1

/-- Every accepted message is answered exactly once: whoever has a call that returned, and one that
was accepted, has one row, and nobody has two. -/
def AnsweredOnce (events : List Event) (w : World) : Prop :=
  (∀ key, w.outbox.count key ≤ 1) ∧
    ∀ d d', .delivery d ∈ events → .delivery d' ∈ events → d'.envelope = d.envelope →
      d.Returned → d'.Accepted → w.outbox.count (replyKey d.envelope) = 1

/-- **One reply for each message**, whatever raises and whenever: if what follows a selection in
its call works, every run answers every accepted message once. Without that nobody has two rows
still, and whoever is told a reply has its row. -/
theorem answered_once (h : Path (Happens s fails) .fresh events w) :
    (∀ key, w.outbox.count key ≤ 1) ∧
      (∀ d r, .delivery d ∈ events → d.out = .ok r → r.served = true → r.reply.isSome →
        w.outbox.count (replyKey d.envelope) = 1) ∧
      ((∀ d, .delivery d ∈ events → d.Taken s) → AnsweredOnce events w) := by
  obtain ⟨hunique, hleft⟩ := left_of_path h
  refine ⟨hunique, fun d r hd hr hserved hreply => ((hleft d hd).named r hr hserved hreply).2,
    fun htaken => ⟨hunique, ?_⟩⟩
  rintro d d' hd hd' henvelope hreturned haccepted
  cases he : d.envelope.isSelection with
  | false => exact ((hleft d hd).message he hreturned).2
  | true =>
    rw [← henvelope] at he ⊢
    rcases haccepted with hmessage | hsaved
    · rw [he] at hmessage
      cases hmessage
    · exact ((hleft d' hd').selection he hsaved (htaken d' hd')).2

end Runs

/-! ### A choice that is not answered -/

/-- A message that is answered with a shortlist. -/
def matching : InboundEnvelope := messageOf "m1" "maths" onlineMaths none m1_le none_le

/-- The choice of a tutor. -/
def choosing : InboundEnvelope := selectionOf "m2" (by decide)

/-- A tutor may be chosen, and the choice was not delivered yet. -/
structure Offered (w : World) : Prop where
  state : (w.load "wa:1").state = .awaitingSelection
  free : w.taken "m2" 0 = false
  unanswered : w.outbox.count "reply:m2" = 0

theorem matching_offered : ∃ r w,
    findsAna.eval (handle smallService matching) .fresh = (.ok r, w) ∧ Offered w := by
  have hserves : findsAna.Serves smallService matching .fresh :=
    { running := rfl, free := rfl, message := rfl, kept := rfl, noLookup := rfl, readable := rfl }
  refine ⟨_, _, findsAna.eval_handle_match hserves (by decide) rfl rfl
    (by decide), ?_, by rfl, ?_⟩
  · exact (congrArg ConversationSnapshot.state (World.load_saved _ _)).trans (by decide)
  · exact Outbox.count_enqueue.trans (by decide)

/-- The outbox is down. -/
def outboxDown : Op → Bool
  | .enqueue _ => true
  | _ => false

/-- The conversation when the choice has been saved. -/
def demoRequested (w : World) : ConversationSnapshot :=
  (w.load "wa:1").moved .parentSelected .demoRequested 0 "trace"

/-- What is stored when the choice has been saved and its reply could not be written. -/
def interrupted (w : World) : World := ((w.claimed "m2" 0).saved (demoRequested w)).release "m2"

/-- The calls until the reply could not be written. -/
def refusedLog (w : World) : History ports Fault :=
  [⟨Op.claim "m2", .ok true⟩, ⟨Op.now, .ok (0 : Time)⟩,
    ⟨Op.loadState "wa:1", .ok (w.load "wa:1")⟩, ⟨Op.now, .ok (0 : Time)⟩,
    ⟨Op.saveState (demoRequested w) (w.load "wa:1").lockVersion, .ok ()⟩,
    ⟨Op.enqueue (replyMessage smallService choosing SELECTION_REPLY),
      .error .unavailable⟩]

theorem saved_refusedLog (w : World) : Saved (refusedLog w) :=
  ⟨_, _, .tail _ (.tail _ (.tail _ (.tail _ (.head _))))⟩

/-- The call that is cut off. -/
theorem choosing_interrupted {w : World} (h : Offered w) :
    Outside.logged {} outboxDown (handle smallService choosing) w =
      (.error .unavailable, interrupted w, refusedLog w ++ [⟨Op.release "m2", .ok ()⟩]) := by
  have hclaim : Outside.answer {} (.claim "m2") w = (.ok true, w.claimed "m2" 0) :=
    World.claim_of_free h.free
  have hlegal : (w.load "wa:1").tryTransition .parentSelected 0 "trace" =
      (demoRequested w, true) := by
    rw [ConversationSnapshot.tryTransition, h.state]
    rfl
  have hsave : Outside.answer {} (.saveState (demoRequested w) (w.load "wa:1").lockVersion)
      (w.claimed "m2" 0) = (.ok (), (w.claimed "m2" 0).saved (demoRequested w)) := by
    refine World.saveState_of_version ?_
    rw [show (demoRequested w).conversationId = "wa:1" from w.load_conversationId "wa:1"]
    exact w.version_eq_load "wa:1"
  have hrefusal : (delivery smallService choosing SELECTION_REPLY).refusal
      smallService.t = none := refusal_selection.mpr (by decide)
  have hreply : enqueueReply smallService choosing SELECTION_REPLY =
      call (.enqueue (replyMessage smallService choosing SELECTION_REPLY)) := by
    rw [enqueueReply, hrefusal]
  have hprocess : Prog.eval (S := ports) (noting (Outside.failing {} outboxDown))
      (process smallService choosing)
      (w.claimed "m2" 0, [⟨Op.claim "m2", .ok true⟩]) =
      (.error .unavailable, (w.claimed "m2" 0).saved (demoRequested w), refusedLog w) := by
    refine (Outside.logged_bind (o := .now) rfl rfl).trans ?_
    refine (Outside.logged_bind (o := .loadState "wa:1") rfl rfl).trans ?_
    refine (Outside.logged_bind (o := .now) rfl rfl).trans ?_
    have hmoved : ((w.claimed "m2" 0).load "wa:1").tryTransition .parentSelected (Outside.now {})
        choosing.traceId = (demoRequested w, true) := hlegal
    rw [hmoved]
    refine (Outside.logged_bind rfl hsave).trans ?_
    rw [hreply]
    rfl
  have hpaused : paused smallService = .ret false := rfl
  unfold handle Outside.logged
  rw [hpaused]
  refine (Outside.logged_bind rfl hclaim).trans ?_
  exact (Prog.eval_tryCatch_error hprocess).trans rfl

theorem interrupted_demoRequested {w : World} :
    ((interrupted w).load "wa:1").state = .demoRequested := by
  have hload := World.load_saved (w.claimed "m2" 0) (demoRequested w)
  rw [show (demoRequested w).conversationId = "wa:1" from w.load_conversationId "wa:1"] at hload
  exact congrArg ConversationSnapshot.state hload

/-- The call that comes next has nothing to say. -/
theorem choosing_resumed {w : World} (hstate : (w.load "wa:1").state = .demoRequested)
    (hfree : w.taken "m2" 0 = false) :
    Outside.eval {} (handle smallService choosing) w =
      (.ok (Outside.unchosen choosing (w.load "wa:1")), w.claimed "m2" 0) := by
  have hillegal : ((w.load "wa:1").tryTransition .parentSelected 0 "trace").2 = false := by
    rw [ConversationSnapshot.tryTransition, hstate]
    rfl
  have hprocess : Outside.eval {} (process smallService choosing)
      (w.claimed "m2" 0) =
      (.ok (Outside.unchosen choosing (w.load "wa:1")), w.claimed "m2" 0) := by
    rw [Outside.eval_process_selection _ rfl]
    exact Outside.eval_handleSelection_illegal _ hillegal
  refine (Outside.eval_handle _ rfl hfree).trans ?_
  rw [show Outside.eval {} (process smallService choosing)
    (w.claimed choosing.dedupKey (Outside.now {})) = _ from hprocess]

/-- A run that is evaluated happens. -/
theorem happens_of_eval {x : Outside} {s : Service} {e : InboundEnvelope} {w w' : World}
    {out : Except Fault TurnResult} (h : x.eval (handle s e) w = (out, w')) :
    ∃ log, Happens s (fun _ => True) w (.delivery ⟨e, log, out⟩) w' := by
  obtain ⟨log, hrun⟩ := x.run_of_eval (fun _ => True) h
  exact ⟨log, .delivery hrun⟩

/-- The message is answered with one row. -/
theorem matching_answered : ∃ log r w,
    Path (Happens smallService fun _ => True) .fresh [.delivery ⟨matching, log, .ok r⟩] w ∧
      ∀ key, w.outbox.count key ≤ 1 := by
  obtain ⟨r, w, heval, -⟩ := matching_offered
  obtain ⟨log, hhappens⟩ := happens_of_eval heval
  have hpath := Path.cons hhappens .nil
  exact ⟨log, r, w, hpath, (answered_once hpath).1⟩

/-- **A choice is not answered**: its state is written, the outbox is down, and the call that comes
next finds a choice that is not legal any more. -/
theorem choice_unanswered :
    ¬ ∀ s fails events w, Path (Happens s fails) .fresh events w → AnsweredOnce events w := by
  intro h
  obtain ⟨r, w, hmatched, hoffered⟩ := matching_offered
  obtain ⟨log, hmatching⟩ := happens_of_eval hmatched
  have hcut := @Outside.run_logged _ {} outboxDown (fun _ => True)
    (fun _ _ => trivial) (TurnService.handle smallService choosing) w
  rw [choosing_interrupted hoffered] at hcut
  let refused : Delivery :=
    ⟨choosing, refusedLog w ++ [⟨Op.release "m2", .ok ()⟩], .error .unavailable⟩
  have hinterrupted : Happens smallService (fun _ => True) w (.delivery refused)
      (interrupted w) := .delivery hcut
  obtain ⟨log', hresumed⟩ := happens_of_eval
    (choosing_resumed (interrupted_demoRequested (w := w)) rfl)
  have hpath := Path.cons hmatching (.cons hinterrupted (.cons hresumed .nil))
  have hsaved : Saved refused.log := by
    obtain ⟨snapshot, expected, hmem⟩ := saved_refusedLog w
    exact ⟨snapshot, expected, List.mem_append_left _ hmem⟩
  have hone := (h _ _ _ _ hpath).2
    ⟨choosing, log', .ok (Outside.unchosen choosing ((interrupted w).load "wa:1"))⟩ refused
    (by simp) (by simp [refused]) rfl ⟨_, rfl, rfl⟩ (.inr hsaved)
  exact absurd (hone.symm.trans hoffered.unanswered) Nat.one_ne_zero

end NxTutors.MatchAgent
