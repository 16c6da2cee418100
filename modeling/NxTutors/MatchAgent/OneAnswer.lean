import NxTutors.MatchAgent.Handoffs
import NxTutors.MatchAgent.Replies

/-!
# One answer for each handoff

Three parties could answer a message that was handed over: the caller with the text we return, the
caller with one of its own when we decline, and our outbox. `one_answer_iff` says when it is at most
one of them and the service does not raise.
-/

namespace NxTutors.MatchAgent

open Effect Prog

/-! ## Rows that are left -/

namespace Outbox

variable {o : Outbox} {m m' : OutboxMessage}

theorem mem_rows_enqueue :
    m' ∈ (o.enqueue m).rows ↔ m' ∈ o.rows ∨ m' = m ∧ o.knows m.dedupKey = false := by
  unfold enqueue
  cases hknows : o.knows m.dedupKey with
  | true => simp
  | false =>
    simp only [Bool.false_eq_true, if_false, rows, List.mem_append, List.mem_singleton]
    tauto

/-- What rows are there when others have been enqueued. -/
theorem mem_rows_foldl {ms : List OutboxMessage} (h : m' ∈ (ms.foldl enqueue o).rows) :
    m' ∈ o.rows ∨ m' ∈ ms := by
  induction ms generalizing o with
  | nil => exact .inl h
  | cons m ms ih =>
    rcases ih h with hmem | hmem
    · rcases mem_rows_enqueue.mp hmem with hmem | ⟨rfl, -⟩
      · exact .inl hmem
      · exact .inr (.head _)
    · exact .inr (.tail _ hmem)

theorem mem_rows_foldl_of_mem {ms : List OutboxMessage} (h : m' ∈ o.rows) :
    m' ∈ (ms.foldl enqueue o).rows := by
  induction ms generalizing o with
  | nil => exact h
  | cons m ms ih => exact ih (mem_rows_enqueue.mpr (.inl h))

end Outbox

/-- A row that we deliver to somebody was added. -/
def Left (w w' : World) : Prop :=
  ∃ m ∈ w'.outbox.rows, m ∉ w.outbox.rows ∧ m.kind = .whatsappReply ∧
    ∃ d, m.payload = .delivery d ∧ present d.recipient = true

/-- Nobody raised, and at most one party answers. -/
def OneAnswers (out : Except Fault HandoffResponse) (w w' : World) : Prop :=
  ∃ a, out = .ok a ∧ ¬ (a.replyText.isSome = true ∧ Left w w') ∧
    ¬ (a.replyText.isSome = true ∧ a.status = .declined) ∧ ¬ (Left w w' ∧ a.status = .declined)

section Rows

variable {x : Outside} {s : Service} {e : InboundEnvelope} {w w' : World} {text : String}
  {r : TurnResult}

theorem not_left_of_outbox (h : w'.outbox = w.outbox) : ¬ Left w w' := by
  rintro ⟨m, hm, hnew, -⟩
  rw [h] at hm
  exact hnew hm

/-- A turn that replies leaves a row to be delivered, if it has an address and its key is new. -/
theorem left_iff (h : x.Replied s e w text r w') :
    Left w w' ↔ present e.replyTo = true ∧ w.outbox.knows (replyKey e) = false := by
  obtain ⟨deeds, hdeeds, hrows⟩ := h.rows
  constructor
  · rintro ⟨m, hm, hnew, hkind, d, hd, hrecipient⟩
    rw [hrows] at hm
    rcases Outbox.mem_rows_foldl hm with hm | hm
    · rcases Outbox.mem_rows_enqueue.mp hm with hm | ⟨rfl, hfresh⟩
      · exact absurd hm hnew
      · cases hd
        exact ⟨hrecipient, hfresh⟩
    · rw [hdeeds m hm] at hkind
      cases hkind
  · rintro ⟨haddress, hfresh⟩
    refine ⟨TurnService.replyMessage s e text, ?_, fun hmem => ?_, ?_, _, rfl, haddress⟩
    · rw [hrows]
      exact Outbox.mem_rows_foldl_of_mem (Outbox.mem_rows_enqueue.mpr (.inr ⟨rfl, hfresh⟩))
    · have hknown : w.outbox.knows (replyKey e) = true :=
        List.any_eq_true.mpr ⟨_, hmem, decide_eq_true rfl⟩
      rw [hfresh] at hknown
      cases hknown
    · unfold TurnService.replyMessage TurnService.delivery
      dsimp only
      rw [if_pos haddress]

end Rows

/-! ## The service, part by part -/

namespace HandoffService

variable {h : HandoffService} {x : Outside} {w w' : World} {r : LeadIntakeHandoff h.t}
  {traceId : String}

theorem eval_paused : x.eval h.paused w = (.ok (h.switched && x.paused), w) := by
  cases hswitched : h.switched with
  | true =>
    have hread : h.paused = (call .isPaused).tryCatch fun _ => .ret false := if_pos hswitched
    rw [hread, Bool.true_and]
    exact x.eval_tryCatch_ok (x.eval_call .isPaused)
  | false =>
    have hread : h.paused = .ret false := if_neg (by rw [hswitched]; decide)
    rw [hread]
    rfl

theorem length_effectiveConversationId_le : r.effectiveConversationId.length ≤ 128 := by
  have hagreed := Text.length_strip_le (t := h.t) (s := r.conversationId.getD "")
  have hphone := Text.length_strip_le (t := h.t) (s := r.waPhone)
  have hagreed_le := r.conversationId_le
  have hphone_le := r.waPhone_le
  unfold LeadIntakeHandoff.effectiveConversationId
  dsimp only
  split
  · omega
  · rw [String.length_append, show "wa:".length = 3 from rfl]
    omega

theorem length_replyTo_le : ((h.replyTo r).getD "").length ≤ 32 := by
  unfold replyTo
  split
  · exact Text.length_strip_le.trans r.waPhone_le
  · exact Nat.zero_le 32

theorem length_dedupKey_le {c m : String} : (h.dedupKey c m).length ≤ 48 := by
  unfold dedupKey Text.take
  rw [String.length_ofList]
  exact List.length_take_le _ _

/-- The envelope of a message. -/
def envelopeOf (r : LeadIntakeHandoff h.t) (traceId : String) (htrace : traceId.length ≤ 64) :
    InboundEnvelope where
  traceId
  conversationId := r.effectiveConversationId
  dedupKey := h.dedupKey r.effectiveConversationId r.waMessageId
  replyTo := h.replyTo r
  payload := .whatsappTurn { text := r.messageText, leadId := r.leadId }
  traceId_le := htrace
  conversationId_le := length_effectiveConversationId_le
  dedupKey_le := length_dedupKey_le.trans (by decide)
  replyTo_le := length_replyTo_le

theorem envelope_eq (htrace : traceId.length ≤ 64) (hblank : Text.strip h.t r.messageText ≠ "") :
    h.envelope r r.effectiveConversationId traceId = .ret (envelopeOf r traceId htrace) := by
  unfold envelope
  rw [if_neg hblank, dif_pos ⟨htrace, length_effectiveConversationId_le,
    length_dedupKey_le.trans (by decide), length_replyTo_le⟩]
  rfl

/-- A blank text makes no envelope, and neither does a long trace. -/
theorem envelope_refused (hbad : ¬ (traceId.length ≤ 64 ∧ Text.strip h.t r.messageText ≠ "")) :
    ∃ f, h.envelope r r.effectiveConversationId traceId = .throw f := by
  unfold envelope
  by_cases hblank : Text.strip h.t r.messageText = ""
  · rw [if_pos hblank]
    exact ⟨_, rfl⟩
  · rw [if_neg hblank, dif_neg fun hbounds => hbad ⟨hbounds.1, hblank⟩]
    exact ⟨_, rfl⟩

theorem eval_respond {a : HandoffResponse} (ha : a.refusal = none) :
    x.eval (respond a) w = (.ok a, w) := by
  unfold respond
  rw [ha]
  rfl

/-- What is answered is taken, if the text of the turn is not too long. -/
theorem refusal_answer {mode : Mode} {result : TurnResult}
    (hshort : ∀ text, result.reply = some text → text.length ≤ MAX_HANDOFF_CHARS) :
    (h.answer mode result traceId).refusal = none := by
  have hlong : result.reply.any (MAX_HANDOFF_CHARS < ·.length) = false := by
    cases hreply : result.reply with
    | none => rfl
    | some text => simpa using hshort text hreply
  unfold answer
  dsimp only
  split
  · rfl
  split
  · rfl
  split
  · simp [HandoffResponse.refusal, hlong]
  split
  · rfl
  split
  · rfl
  · rename_i hpresent _
    simp only [Bool.not_eq_true', Bool.not_eq_false] at hpresent
    simp [HandoffResponse.refusal, hlong, hpresent]

/-- Who answers, after a turn that is no duplicate: the caller with one of its own in the shadow
mode, and with ours if it is to send it or a human takes over. -/
theorem answer_speaks {mode : Mode} {result : TurnResult} {text : String}
    (hfresh : result.duplicate = false) (hreply : result.reply = some text) (hwords : text ≠ "") :
    ((h.answer mode result traceId).replyText.isSome = true ∨
        (h.answer mode result traceId).status = .declined) ↔
      h.outboundOwnership = .callerSends ∨ mode = .shadow ∨
        result.outcome.any (·.needsHuman) = true := by
  have hpresent : present (some text) = true := decide_eq_true hwords
  simp only [answer, hfresh, hreply, hpresent]
  by_cases hshadow : mode = .shadow
  · simp [hshadow]
  · cases hhuman : result.outcome.any (·.needsHuman) with
    | true => simp [hshadow]
    | false =>
      cases howner : h.outboundOwnership with
      | callerSends => simp [hshadow]
      | tutorMatchSends => simp [hshadow]

/-- It is never both. -/
theorem answer_apart {mode : Mode} {result : TurnResult} :
    ¬ ((h.answer mode result traceId).replyText.isSome = true ∧
      (h.answer mode result traceId).status = .declined) := by
  unfold answer
  dsimp only
  by_cases hduplicate : result.duplicate = true
  · simp [hduplicate]
  · by_cases hshadow : mode = .shadow
    · simp [hduplicate, hshadow]
    · simp only [hduplicate, hshadow, if_false]
      cases result.outcome.any (·.needsHuman) with
      | true => simp
      | false => cases present result.reply <;> cases h.outboundOwnership <;> simp

/-! ## When it is one party -/

/-- A message is ours, and no other agent is needed first. -/
def ours (decision : RoutingDecision) : Bool :=
  decision.intent ≠ .humanRequested && decision.owned && decision.handoffTo ≠ some .onboarding

/-- The turn of a message that is ours is answered by at most one party. -/
def TurnFine (h : HandoffService) (x : Outside) (w : World) (mode : Mode) (e : InboundEnvelope) :
    Prop :=
  ¬ x.Heard h.turns e w ∨ Addressable h.turns e ∧
    (h.outboundOwnership = .callerSends ∨ w.outbox.knows (replyKey e) = true ∨
      mode ≠ .shadow ∧ x.asksHuman h.turns e w = false)

/-- **When at most one party answers**: no turn is taken, or its envelope can be made and the turn
writes nothing, or what it writes can be addressed and is not ours to deliver, or is all that is
said. -/
def Fine (h : HandoffService) (x : Outside) (w : World) (r : LeadIntakeHandoff h.t)
    (traceId : String) : Prop :=
  let conversationId := r.effectiveConversationId
  let ref := h.turns.conversationHash conversationId
  (h.switched && x.paused) = true ∨ h.flags.modeFor ref = .disabled ∨
    ∃ claimed, h.continuations.tryVerify h.t r.continuationToken ref = .ok claimed ∧
      (ours (h.decide r claimed (active (w.load conversationId))) = false ∨
        ∃ htrace : traceId.length ≤ 64, Text.strip h.t r.messageText ≠ "" ∧
          h.TurnFine x w (h.flags.modeFor ref) (envelopeOf r traceId htrace))

/-- An answer, and nothing in the outbox. -/
theorem oneAnswers_of_same {a : HandoffResponse} (hw : w'.outbox = w.outbox)
    (ha : ¬ (a.replyText.isSome = true ∧ a.status = .declined)) : OneAnswers (.ok a) w w' :=
  ⟨a, rfl, fun hboth => not_left_of_outbox hw hboth.2, ha, fun hboth => not_left_of_outbox hw hboth.1⟩

theorem oneAnswers_iff {a : HandoffResponse}
    (ha : ¬ (a.replyText.isSome = true ∧ a.status = .declined)) :
    OneAnswers (.ok a) w w' ↔
      ¬ (Left w w' ∧ (a.replyText.isSome = true ∨ a.status = .declined)) := by
  constructor
  · rintro ⟨_, heq, htext, -, hdeclined⟩ ⟨hleft, hspeaks⟩
    cases heq
    rcases hspeaks with hspeaks | hspeaks
    · exact htext ⟨hspeaks, hleft⟩
    · exact hdeclined ⟨hleft, hspeaks⟩
  · exact fun hnot => ⟨a, rfl, fun hboth => hnot ⟨hboth.2, .inl hboth.1⟩, ha,
      fun hboth => hnot ⟨hboth.1, .inr hboth.2⟩⟩

/-- A reply has an address if it is ours to deliver. -/
theorem present_replyTo : present (h.replyTo r) = true ↔ h.outboundOwnership = .tutorMatchSends := by
  unfold replyTo
  split
  · rename_i howner
    exact iff_of_true (decide_eq_true r.addressed) howner
  · rename_i howner
    exact iff_of_false (by decide) howner

/-- **The answer to a turn.** -/
theorem eval_turn {mode : Mode} {e : InboundEnvelope} (hmessage : e.isSelection = false)
    (hreadable : e.readable = true) (hto : e.replyTo = h.replyTo r) :
    let p : Turn HandoffResponse := do
      let result ← TurnService.handle h.turns e
      respond (h.answer mode result traceId)
    OneAnswers (x.eval p w).1 w (x.eval p w).2 ↔ h.TurnFine x w mode e := by
  intro p
  by_cases hheard : x.Heard h.turns e w
  · by_cases haddress : Addressable h.turns e
    · obtain ⟨text, result, w', heval, hreplied⟩ := x.eval_handle_replied hheard haddress
      have hanswer : x.eval p w = (.ok (h.answer mode result traceId), w') := by
        refine (x.eval_bind_ok heval).trans (eval_respond (refusal_answer fun t ht => ?_))
        rw [hreplied.reply] at ht
        cases ht
        exact hreplied.short.trans (by decide)
      have hwords : text ≠ "" := by
        rintro rfl
        exact hreplied.words rfl
      have hspeaks := @answer_speaks h traceId mode result text hreplied.fresh hreplied.reply hwords
      rw [hanswer, oneAnswers_iff answer_apart, hspeaks, left_iff hreplied, hto, present_replyTo,
        hreplied.human, TurnFine]
      cases howner : h.outboundOwnership with
      | callerSends => simp [haddress]
      | tutorMatchSends =>
        cases hknown : w.outbox.knows (replyKey e) with
        | true => simp [haddress]
        | false => simp [haddress, hheard]
    · obtain ⟨f, w', heval⟩ := x.eval_handle_refused hheard haddress
      have hraised : x.eval p w = (.error f, w') := x.eval_bind_error heval
      rw [hraised]
      refine iff_of_false (fun ⟨_, ha, _⟩ => nomatch ha) ?_
      rintro (hnot | ⟨haddressed, -⟩)
      · exact hnot hheard
      · exact haddress haddressed
  · obtain ⟨result, w', heval, hsame, houtcome, hreply⟩ :=
      x.eval_handle_silent hmessage hreadable hheard
    have hanswer : x.eval p w = (.ok (h.answer mode result traceId), w') := by
      refine (x.eval_bind_ok heval).trans (eval_respond ?_)
      rcases hreply with hduplicate | hreply | hreply
      · simp [answer, hduplicate, HandoffResponse.refusal]
      · exact refusal_answer fun text htext => by rw [hreply] at htext; cases htext
      · refine refusal_answer fun text htext => ?_
        rw [hreply] at htext
        cases htext
        decide +kernel
    rw [hanswer]
    exact iff_of_true (oneAnswers_of_same hsame answer_apart) (.inl hheard)

theorem eval_hasActiveSession {c : String} :
    x.eval (hasActiveSession c) w = (.ok (active (w.load c)), w) :=
  x.eval_tryCatch_ok (x.eval_bind_ok (x.eval_call (.loadState c)))

/-- An answer without a turn. -/
theorem oneAnswers_respond {a : HandoffResponse} (hrefusal : a.refusal = none)
    (ha : ¬ (a.replyText.isSome = true ∧ a.status = .declined)) :
    OneAnswers (x.eval (respond a) w).1 w (x.eval (respond a) w).2 := by
  rw [eval_respond hrefusal]
  exact oneAnswers_of_same rfl ha

theorem oneAnswers_declined {reason : String} :
    OneAnswers (x.eval (respond (.declined reason traceId)) w).1 w
      (x.eval (respond (.declined reason traceId)) w).2 :=
  oneAnswers_respond rfl fun hboth => Bool.false_ne_true hboth.1

/-- Nobody answers where something was raised. -/
theorem not_oneAnswers {f : Fault} : ¬ OneAnswers (.error f) w w' := fun ⟨_, ha, _⟩ => nomatch ha

section Verified

variable {claimed : Bool} (hrunning : (h.switched && x.paused) = false)
  (hmode : h.flags.modeFor (h.turns.conversationHash r.effectiveConversationId) ≠ .disabled)
  (htoken : h.continuations.tryVerify h.t r.continuationToken
    (h.turns.conversationHash r.effectiveConversationId) = .ok claimed)

include hrunning hmode htoken

/-- A message that is ours gets a turn. -/
theorem eval_handle_ours
    (hours : ours (h.decide r claimed (active (w.load r.effectiveConversationId))) = true) :
    x.eval (h.handle r traceId) w = x.eval (do
      let e ← h.envelope r r.effectiveConversationId traceId
      let result ← TurnService.handle h.turns e
      respond (h.answer (h.flags.modeFor (h.turns.conversationHash r.effectiveConversationId))
        result traceId)) w := by
  simp only [ours, Bool.and_eq_true, decide_eq_true_eq] at hours
  obtain ⟨⟨hhuman, howned⟩, honboarding⟩ := hours
  unfold handle
  dsimp only
  rw [x.eval_bind_ok eval_paused, if_neg (by rw [hrunning]; decide), if_neg hmode, htoken]
  dsimp only
  rw [x.eval_bind_ok eval_hasActiveSession, if_neg hhuman, if_neg (by rw [howned]; decide),
    if_neg honboarding]

/-- It is answered by at most one party just when its turn is. -/
theorem oneAnswers_ours
    (hours : ours (h.decide r claimed (active (w.load r.effectiveConversationId))) = true)
    (htrace : traceId.length ≤ 64) (hblank : Text.strip h.t r.messageText ≠ "") :
    OneAnswers (x.eval (h.handle r traceId) w).1 w (x.eval (h.handle r traceId) w).2 ↔
      h.TurnFine x w (h.flags.modeFor (h.turns.conversationHash r.effectiveConversationId))
        (envelopeOf r traceId htrace) := by
  rw [eval_handle_ours hrunning hmode htoken hours, envelope_eq htrace hblank]
  exact eval_turn rfl rfl rfl

/-- A message that is not ours is answered at once. -/
theorem oneAnswers_others
    (hothers : ours (h.decide r claimed (active (w.load r.effectiveConversationId))) = false) :
    OneAnswers (x.eval (h.handle r traceId) w).1 w (x.eval (h.handle r traceId) w).2 := by
  unfold handle
  dsimp only
  rw [x.eval_bind_ok eval_paused, if_neg (by rw [hrunning]; decide), if_neg hmode, htoken]
  dsimp only
  rw [x.eval_bind_ok eval_hasActiveSession]
  generalize h.decide r claimed (active (w.load r.effectiveConversationId)) = decision at hothers ⊢
  by_cases hhuman : decision.intent = .humanRequested
  · rw [if_pos hhuman]
    exact oneAnswers_respond rfl fun hboth => Bool.false_ne_true hboth.1
  rw [if_neg hhuman]
  cases howned : decision.owned with
  | false => exact oneAnswers_declined
  | true =>
    have honboarding : decision.handoffTo = some .onboarding := by
      simpa [ours, hhuman, howned] using hothers
    have hlength := h.continuations.issue_le (h.turns.conversationHash r.effectiveConversationId)
    rw [if_neg (by decide), if_pos honboarding]
    refine oneAnswers_respond ?_ fun hboth => Bool.false_ne_true hboth.1
    simp [HandoffResponse.refusal, hlength]

end Verified

/-- **When at most one party answers a handoff, and nothing is raised**: exactly if it is fine. -/
theorem one_answer_iff :
    OneAnswers (x.eval (h.handle r traceId) w).1 w (x.eval (h.handle r traceId) w).2 ↔
      h.Fine x w r traceId := by
  cases hrunning : h.switched && x.paused with
  | true =>
    refine iff_of_true ?_ (.inl hrunning)
    unfold handle
    dsimp only
    rw [x.eval_bind_ok eval_paused, if_pos hrunning]
    exact oneAnswers_declined
  | false =>
    have hnot : (h.switched && x.paused) ≠ true := by rw [hrunning]; decide
    by_cases hmode :
        h.flags.modeFor (h.turns.conversationHash r.effectiveConversationId) = .disabled
    · refine iff_of_true ?_ (.inr (.inl hmode))
      unfold handle
      dsimp only
      rw [x.eval_bind_ok eval_paused, if_neg hnot, if_pos hmode]
      exact oneAnswers_declined
    · cases htoken : h.continuations.tryVerify h.t r.continuationToken
        (h.turns.conversationHash r.effectiveConversationId) with
      | error f =>
        refine iff_of_false ?_ ?_
        · unfold handle
          dsimp only
          rw [x.eval_bind_ok eval_paused, if_neg hnot, if_neg hmode, htoken]
          exact not_oneAnswers
        · rintro (hstop | hdisabled | ⟨claimed, hclaimed, -⟩)
          · exact hnot hstop
          · exact hmode hdisabled
          · rw [htoken] at hclaimed
            cases hclaimed
      | ok claimed =>
        have hfine : h.Fine x w r traceId ↔
            ours (h.decide r claimed (active (w.load r.effectiveConversationId))) = false ∨
              ∃ htrace : traceId.length ≤ 64, Text.strip h.t r.messageText ≠ "" ∧
                h.TurnFine x w (h.flags.modeFor (h.turns.conversationHash
                  r.effectiveConversationId)) (envelopeOf r traceId htrace) := by
          unfold Fine
          simp only [hnot, hmode, htoken, Except.ok.injEq, exists_eq_left', Bool.false_eq_true,
            false_or]
        rw [hfine]
        cases hours : ours (h.decide r claimed (active (w.load r.effectiveConversationId))) with
        | false => exact iff_of_true (oneAnswers_others hrunning hmode htoken hours) (.inl rfl)
        | true =>
          by_cases hfit : traceId.length ≤ 64 ∧ Text.strip h.t r.messageText ≠ ""
          · refine (oneAnswers_ours hrunning hmode htoken hours hfit.1 hfit.2).trans
              ⟨fun hfine => .inr ⟨hfit.1, hfit.2, hfine⟩, ?_⟩
            rintro (hothers | ⟨_, _, hfine⟩)
            · cases hothers
            · exact hfine
          · obtain ⟨f, hrefused⟩ := envelope_refused hfit
            rw [eval_handle_ours hrunning hmode htoken hours, hrefused]
            refine iff_of_false not_oneAnswers ?_
            rintro (hothers | ⟨htrace, hblank, -⟩)
            · cases hothers
            · exact hfit ⟨htrace, hblank⟩

end HandoffService

/-! ### Handoffs of a small deployment -/

/-- It owns delivery, is not paused, and takes every message for a request. -/
def smallHandoff (shadowMode : Bool) (ownership : OutboundOwnership) : HandoffService where
  turns := smallService
  flags := { enabled := true, shadowMode, percentageRollout := 100, bucket := fun _ => 0 }
  continuations := ⟨fun _ => "", fun _ _ => false, fun _ => ("", ""), fun _ => by decide⟩
  patterns :=
    ⟨fun _ => false, fun _ => false, fun _ => false, fun _ => false, fun _ => true, fun _ => false,
      fun _ => false, fun _ => 0, id⟩
  sha256 _ := "00"
  outboundOwnership := ownership
  switched := false

/-- A request that is handed over. -/
def requesting (waPhone text : String) (token : Option String) (hphone : waPhone.length ≤ 32)
    (htext : text.length ≤ MAX_HANDOFF_CHARS) (htoken : (token.getD "").length ≤ 512)
    (haddressed : Text.strip Text.ascii waPhone ≠ "") : LeadIntakeHandoff Text.ascii where
  waMessageId := "m1"
  waPhone
  messageText := text
  continuationToken := token
  waMessageId_le := m1_le
  waPhone_le := hphone
  messageText_le := htext
  leadId_le := by decide
  conversationId_le := by decide
  intent_le := by decide
  continuationToken_le := htoken
  identified := by decide
  addressed := haddressed

/-- "Maths", from a number that can be reached. -/
def wantsMaths : LeadIntakeHandoff Text.ascii :=
  requesting "+919876543210" "need a tutor" none (by decide) (by decide) (by decide) (by decide)

/-- What is said of that message when nothing is stored. -/
abbrev wantsMathsEnvelope : InboundEnvelope :=
  HandoffService.envelopeOf (h := smallHandoff true .tutorMatchSends) wantsMaths "trace"
    trace_le

theorem heard_wantsMaths : ({} : Outside).Heard smallService wantsMathsEnvelope .fresh where
  running := rfl
  free := rfl
  message := rfl
  kept := rfl
  readable := rfl

/-- **Two parties answer**: in the shadow mode a message is declined, and the turn has left its
reply to be delivered. -/
theorem answered_twice : ¬ ∀ (h : HandoffService) (r : LeadIntakeHandoff h.t) (traceId : String)
    (x : Outside) (w : World), traceId.length ≤ 64 →
      OneAnswers (x.eval (h.handle r traceId) w).1 w (x.eval (h.handle r traceId) w).2 := by
  intro hall
  have hone := hall (smallHandoff true .tutorMatchSends) wantsMaths "trace" {} .fresh (by decide)
  have hfine : (smallHandoff true .tutorMatchSends).TurnFine {} .fresh .shadow wantsMathsEnvelope :=
    Iff.mp (HandoffService.oneAnswers_ours rfl (by decide) rfl (by decide) (by decide)
      (by decide)) hone
  rcases hfine with hsilent | ⟨-, howner | hknown | hlive⟩
  · exact hsilent heard_wantsMaths
  · cases howner
  · cases hknown
  · exact hlive.1 rfl

end NxTutors.MatchAgent
