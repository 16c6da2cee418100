import NxTutors.MatchAgent.Stores

/-!
# Turns that nobody disturbs

When no call raises and nobody else writes, a turn is a function of what is stored and of what the
services outside say. Each part of the service gets its equation here: what it returns, and what is
stored then. The texts are never looked at: what has passed the guard, or has replaced what did not,
can be delivered if its row can be addressed (`refusal_guarded`).
-/

namespace NxTutors.MatchAgent

open Effect Prog TurnService

/-! ## Rows that can be delivered -/

/-- The row of a reply has a key and an address that the model of rows takes. -/
def Addressable (s : Service) (e : InboundEnvelope) : Prop :=
  ("reply:" ++ e.dedupKey).length ≤ 128 ∧
    (present e.replyTo = true → isE164 s.t (Text.strip s.t (e.replyTo.getD "")) = true)

instance (s : Service) (e : InboundEnvelope) : Decidable (Addressable s e) :=
  inferInstanceAs (Decidable (_ ∧ _))

section Text

variable {s : Service} {e : InboundEnvelope} {text : String}

theorem take_of_le {n : Nat} (h : text.length ≤ n) : Text.take text n = text := by
  rw [Text.take, List.take_of_length_le (by rwa [String.length_toList]), String.ofList_toList]

/-- A text with a printable character that is no blank is not blank. -/
theorem strip_ne_empty {c : Char} (hc : c ∈ text.toList) (hprint : Text.Printable c ∧ c ≠ ' ') :
    Text.strip s.t text ≠ "" := by
  intro hempty
  have hspace := Text.strip_eq_empty_iff.mp hempty c hc
  rw [Service.t, s.plain.not_space hprint] at hspace
  cases hspace

/-- **When a row is refused**: a text that is neither blank nor too long is taken just when its row
can be addressed. -/
theorem refusal_eq_none_iff (hlong : text.length ≤ MAX_BODY_CHARS)
    (hblank : Text.strip s.t text ≠ "") :
    (delivery s e text).refusal s.t = none ↔ Addressable s e := by
  have hreply := Nat.not_lt.mpr e.replyTo_le
  have htrace := Nat.not_lt.mpr e.traceId_le
  have href := Nat.not_lt.mpr (s.conversationHash_le e.conversationId)
  have hbody := Nat.not_lt.mpr hlong
  unfold OutboundDelivery.refusal delivery Addressable
  dsimp only
  rw [take_of_le hlong]
  cases hto : e.replyTo with
  | none => simp [present, hblank, hbody, htrace, href]
  | some a =>
    rw [hto, Option.getD_some] at hreply
    by_cases ha : a = ""
    · simp [present, ha, hblank, hbody, htrace, href]
    · by_cases hkey : 128 < "reply:".length + e.dedupKey.length
      · simp [present, ha, hkey, Nat.not_le.mpr hkey]
      · simp [present, ha, hblank, hbody, htrace, href, hreply, hkey, Nat.not_lt.mp hkey]

theorem not_blank_of_long {n : Nat} (hn : 0 < n) (h : n ≤ (Text.strip s.t text).length) :
    Text.strip s.t text ≠ "" := by
  intro hempty
  rw [hempty, String.length_empty] at h
  omega

variable {message : String} {decision : Option MatchDecision} {fees : List String}

/-- What has passed the guard, or has replaced what did not, is neither blank nor too long. -/
theorem guardOutput_fit :
    (guardOutput s message decision fees).length ≤ OutputGuard.MAX_MESSAGE_CHARS ∧
      Text.strip s.t (guardOutput s message decision fees) ≠ "" := by
  unfold guardOutput
  rw [OutputGuard.enforce_fst]
  split
  · rename_i hvalid
    have hlong := OutputGuard.long_of_valid hvalid
    exact ⟨OutputGuard.short_of_valid hvalid, not_blank_of_long (by decide) hlong⟩
  · exact ⟨by decide, strip_ne_empty (c := 'L') (by decide) (by decide)⟩

/-- **What the guard lets out can be delivered**, if its row can be addressed. -/
theorem refusal_guarded :
    (delivery s e (guardOutput s message decision fees)).refusal s.t = none ↔ Addressable s e :=
  refusal_eq_none_iff (guardOutput_fit.1.trans (by decide)) guardOutput_fit.2

theorem refusal_selection : (delivery s e SELECTION_REPLY).refusal s.t = none ↔ Addressable s e :=
  refusal_eq_none_iff (by decide) (strip_ne_empty (c := 'G') (by decide) (by decide))

end Text

/-! ## The parts of a turn -/

/-- What is stored when a deed has been noted. -/
def World.noting (w : World) (s : Service) (e : InboundEnvelope) (deed summary : String)
    (tutors : List String) : World :=
  if s.recordDeeds then w.enqueue (deedMessage s e deed summary tutors) else w

/-- The enrichment, if there is one, can be read. -/
def InboundEnvelope.readable (e : InboundEnvelope) : Bool := e.enrichment.all Enrichment.supported

namespace Outside

variable {α β : Type} (x : Outside) {s : Service} {e : InboundEnvelope} {w w' : World}

theorem eval_bind_ok {p : Turn α} {f : α → Turn β} {a : α} (h : x.eval p w = (.ok a, w')) :
    x.eval (p >>= f) w = x.eval (f a) w' := Prog.eval_bind_ok h

theorem eval_bind_error {p : Turn α} {f : α → Turn β} {y : Fault}
    (h : x.eval p w = (.error y, w')) : x.eval (p >>= f) w = (.error y, w') :=
  Prog.eval_bind_error h

theorem eval_tryCatch_ok {p : Turn α} {f : Fault → Turn α} {a : α}
    (h : x.eval p w = (.ok a, w')) : x.eval (p.tryCatch f) w = (.ok a, w') :=
  Prog.eval_tryCatch_ok h

theorem eval_tryCatch_error {p : Turn α} {f : Fault → Turn α} {y : Fault}
    (h : x.eval p w = (.error y, w')) : x.eval (p.tryCatch f) w = x.eval (f y) w' :=
  Prog.eval_tryCatch_error h

theorem eval_call (o : Op) : x.eval (call o) w = x.answer o w :=
  Prog.eval_perform (S := ports) o w

theorem eval_paused : x.eval (TurnService.paused s) w = (.ok (s.switched && x.paused), w) := by
  cases hswitched : s.switched with
  | true =>
    have hread : TurnService.paused s = (call .isPaused).tryCatch fun _ => .ret false :=
      if_pos hswitched
    rw [hread, Bool.true_and]
    exact x.eval_tryCatch_ok (x.eval_call .isPaused)
  | false =>
    have hread : TurnService.paused s = .ret false := if_neg (by rw [hswitched]; decide)
    rw [hread]
    rfl

/-- What abuse control says of a message. -/
def assessed (s : Service) (e : InboundEnvelope) : Option Enforcement :=
  if s.cached && Text.strip s.t e.payload.text ≠ "" then x.assessment else none

theorem eval_assessAbuse : x.eval (assessAbuse s e) w = (.ok (x.assessed s e), w) := by
  by_cases hseen : (s.cached && Text.strip s.t e.payload.text ≠ "") = true
  · have hread : assessAbuse s e = (call (.assessAbuse (s.conversationHash e.conversationId)
        e.payload.text)).tryCatch fun _ => .ret none := if_pos hseen
    rw [hread, assessed, if_pos hseen]
    exact x.eval_tryCatch_ok (x.eval_call _)
  · have hread : assessAbuse s e = .ret none := if_neg hseen
    rw [hread, assessed, if_neg hseen]
    rfl

/-- The answer to a question about a tutor, if the message is one. -/
def lookup (s : Service) (e : InboundEnvelope) : Option String :=
  match e.payload with
  | .whatsappTurn turn =>
    match s.detect turn.text with
    | none => none
    | some lookup =>
      let found := if Text.split s.t lookup.name = [] then [] else x.directory
      if found = [] then none else some (lookupReply s lookup found)
  | _ => none

theorem eval_answerTutorLookup :
    x.eval (answerTutorLookup s e) w = (.ok (x.lookup s e), w) := by
  unfold answerTutorLookup lookup
  cases e.payload with
  | whatsappTurn turn =>
    dsimp only
    cases s.detect turn.text with
    | none => rfl
    | some lookup =>
      dsimp only
      by_cases hterms : Text.split s.t lookup.name = []
      · rw [if_pos hterms, if_pos hterms]
        rfl
      · rw [if_neg hterms, if_neg hterms]
        exact x.eval_bind_ok (x.eval_tryCatch_ok (x.eval_call _))
  | leadEvent event => rfl
  | parentSelection selection => rfl

/-- What is said of tutors has passed the guard. -/
theorem lookup_guarded {reply : String} (h : x.lookup s e = some reply) :
    ∃ message fees, reply = guardOutput s message none fees := by
  have hguarded : ∃ lookup found, reply = lookupReply s lookup found := by
    unfold lookup at h
    cases hpayload : e.payload with
    | whatsappTurn turn =>
      rw [hpayload] at h
      dsimp only at h
      cases hdetect : s.detect turn.text with
      | none =>
        rw [hdetect] at h
        cases h
      | some lookup =>
        rw [hdetect] at h
        dsimp only at h
        by_cases hfound : (if Text.split s.t lookup.name = [] then [] else x.directory) = []
        · rw [if_pos hfound] at h
          cases h
        · rw [if_neg hfound] at h
          exact ⟨_, _, (Option.some.inj h).symm⟩
    | leadEvent event =>
      rw [hpayload] at h
      cases h
    | parentSelection selection =>
      rw [hpayload] at h
      cases h
  obtain ⟨lookup, found, rfl⟩ := hguarded
  unfold lookupReply
  split <;> exact ⟨_, _, rfl⟩

/-- What a message says, what is remembered, and what was down. -/
def resolved (e : InboundEnvelope) :
    MatchRequirement × List (String × String) × List String :=
  match e.enrichment with
  | some enrichment =>
    (enrichment.requirement, enrichment.memoryFacts, enrichment.degraded.foldl mark [])
  | none =>
    let degraded := if x.extracted.2 then mark [] "llm" else []
    (x.extracted.1, x.recalled.getD [],
      if x.recalled.isNone then mark degraded "chitragupta" else degraded)

theorem eval_resolve {now : Time} (h : e.readable = true) :
    x.eval (resolve s e now) w = (.ok (x.resolved e), w) := by
  unfold resolve resolved
  unfold InboundEnvelope.readable at h
  cases henrichment : e.enrichment with
  | some enrichment =>
    rw [henrichment] at h
    have hsupported : enrichment.supported = true := h
    dsimp only
    rw [if_pos hsupported]
    rfl
  | none => rfl

/-! ### What goes out -/

theorem eval_enqueueReply {text : String} (h : (delivery s e text).refusal s.t = none) :
    x.eval (enqueueReply s e text) w = (.ok (), w.enqueue (replyMessage s e text)) := by
  unfold enqueueReply
  rw [h]
  exact x.eval_call _

theorem eval_enqueueReply_refused {text reason : String}
    (h : (delivery s e text).refusal s.t = some reason) :
    x.eval (enqueueReply s e text) w = (.error (.validation reason), w) := by
  unfold enqueueReply
  rw [h]
  rfl

theorem eval_recordDeed {deed summary : String} {tutors degraded : List String} :
    x.eval (recordDeed s e deed summary tutors degraded) w =
      (.ok degraded, w.noting s e deed summary tutors) := by
  unfold recordDeed World.noting
  cases s.recordDeeds with
  | true => exact x.eval_tryCatch_ok (x.eval_bind_ok (x.eval_call _))
  | false => rfl

variable {expected : Nat} {snapshot : ConversationSnapshot} {now : Time}

theorem eval_saveState (h : w.version snapshot.conversationId = expected) :
    x.eval (call (.saveState snapshot expected)) w = (.ok (), w.saved snapshot) :=
  (x.eval_call _).trans (World.saveState_of_version h)

/-- Reply, note the deed, and return. -/
theorem eval_replied {text deed summary : String} {tutors degraded : List String}
    {f : List String → TurnResult} (h : (delivery s e text).refusal s.t = none) :
    x.eval (do
      enqueueReply s e text
      let degraded ← recordDeed s e deed summary tutors degraded
      .ret (f degraded)) w =
    (.ok (f degraded), (w.enqueue (replyMessage s e text)).noting s e deed summary tutors) := by
  rw [x.eval_bind_ok (x.eval_enqueueReply h), x.eval_bind_ok x.eval_recordDeed]
  rfl

/-- What the guard lets out is refused when its row cannot be addressed. -/
theorem eval_enqueue_guarded (message : String) (decision : Option MatchDecision)
    (fees : List String) (h : ¬ Addressable s e) :
    ∃ f, x.eval (enqueueReply s e (guardOutput s message decision fees)) w = (.error f, w) := by
  cases hrefusal : (delivery s e (guardOutput s message decision fees)).refusal s.t with
  | none => exact absurd (refusal_guarded.mp hrefusal) h
  | some reason => exact ⟨_, x.eval_enqueueReply_refused hrefusal⟩

/-! ### The turn -/

/-- The question that is asked, after the guard. -/
def clarification (s : Service) (readiness : Readiness) : String :=
  guardOutput s ((readiness.nextQuestion.map NextQuestion.render).getD
    "Could you tell me a bit more?") none []

/-- The answer when something is missing. -/
def clarified (s : Service) (e : InboundEnvelope) (snapshot : ConversationSnapshot)
    (readiness : Readiness) (degraded : List String) : TurnResult where
  conversationId := e.conversationId
  state := snapshot.state
  reply := some (clarification s readiness)
  degraded := asTuple degraded
  askedFor := readiness.nextQuestion.map (·.field)

/-- The summary of the deed that a question is. -/
def askedSummary (readiness : Readiness) : String :=
  (readiness.nextQuestion.map fun q => "asked for " ++ q.field).getD "asked for more detail"

/-- **A question**: the state is saved, and the question goes out. -/
theorem eval_clarify {readiness : Readiness} {degraded : List String}
    {final : ConversationSnapshot}
    (hfinal : snapshot.fired .requirementsIncomplete now e.traceId = final)
    (hversion : w.version final.conversationId = expected) (h : Addressable s e) :
    x.eval (clarify s e expected snapshot now readiness degraded) w =
      (.ok (clarified s e final readiness degraded),
        ((w.saved final).enqueue (replyMessage s e (clarification s readiness))).noting s e
          DeedType.REQUIREMENT_CAPTURED (askedSummary readiness) []) := by
  subst hfinal
  unfold clarify
  dsimp only
  rw [x.eval_bind_ok (x.eval_saveState hversion)]
  exact x.eval_replied (refusal_guarded.mpr h)

theorem eval_clarify_refused {readiness : Readiness} {degraded : List String}
    {final : ConversationSnapshot}
    (hfinal : snapshot.fired .requirementsIncomplete now e.traceId = final)
    (hversion : w.version final.conversationId = expected) (h : ¬ Addressable s e) :
    ∃ f, x.eval (clarify s e expected snapshot now readiness degraded) w =
      (.error f, w.saved final) := by
  subst hfinal
  obtain ⟨f, hrefused⟩ := x.eval_enqueue_guarded (w := w.saved _)
    ((readiness.nextQuestion.map NextQuestion.render).getD "Could you tell me a bit more?") none
    [] h
  refine ⟨f, ?_⟩
  unfold clarify
  dsimp only
  rw [x.eval_bind_ok (x.eval_saveState hversion)]
  exact x.eval_bind_error hrefused

/-- The outcome of a match. -/
def matched (s : Service) (requirement : MatchRequirement) (degraded : List String) :
    MatchOutcome :=
  outcomeOf s.speech requirement (x.run.degraded.foldl mark degraded) x.run

/-- The message of an outcome, after the guard. -/
def announcement (s : Service) (outcome : MatchOutcome) : String :=
  guardOutput s outcome.message (some outcome.decision) []

/-- A conversation after a match. -/
def concluded (snapshot : ConversationSnapshot) (now : Time) (traceId : String)
    (outcome : MatchOutcome) : ConversationSnapshot :=
  (outcomeTriggers outcome).foldl (fun y t => y.fired t now traceId)
    ((snapshot.fired .requirementsComplete now traceId).fired .matchStarted now traceId)

/-- The answer after a match. -/
def announced (s : Service) (e : InboundEnvelope) (snapshot : ConversationSnapshot)
    (outcome : MatchOutcome) (degraded : List String) : TurnResult where
  conversationId := e.conversationId
  state := snapshot.state
  reply := some (announcement s outcome)
  outcome := some outcome
  degraded := asTuple degraded

/-- **A match**: the decision and the state are saved, and the message goes out. -/
theorem eval_shortlist {requirement : MatchRequirement} {degraded : List String}
    {outcome : MatchOutcome} {final : ConversationSnapshot}
    (houtcome : x.matched s requirement degraded = outcome)
    (hfinal : concluded snapshot now e.traceId outcome = final)
    (hversion : w.version final.conversationId = expected) (h : Addressable s e) :
    x.eval (shortlist s e expected snapshot now requirement degraded) w =
      (.ok (announced s e final outcome (x.run.degraded.foldl mark degraded)),
        (((w.saveDecision outcome.decision).saved final).enqueue
          (replyMessage s e (announcement s outcome))).noting s e (outcomeDeed outcome).1
            (outcomeDeed outcome).2 (outcome.decision.shortlist.map (·.tutorId))) := by
  subst houtcome hfinal
  unfold shortlist
  dsimp only
  rw [x.eval_bind_ok (x.eval_call (.search requirement now))]
  refine (x.eval_bind_ok (x.eval_call (.saveDecision _))).trans ?_
  refine (x.eval_bind_ok (x.eval_saveState (w := w.saveDecision _) hversion)).trans ?_
  exact x.eval_replied (refusal_guarded.mpr h)

theorem eval_shortlist_refused {requirement : MatchRequirement} {degraded : List String}
    {outcome : MatchOutcome} {final : ConversationSnapshot}
    (houtcome : x.matched s requirement degraded = outcome)
    (hfinal : concluded snapshot now e.traceId outcome = final)
    (hversion : w.version final.conversationId = expected) (h : ¬ Addressable s e) :
    ∃ f, x.eval (shortlist s e expected snapshot now requirement degraded) w =
      (.error f, (w.saveDecision outcome.decision).saved final) := by
  subst houtcome hfinal
  obtain ⟨f, hrefused⟩ := x.eval_enqueue_guarded (w := (w.saveDecision _).saved _)
    (x.matched s requirement degraded).message (some (x.matched s requirement degraded).decision)
    [] h
  refine ⟨f, ?_⟩
  unfold shortlist
  dsimp only
  rw [x.eval_bind_ok (x.eval_call (.search requirement now))]
  refine (x.eval_bind_ok (x.eval_call (.saveDecision _))).trans ?_
  refine (x.eval_bind_ok (x.eval_saveState (w := w.saveDecision _) hversion)).trans ?_
  exact x.eval_bind_error hrefused

/-- The requirement that is saved: what the message says, what is remembered, and what is stored. -/
def captured (e : InboundEnvelope) (now : Time) (w : World) : MatchRequirement :=
  merge (w.requirements.find e.conversationId)
    (applyMemory (x.resolved e).1 (x.resolved e).2.1 now)

/-- **A message that is no question about a tutor** is matched, or something is missing. -/
theorem eval_serve (h : e.readable = true) :
    x.eval (serve s e expected snapshot now) w =
      let requirement := x.captured e now w
      let readiness := requirement.assess s.domain
      x.eval (if readiness.readyToMatch then
        shortlist s e expected snapshot now requirement (x.resolved e).2.2
        else clarify s e expected snapshot now readiness (x.resolved e).2.2)
        (w.saveRequirement requirement) := by
  unfold serve
  rw [x.eval_bind_ok (x.eval_resolve h)]
  refine (x.eval_bind_ok (x.eval_call (.loadRequirement e.conversationId))).trans ?_
  exact x.eval_bind_ok (x.eval_call (.saveRequirement _))

/-- The claim is given back, and the turn is shed. -/
def shed (e : InboundEnvelope) (loaded : ConversationSnapshot) (assessment : Option Enforcement) :
    TurnResult where
  conversationId := e.conversationId
  state := loaded.state
  reply := if assessment = some .cooldown then none else some THROTTLE_REPLY
  throttled := true

theorem eval_handleMessage_shed {loaded : ConversationSnapshot}
    (h : sheds (x.assessed s e) = true) :
    x.eval (handleMessage s e loaded now) w =
      (.ok (shed e loaded (x.assessed s e)), w.release e.dedupKey) := by
  unfold handleMessage
  rw [x.eval_bind_ok x.eval_assessAbuse, if_pos h]
  exact x.eval_bind_ok (x.eval_call (.release e.dedupKey))

/-- What is said of the tutors that were found. -/
def lookedUp (e : InboundEnvelope) (snapshot : ConversationSnapshot) (reply : String) :
    TurnResult where
  conversationId := e.conversationId
  state := snapshot.state
  reply := some reply
  askedFor := some "tutor_lookup"

theorem eval_handleMessage_lookup {loaded final : ConversationSnapshot} {reply : String}
    (hshed : sheds (x.assessed s e) = false) (hlookup : x.lookup s e = some reply)
    (hfinal : (loaded.fired .messageReceived now e.traceId).fired .requirementsIncomplete now
      e.traceId = final)
    (hversion : w.version final.conversationId = loaded.lockVersion)
    (hfit : (delivery s e reply).refusal s.t = none) :
    x.eval (handleMessage s e loaded now) w =
      (.ok (lookedUp e final reply), (w.saved final).enqueue (replyMessage s e reply)) := by
  subst hfinal
  unfold handleMessage
  rw [x.eval_bind_ok x.eval_assessAbuse, if_neg (by rw [hshed]; decide)]
  dsimp only
  rw [x.eval_bind_ok x.eval_answerTutorLookup, hlookup]
  dsimp only
  refine (x.eval_bind_ok (x.eval_saveState hversion)).trans ?_
  exact x.eval_bind_ok (x.eval_enqueueReply hfit)

theorem eval_handleMessage_refused {loaded final : ConversationSnapshot} {reply : String}
    (hshed : sheds (x.assessed s e) = false) (hlookup : x.lookup s e = some reply)
    (hfinal : (loaded.fired .messageReceived now e.traceId).fired .requirementsIncomplete now
      e.traceId = final)
    (hversion : w.version final.conversationId = loaded.lockVersion) (h : ¬ Addressable s e) :
    ∃ f, x.eval (handleMessage s e loaded now) w = (.error f, w.saved final) := by
  subst hfinal
  obtain ⟨message, fees, hreply⟩ := x.lookup_guarded hlookup
  obtain ⟨f, hrefused⟩ := x.eval_enqueue_guarded (w := w.saved _) message none fees h
  rw [← hreply] at hrefused
  refine ⟨f, ?_⟩
  unfold handleMessage
  rw [x.eval_bind_ok x.eval_assessAbuse, if_neg (by rw [hshed]; decide)]
  dsimp only
  rw [x.eval_bind_ok x.eval_answerTutorLookup, hlookup]
  dsimp only
  refine (x.eval_bind_ok (x.eval_saveState hversion)).trans ?_
  exact x.eval_bind_error hrefused

theorem eval_handleMessage_serve {loaded : ConversationSnapshot}
    (hshed : sheds (x.assessed s e) = false) (hlookup : x.lookup s e = none) :
    x.eval (handleMessage s e loaded now) w =
      x.eval (serve s e loaded.lockVersion (loaded.fired .messageReceived now e.traceId) now)
        w := by
  unfold handleMessage
  rw [x.eval_bind_ok x.eval_assessAbuse, if_neg (by rw [hshed]; decide)]
  dsimp only
  rw [x.eval_bind_ok x.eval_answerTutorLookup, hlookup]

/-- The answer to a choice that is legal. -/
def chosen (e : InboundEnvelope) (moved : ConversationSnapshot) : TurnResult where
  conversationId := e.conversationId
  state := moved.state
  reply := some SELECTION_REPLY

/-- **A choice**: the state is saved, the deed is noted and the reply goes out. -/
theorem eval_handleSelection {loaded moved : ConversationSnapshot}
    (hlegal : loaded.tryTransition .parentSelected x.now e.traceId = (moved, true))
    (hversion : w.version moved.conversationId = loaded.lockVersion) (h : Addressable s e) :
    x.eval (handleSelection s e loaded) w =
      (.ok (chosen e moved), ((w.saved moved).noting s e DeedType.CANDIDATE_SELECTED
        "parent selected a tutor" []).enqueue (replyMessage s e SELECTION_REPLY)) := by
  unfold handleSelection
  refine (x.eval_bind_ok (x.eval_call .now)).trans ?_
  dsimp only
  rw [hlegal]
  dsimp only
  rw [if_pos rfl]
  refine (x.eval_bind_ok (x.eval_saveState hversion)).trans ?_
  rw [x.eval_bind_ok x.eval_recordDeed]
  exact x.eval_bind_ok (x.eval_enqueueReply (refusal_selection.mpr h))

/-- The answer to a choice where there is nothing to choose. -/
def unchosen (e : InboundEnvelope) (loaded : ConversationSnapshot) : TurnResult where
  conversationId := e.conversationId
  state := loaded.state
  reply := none

theorem eval_handleSelection_illegal {loaded : ConversationSnapshot}
    (hillegal : (loaded.tryTransition .parentSelected x.now e.traceId).2 = false) :
    x.eval (handleSelection s e loaded) w = (.ok (unchosen e loaded), w) := by
  unfold handleSelection
  refine (x.eval_bind_ok (x.eval_call .now)).trans ?_
  dsimp only
  rw [if_neg (by rw [hillegal]; decide)]
  rfl

/-! ### The service -/

/-- A call that a switch declines. -/
def declined (e : InboundEnvelope) (w : World) : TurnResult where
  conversationId := e.conversationId
  state := (w.load e.conversationId).state
  reply := none
  paused := true

theorem eval_handle_paused (h : (s.switched && x.paused) = true) :
    x.eval (handle s e) w = (.ok (declined e w), w) := by
  unfold handle
  rw [x.eval_bind_ok x.eval_paused, if_pos h]
  exact x.eval_bind_ok (x.eval_call (.loadState e.conversationId))

/-- A call for an envelope whose key is claimed. -/
def repeated (e : InboundEnvelope) (w : World) : TurnResult where
  conversationId := e.conversationId
  state := (w.load e.conversationId).state
  reply := none
  duplicate := true

theorem eval_handle_duplicate (h : (s.switched && x.paused) = false)
    (htaken : w.taken e.dedupKey x.now = true) :
    x.eval (handle s e) w = (.ok (repeated e w), w) := by
  unfold handle
  rw [x.eval_bind_ok x.eval_paused, if_neg (by rw [h]; decide)]
  have hclaim : x.eval (call (.claim e.dedupKey)) w = (.ok false, w) :=
    (x.eval_call _).trans (World.claim_of_taken htaken)
  refine (x.eval_bind_ok hclaim).trans ?_
  exact x.eval_bind_ok (x.eval_call (.loadState e.conversationId))

/-- **A turn that is served**: it is processed with its key claimed, and the claim is given back if
that raises. -/
theorem eval_handle (h : (s.switched && x.paused) = false)
    (hfree : w.taken e.dedupKey x.now = false) :
    x.eval (handle s e) w =
      match x.eval (process s e) (w.claimed e.dedupKey x.now) with
      | (.ok r, b) => (.ok r, b)
      | (.error f, b) => (.error f, b.release e.dedupKey) := by
  unfold handle
  rw [x.eval_bind_ok x.eval_paused, if_neg (by rw [h]; decide)]
  have hclaim : x.eval (call (.claim e.dedupKey)) w = (.ok true, w.claimed e.dedupKey x.now) :=
    (x.eval_call _).trans (World.claim_of_free hfree)
  refine (x.eval_bind_ok hclaim).trans ?_
  rcases hprocess : x.eval (process s e) (w.claimed e.dedupKey x.now) with ⟨f | r, b⟩
  · exact (x.eval_tryCatch_error hprocess).trans (x.eval_bind_ok (x.eval_call (.release _)))
  · exact x.eval_tryCatch_ok hprocess

theorem eval_process_message (h : e.isSelection = false) :
    x.eval (process s e) w =
      x.eval (handleMessage s e (w.load e.conversationId) x.now) w := by
  unfold process
  rw [x.eval_bind_ok (x.eval_call .now), x.eval_bind_ok (x.eval_call (.loadState _))]
  cases hpayload : e.payload with
  | parentSelection selection => simp [InboundEnvelope.isSelection, hpayload] at h
  | leadEvent event => rfl
  | whatsappTurn turn => rfl

theorem eval_process_selection (h : e.isSelection = true) :
    x.eval (process s e) w = x.eval (handleSelection s e (w.load e.conversationId)) w := by
  unfold process
  rw [x.eval_bind_ok (x.eval_call .now), x.eval_bind_ok (x.eval_call (.loadState _))]
  cases hpayload : e.payload with
  | parentSelection selection => rfl
  | leadEvent event => simp [InboundEnvelope.isSelection, hpayload] at h
  | whatsappTurn turn => simp [InboundEnvelope.isSelection, hpayload] at h

/-- **What is heard**: a message that nothing stops, that was not seen before, that abuse control
lets through, and that can be read. -/
structure Heard (s : Service) (e : InboundEnvelope) (w : World) : Prop where
  running : (s.switched && x.paused) = false
  free : w.taken e.dedupKey x.now = false
  message : e.isSelection = false
  kept : sheds (x.assessed s e) = false
  readable : e.readable = true

/-- What is served is heard and is no question about a tutor. -/
structure Serves (s : Service) (e : InboundEnvelope) (w : World) : Prop
    extends x.Heard s e w where
  noLookup : x.lookup s e = none

/-- The conversation as the message finds it. -/
def received (e : InboundEnvelope) (w : World) : ConversationSnapshot :=
  (w.load e.conversationId).fired .messageReceived x.now e.traceId

/-- What is stored when the requirement has been. -/
def merged (e : InboundEnvelope) (w : World) : World :=
  (w.claimed e.dedupKey x.now).saveRequirement (x.captured e x.now w)

theorem eval_handle_serve (h : x.Serves s e w) :
    x.eval (handle s e) w =
      let readiness := (x.captured e x.now w).assess s.domain
      match x.eval (if readiness.readyToMatch then
        shortlist s e (w.load e.conversationId).lockVersion (x.received e w) x.now
          (x.captured e x.now w) (x.resolved e).2.2
        else clarify s e (w.load e.conversationId).lockVersion (x.received e w) x.now readiness
          (x.resolved e).2.2) (x.merged e w) with
      | (.ok r, b) => (.ok r, b)
      | (.error f, b) => (.error f, b.release e.dedupKey) := by
  rw [x.eval_handle h.running h.free, x.eval_process_message h.message,
    x.eval_handleMessage_serve h.kept h.noLookup, x.eval_serve h.readable]
  rfl

/-- A snapshot of the conversation is saved over what was loaded. -/
theorem version_merged {final : ConversationSnapshot}
    (h : final.conversationId = (x.received e w).conversationId) :
    (x.merged e w).version final.conversationId = (w.load e.conversationId).lockVersion := by
  have hname : final.conversationId = e.conversationId := by
    rw [h, received, ConversationSnapshot.fired_conversationId, World.load_conversationId]
  rw [hname]
  exact w.version_eq_load e.conversationId

@[simp] theorem concluded_conversationId {outcome : MatchOutcome} {traceId : String} :
    (concluded snapshot now traceId outcome).conversationId = snapshot.conversationId := by
  have hfold : ∀ (triggers : List Trigger) (y : ConversationSnapshot),
      (triggers.foldl (fun y t => y.fired t now traceId) y).conversationId =
        y.conversationId := by
    intro triggers
    induction triggers with
    | nil => exact fun _ => rfl
    | cons t rest ih =>
      intro y
      rw [List.foldl_cons, ih, ConversationSnapshot.fired_conversationId]
  rw [concluded, hfold, ConversationSnapshot.fired_conversationId,
    ConversationSnapshot.fired_conversationId]

/-- **A turn that matches.** -/
theorem eval_handle_match {outcome : MatchOutcome} {final : ConversationSnapshot}
    (h : x.Serves s e w) (hready : ((x.captured e x.now w).assess s.domain).readyToMatch = true)
    (houtcome : x.matched s (x.captured e x.now w) (x.resolved e).2.2 = outcome)
    (hfinal : concluded (x.received e w) x.now e.traceId outcome = final)
    (haddress : Addressable s e) :
    x.eval (handle s e) w =
      (.ok (announced s e final outcome (x.run.degraded.foldl mark (x.resolved e).2.2)),
        ((((x.merged e w).saveDecision outcome.decision).saved final).enqueue
          (replyMessage s e (announcement s outcome))).noting s e (outcomeDeed outcome).1
            (outcomeDeed outcome).2 (outcome.decision.shortlist.map (·.tutorId))) := by
  rw [x.eval_handle_serve h]
  dsimp only
  rw [if_pos hready, x.eval_shortlist houtcome hfinal _ haddress]
  rw [← hfinal]
  exact x.version_merged concluded_conversationId

/-- **A turn that asks.** -/
theorem eval_handle_ask {final : ConversationSnapshot}
    (h : x.Serves s e w) (hready : ((x.captured e x.now w).assess s.domain).readyToMatch = false)
    (hfinal : (x.received e w).fired .requirementsIncomplete x.now e.traceId = final)
    (haddress : Addressable s e) :
    let readiness := (x.captured e x.now w).assess s.domain
    x.eval (handle s e) w =
      (.ok (clarified s e final readiness (x.resolved e).2.2),
        (((x.merged e w).saved final).enqueue
          (replyMessage s e (clarification s readiness))).noting s e
            DeedType.REQUIREMENT_CAPTURED (askedSummary readiness) []) := by
  intro readiness
  rw [x.eval_handle_serve h]
  dsimp only
  rw [if_neg (by rw [hready]; decide), x.eval_clarify hfinal _ haddress]
  rw [← hfinal]
  exact x.version_merged ConversationSnapshot.fired_conversationId

/-! ### What is heard is answered -/

/-- The turn matches, and what the pipeline says asks for a human. -/
def asksHuman (s : Service) (e : InboundEnvelope) (w : World) : Bool :=
  let requirement := x.captured e x.now w
  (x.lookup s e).isNone && (requirement.assess s.domain).readyToMatch &&
    (x.matched s requirement (x.resolved e).2.2).needsHuman

/-- **What a turn that replies comes to.** -/
structure Replied (s : Service) (e : InboundEnvelope) (w : World) (text : String) (r : TurnResult)
    (w' : World) : Prop where
  reply : r.reply = some text
  short : text.length ≤ OutputGuard.MAX_MESSAGE_CHARS
  words : Text.strip s.t text ≠ ""
  fresh : r.duplicate = false
  human : r.outcome.any (·.needsHuman) = x.asksHuman s e w
  /-- the row of the reply, and then those of deeds -/
  rows : ∃ deeds : List OutboxMessage, (∀ m ∈ deeds, m.kind = .memoryDeed) ∧
    w'.outbox = deeds.foldl Outbox.enqueue (w.outbox.enqueue (replyMessage s e text))

theorem outbox_noting {deed summary : String} {tutors : List String} :
    ∃ deeds : List OutboxMessage, (∀ m ∈ deeds, m.kind = .memoryDeed) ∧
      (w.noting s e deed summary tutors).outbox = deeds.foldl Outbox.enqueue w.outbox := by
  unfold World.noting
  split
  · refine ⟨[deedMessage s e deed summary tutors], fun m hm => ?_, rfl⟩
    rw [List.mem_singleton.mp hm]
    rfl
  · exact ⟨[], fun m hm => absurd hm List.not_mem_nil, rfl⟩

/-- The conversation after a turn that asks. -/
def asked (e : InboundEnvelope) (w : World) : ConversationSnapshot :=
  (x.received e w).fired .requirementsIncomplete x.now e.traceId

theorem version_asked : (w.claimed e.dedupKey x.now).version (x.asked e w).conversationId =
    (w.load e.conversationId).lockVersion := by
  rw [asked, ConversationSnapshot.fired_conversationId, received,
    ConversationSnapshot.fired_conversationId, World.load_conversationId]
  exact w.version_eq_load e.conversationId

/-- **Whoever is heard is answered**, if the row can be addressed. -/
theorem eval_handle_replied (h : x.Heard s e w) (haddress : Addressable s e) :
    ∃ text r w', x.eval (handle s e) w = (.ok r, w') ∧ x.Replied s e w text r w' := by
  cases hlookup : x.lookup s e with
  | some reply =>
    obtain ⟨message, fees, hreply⟩ := x.lookup_guarded hlookup
    have hfit : (delivery s e reply).refusal s.t = none := hreply ▸ refusal_guarded.mpr haddress
    have heval : x.eval (handleMessage s e ((w.claimed e.dedupKey x.now).load e.conversationId)
        x.now) (w.claimed e.dedupKey x.now) = _ :=
      x.eval_handleMessage_lookup h.kept hlookup rfl x.version_asked hfit
    refine ⟨reply, lookedUp e (x.asked e w) reply, ((w.claimed e.dedupKey x.now).saved
      (x.asked e w)).enqueue (replyMessage s e reply), ?_,
      ⟨rfl, ?_, ?_, rfl, ?_, [], fun m hm => absurd hm List.not_mem_nil, rfl⟩⟩
    · rw [x.eval_handle h.running h.free, x.eval_process_message h.message, heval]
      rfl
    · rw [hreply]
      exact guardOutput_fit.1
    · rw [hreply]
      exact guardOutput_fit.2
    · simp [asksHuman, hlookup, lookedUp]
  | none =>
    have hserves : x.Serves s e w := { h with noLookup := hlookup }
    cases hready : ((x.captured e x.now w).assess s.domain).readyToMatch with
    | true =>
      refine ⟨_, _, _, x.eval_handle_match hserves hready rfl rfl haddress,
        ⟨rfl, guardOutput_fit.1, guardOutput_fit.2, rfl, ?_, outbox_noting⟩⟩
      simp [asksHuman, hlookup, hready, announced]
    | false =>
      refine ⟨_, _, _, x.eval_handle_ask hserves hready rfl haddress,
        ⟨rfl, guardOutput_fit.1, guardOutput_fit.2, rfl, ?_, outbox_noting⟩⟩
      simp [asksHuman, hready, clarified]

/-- Where it cannot, the turn raises. -/
theorem eval_handle_refused (h : x.Heard s e w) (haddress : ¬ Addressable s e) :
    ∃ f w', x.eval (handle s e) w = (.error f, w') := by
  have hraised : ∃ f b, x.eval (process s e) (w.claimed e.dedupKey x.now) = (.error f, b) := by
    rw [x.eval_process_message h.message]
    cases hlookup : x.lookup s e with
    | some reply =>
      obtain ⟨f, hrefused⟩ := x.eval_handleMessage_refused (w := w.claimed e.dedupKey x.now) h.kept
        hlookup rfl x.version_asked haddress
      exact ⟨f, _, hrefused⟩
    | none =>
      rw [x.eval_handleMessage_serve h.kept hlookup, x.eval_serve h.readable]
      dsimp only
      split
      · refine Exists.imp (fun f hf => ⟨_, hf⟩) (x.eval_shortlist_refused rfl rfl ?_ haddress)
        exact x.version_merged concluded_conversationId
      · refine Exists.imp (fun f hf => ⟨_, hf⟩) (x.eval_clarify_refused rfl ?_ haddress)
        exact x.version_merged ConversationSnapshot.fired_conversationId
  obtain ⟨f, b, hprocess⟩ := hraised
  refine ⟨f, b.release e.dedupKey, ?_⟩
  rw [x.eval_handle h.running h.free, hprocess]

/-- **Whoever is not heard is not answered** through the outbox. -/
theorem eval_handle_silent (hmessage : e.isSelection = false) (hreadable : e.readable = true)
    (h : ¬ x.Heard s e w) : ∃ r w', x.eval (handle s e) w = (.ok r, w') ∧
      w'.outbox = w.outbox ∧ r.outcome = none ∧
      (r.duplicate = true ∨ r.reply = none ∨ r.reply = some THROTTLE_REPLY) := by
  cases hpaused : s.switched && x.paused with
  | true => exact ⟨_, _, x.eval_handle_paused hpaused, rfl, rfl, .inr (.inl rfl)⟩
  | false =>
    cases htaken : w.taken e.dedupKey x.now with
    | true => exact ⟨_, _, x.eval_handle_duplicate hpaused htaken, rfl, rfl, .inl rfl⟩
    | false =>
      cases hshed : sheds (x.assessed s e) with
      | false => exact absurd ⟨hpaused, htaken, hmessage, hshed, hreadable⟩ h
      | true =>
        refine ⟨shed e (w.load e.conversationId) (x.assessed s e),
          (w.claimed e.dedupKey x.now).release e.dedupKey, ?_, rfl, rfl, .inr ?_⟩
        · have heval : x.eval (handleMessage s e
              ((w.claimed e.dedupKey x.now).load e.conversationId) x.now)
              (w.claimed e.dedupKey x.now) = _ := x.eval_handleMessage_shed hshed
          rw [x.eval_handle hpaused htaken, x.eval_process_message hmessage, heval]
          rfl
        · unfold shed
          dsimp only
          split
          · exact .inl rfl
          · exact .inr rfl

end Outside

end NxTutors.MatchAgent
