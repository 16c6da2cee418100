import NxTutors.MatchAgent.Replies

/-!
# The state that a turn saves

A turn that matches fires up to five triggers, one after the other, and those the table does not
have are passed over. So where it ends depends on where it began: from an open conversation it ends
where its outcome says, and from one that is under review it does not move at all, since only a
human closes that.
-/

namespace NxTutors.MatchAgent

open Effect Prog
open ConversationSnapshot (fired_conversationId fired_state)

/-! ## Triggers, one after the other -/

namespace ConversationState

/-- Fire triggers, passing over those that the table does not have. -/
def fireAll (state : ConversationState) (triggers : List Trigger) : ConversationState :=
  triggers.foldl fire state

/-- **Only a human closes what is under review.** -/
theorem fireAll_humanReview {triggers : List Trigger} (h : .close ∉ triggers) :
    humanReview.fireAll triggers = humanReview := by
  induction triggers with
  | nil => rfl
  | cons t rest ih =>
    rw [List.mem_cons, not_or] at h
    have hstay : humanReview.fire t = humanReview := by
      cases t with
      | close => exact absurd rfl h.1
      | _ => rfl
    rw [fireAll, List.foldl_cons, hstay]
    exact ih h.2

end ConversationState

/-- The triggers of a turn that matches. -/
def matchTriggers (outcome : MatchOutcome) : List Trigger :=
  [.messageReceived, .requirementsComplete, .matchStarted] ++
    TurnService.outcomeTriggers outcome

theorem close_notMem_matchTriggers (outcome : MatchOutcome) :
    .close ∉ matchTriggers outcome := by
  unfold matchTriggers TurnService.outcomeTriggers
  cases outcome.matched <;> cases outcome.needsHuman <;> decide

/-- A snapshot after some triggers. -/
theorem foldl_fired_state {now : Time} {traceId : String} (triggers : List Trigger)
    (snapshot : ConversationSnapshot) :
    (triggers.foldl (fun y t => y.fired t now traceId) snapshot).state =
      snapshot.state.fireAll triggers := by
  induction triggers generalizing snapshot with
  | nil => rfl
  | cons t rest ih =>
    rw [List.foldl_cons, ih, fired_state]
    rfl

theorem concluded_state {loaded : ConversationSnapshot} {now : Time} {traceId : String}
    {outcome : MatchOutcome} :
    (Outside.concluded (loaded.fired .messageReceived now traceId) now traceId outcome).state =
      loaded.state.fireAll (matchTriggers outcome) := by
  rw [Outside.concluded, foldl_fired_state, fired_state,
    fired_state, fired_state]
  rfl

/-! ## What a turn does to the state -/

section Turns

variable {s : Service} {e : InboundEnvelope} {fails : Op → Prop} {w a b : World}
  {out : Except Fault TurnResult}

/-- A call saves no conversation. -/
def Still (o : Op) : Prop := ∀ snapshot expected, o ≠ .saveState snapshot expected

theorem Served.states {o : Op} {r : Except Fault o.Res} (h : Served o a r b) (ho : Still o) :
    b.states = a.states := by
  cases o with
  | claim key =>
    obtain ⟨now, h⟩ := h
    unfold World.claim at h
    split at h <;> cases h <;> rfl
  | saveState snapshot expected => exact absurd rfl (ho snapshot expected)
  | _ =>
    obtain ⟨-, rfl⟩ := h
    rfl

theorem states_of_answer {o : Op} {r : Except Fault o.Res}
    (hans : (stores fails).answers o a r b) (ho : Still o) : b.states = a.states := by
  rcases hans with hserved | ⟨-, -, rfl⟩
  · exact hserved.states ho
  · rfl

/-- The same conversations are stored. -/
theorem load_congr (h : b.states = a.states) (c : String) : b.load c = a.load c := by
  unfold World.load
  rw [h]

/-- A part that saves no conversation leaves all as they are. -/
theorem meets_still {α : Type} {R : α → Prop} {p : Turn α} (hp : TurnService.Calls Still R p)
    (ha : a.states = w.states) : Meets (stores fails) (fun _ _ => True)
      (fun out (b : World) => b.states = w.states ∧ Prog.Ended R (fun _ => True) out) p a := by
  refine Meets.of_within (I := fun b : World => b.states = w.states) hp ?_ ?_ ha
  · rintro b c hb rfl
    exact hb
  · exact fun o b r c ho hb hans => ⟨trivial, (states_of_answer hans ho).trans hb,
      fun _ _ => trivial⟩

/-- **What a turn does to the state of its conversation**: it fires triggers, of which none closes,
and if it matches, those of the outcome. -/
def Moved (e : InboundEnvelope) (w : World) (out : Except Fault TurnResult) (b : World) : Prop :=
  ∃ triggers, .close ∉ triggers ∧
    (b.load e.conversationId).state = (w.load e.conversationId).state.fireAll triggers ∧
    ∀ r o, out = .ok r → r.outcome = some o →
      triggers = matchTriggers o ∧ r.state = (b.load e.conversationId).state

/-- Nothing is saved, and nothing is matched. -/
theorem Moved.still (hb : b.states = w.states) (hout : ∀ r, out = .ok r → r.outcome = none) :
    Moved e w out b := by
  refine ⟨[], List.not_mem_nil, by rw [load_congr hb]; rfl, fun r o hr ho => ?_⟩
  rw [hout r hr] at ho
  cases ho

theorem Moved.error {f : Fault} (hb : b.states = w.states) : Moved e w (.error f) b :=
  .still hb fun _ hr => nomatch hr

/-- What a call that was cut off has done is done when another one raises. -/
theorem Moved.raised {f f' : Fault} (h : Moved e w (.error f) a) (hb : b.states = a.states) :
    Moved e w (.error f') b := by
  obtain ⟨triggers, hclose, hstate, -⟩ := h
  exact ⟨triggers, hclose, by rw [load_congr hb, hstate], fun _ _ hr => nomatch hr⟩

/-- A call that saves nothing, and what comes after it. -/
theorem moved_call_bind {o : Op} {f : o.Res → Turn TurnResult} (ho : Still o)
    (ha : a.states = w.states)
    (hf : ∀ x b, (stores fails).answers o a (.ok x) b → b.states = w.states →
      Meets (stores fails) (fun _ _ => True) (Moved e w) (f x) b) :
    Meets (stores fails) (fun _ _ => True) (Moved e w) (call o >>= f) a := by
  refine meets_call_bind (fun x b hans => ?_) fun x b hans => ?_
  · exact hf x b hans ((states_of_answer hans ho).trans ha)
  · exact .error ((states_of_answer hans ho).trans ha)

/-- A save, and what comes after it and saves nothing. -/
theorem moved_save_bind {snapshot : ConversationSnapshot} {expected : Nat} {triggers : List Trigger}
    {f : Unit → Turn TurnResult} {R : TurnResult → Prop} (ha : a.states = w.states)
    (hname : snapshot.conversationId = e.conversationId) (hclose : .close ∉ triggers)
    (hstate : snapshot.state = (w.load e.conversationId).state.fireAll triggers)
    (hf : TurnService.Calls Still R (f ()))
    (hR : ∀ r o, R r → r.outcome = some o → triggers = matchTriggers o ∧ r.state = snapshot.state) :
    Meets (stores fails) (fun _ _ => True) (Moved e w)
      (call (.saveState snapshot expected) >>= f) a := by
  refine meets_call_bind (fun x b hans => ?_) fun x b hans => ?_
  · have hsaved : b = a.saved snapshot := by
      rcases hans with hserved | ⟨-, ⟨_, hok⟩, -⟩
      · have hsave : a.saveState snapshot expected = (.ok (), b) := hserved
        unfold World.saveState at hsave
        split at hsave
        · cases hsave
          rfl
        · cases hsave
      · cases hok
    have hload : b.load e.conversationId = snapshot := by
      rw [hsaved, ← hname]
      exact World.load_saved a snapshot
    refine (meets_still hf rfl).post fun out c ⟨hc, hend⟩ => ?_
    have hfinal : c.load e.conversationId = snapshot := (load_congr hc _).trans hload
    refine ⟨triggers, hclose, by rw [hfinal, hstate], fun r o hr ho => ?_⟩
    subst hr
    rw [hfinal]
    exact hR r o hend ho
  · have hstates : b = a := by
      rcases hans with hserved | ⟨-, -, rfl⟩
      · have hsave : a.saveState snapshot expected = (.error x, b) := hserved
        unfold World.saveState at hsave
        split at hsave <;> cases hsave
        rfl
      · rfl
    rw [hstates]
    exact .error ha

variable {expected : Nat} {loaded : ConversationSnapshot} {now : Time}

theorem shortlist_moved {requirement : MatchRequirement} {degraded : List String}
    (ha : a.states = w.states) (hloaded : loaded = w.load e.conversationId) :
    Meets (stores fails) (fun _ _ => True) (Moved e w) (TurnService.shortlist s e expected
      (loaded.fired .messageReceived now e.traceId) now requirement degraded) a := by
  refine moved_call_bind nofun ha fun run b _ hb => ?_
  refine moved_call_bind nofun hb fun _ c _ hc => ?_
  dsimp only
  generalize outcomeOf s.speech requirement (run.degraded.foldl mark degraded) run = outcome
  refine moved_save_bind (R := fun r => r.outcome = some outcome ∧ r.state = (Outside.concluded
    (loaded.fired .messageReceived now e.traceId) now e.traceId outcome).state) hc ?_
    (close_notMem_matchTriggers outcome) ?_
    (TurnService.calls_replied (fun _ => nofun) (fun _ => nofun) fun _ => ⟨rfl, rfl⟩) ?_
  · exact Outside.concluded_conversationId.trans
      (fired_conversationId.trans (hloaded ▸ World.load_conversationId w _))
  · exact concluded_state.trans (by rw [hloaded])
  · rintro r o ⟨houtcome, hstate⟩ ho
    rw [houtcome] at ho
    cases ho
    exact ⟨rfl, hstate⟩

/-- An answer that is no match, after some triggers that do not close. -/
theorem answered_moved {snapshot : ConversationSnapshot} (triggers : List Trigger)
    {f : Unit → Turn TurnResult} (ha : a.states = w.states)
    (hname : snapshot.conversationId = e.conversationId) (hclose : .close ∉ triggers)
    (hstate : snapshot.state = (w.load e.conversationId).state.fireAll triggers)
    (hf : TurnService.Calls Still (fun r => r.outcome = none) (f ())) :
    Meets (stores fails) (fun _ _ => True) (Moved e w)
      (call (.saveState snapshot expected) >>= f) a := by
  refine moved_save_bind ha hname hclose hstate hf fun r o hnone ho => ?_
  rw [hnone] at ho
  cases ho

theorem serve_moved (ha : a.states = w.states) (hloaded : loaded = w.load e.conversationId) :
    Meets (stores fails) (fun _ _ => True) (Moved e w) (TurnService.serve s e expected
      (loaded.fired .messageReceived now e.traceId) now) a := by
  refine (meets_still (TurnService.calls_resolve (fun _ _ _ => nofun) fun _ _ => nofun) ha).bind
    (fun x b hb => ?_) fun f b hb => .error hb.1
  refine moved_call_bind nofun hb.1 fun stored c _ hc => ?_
  refine moved_call_bind nofun hc fun _ d _ hd => ?_
  dsimp only
  split
  · exact shortlist_moved hd hloaded
  · refine answered_moved [.messageReceived, .requirementsIncomplete] hd ?_
      (by decide) ?_ (TurnService.calls_replied (fun _ => nofun) (fun _ => nofun) fun _ => rfl)
    · rw [fired_conversationId, fired_conversationId,
        hloaded, World.load_conversationId]
    · rw [fired_state, fired_state, hloaded]
      rfl

theorem handleMessage_moved (ha : a.states = w.states) (hloaded : loaded = w.load e.conversationId) :
    Meets (stores fails) (fun _ _ => True) (Moved e w)
      (TurnService.handleMessage s e loaded now) a := by
  refine (meets_still (TurnService.calls_assessAbuse fun _ _ => nofun) ha).bind
    (fun assessment b hb => ?_) fun f b hb => .error hb.1
  split
  · refine moved_call_bind nofun hb.1 fun _ c _ hc => .still hc fun r hr => ?_
    cases hr
    rfl
  · refine (meets_still (TurnService.calls_answerTutorLookup fun _ => nofun) hb.1).bind
      (fun lookup c hc => ?_) fun f c hc => .error hc.1
    cases lookup with
    | none => exact serve_moved hc.1 hloaded
    | some reply =>
      refine answered_moved [.messageReceived, .requirementsIncomplete] hc.1 ?_
        (by decide) ?_ ((TurnService.calls_enqueueReply fun _ => nofun).bind fun _ _ =>
          within_ret.mpr rfl)
      · rw [fired_conversationId, fired_conversationId,
          hloaded, World.load_conversationId]
      · rw [fired_state, fired_state, hloaded]
        rfl

theorem handleSelection_moved (ha : a.states = w.states)
    (hloaded : loaded = w.load e.conversationId) :
    Meets (stores fails) (fun _ _ => True) (Moved e w)
      (TurnService.handleSelection s e loaded) a := by
  refine moved_call_bind nofun ha fun now b _ hb => ?_
  dsimp only
  split
  · refine answered_moved [.parentSelected] hb ?_ (by decide) ?_
      ((TurnService.calls_recordDeed fun _ => nofun).bind fun _ _ =>
        (TurnService.calls_enqueueReply fun _ => nofun).bind fun _ _ => within_ret.mpr rfl)
    · exact fired_conversationId.trans
        (hloaded ▸ World.load_conversationId w _)
    · exact fired_state.trans (by rw [hloaded]; rfl)
  · refine .still hb fun r hr => ?_
    cases hr
    rfl

/-- **A turn moves its conversation along the table**, wherever it is cut off. -/
theorem handle_moved : Meets (stores fails) (fun _ _ => True) (Moved e w)
    (TurnService.handle s e) w := by
  refine (meets_still (TurnService.calls_paused nofun) rfl).bind (fun stopped a ha => ?_)
    fun f b hb => .error hb.1
  split
  · refine moved_call_bind nofun ha.1 fun _ b _ hb => .still hb fun r hr => ?_
    cases hr
    rfl
  · refine moved_call_bind nofun ha.1 fun ours b _ hb => ?_
    split
    · refine Meets.tryCatch (M := Moved e w) ?_ (fun _ _ h => h) fun f c hc => ?_
      · refine moved_call_bind nofun hb fun now c _ hc => ?_
        refine moved_call_bind nofun hc fun loaded d hans hd => ?_
        have hloaded : loaded = w.load e.conversationId := by
          rcases hans with ⟨hok, -⟩ | ⟨-, ⟨_, hok⟩, -⟩
          · cases hok
            exact load_congr hc _
          · cases hok
        cases e.payload with
        | parentSelection selection => exact handleSelection_moved hd hloaded
        | leadEvent event => exact handleMessage_moved hd hloaded
        | whatsappTurn turn => exact handleMessage_moved hd hloaded
      · refine meets_call_bind (fun _ d hans => ?_) fun _ d hans => ?_
        · exact hc.raised (states_of_answer (o := .release e.dedupKey) hans nofun)
        · exact hc.raised (states_of_answer (o := .release e.dedupKey) hans nofun)
    · refine moved_call_bind nofun hb fun _ c _ hc => .still hc fun r hr => ?_
      cases hr
      rfl

end Turns

/-! ## Where an outcome leads -/

/-- The state that an outcome calls for. -/
def MatchOutcome.calledFor (o : MatchOutcome) : ConversationState :=
  if o.needsHuman then .humanReview else if o.matched then .awaitingSelection else .noMatch

/-- From where an outcome leads to the state it calls for. -/
def Settles (start : ConversationState) (o : MatchOutcome) : Prop :=
  (start ∈ [.new, .collectingRequirements, .readyToMatch, .noMatch, .errorRecoverable] ∧
      ¬ (o.matched = true ∧ o.needsHuman = true)) ∨
    (start = .awaitingSelection ∧ (o.matched = true ∨ o.needsHuman = true)) ∨
    (start = .demoRequested ∧ o.needsHuman = true) ∨
    (start = .shortlistReady ∧ o.matched = true ∧ o.needsHuman = false)

theorem fireAll_matchTriggers {start : ConversationState} {o : MatchOutcome}
    (h : Settles start o) : start.fireAll (matchTriggers o) = o.calledFor := by
  unfold Settles at h
  unfold matchTriggers TurnService.outcomeTriggers MatchOutcome.calledFor
  cases hmatched : o.matched <;> cases hneeds : o.needsHuman <;> rw [hmatched, hneeds] at h <;>
    cases start <;> first | rfl | simp at h

/-- A pipeline that finds tutors without a single link that works. -/
def findsNoLink : PipelineRun := ⟨"session", .shortlisted [] [] [] false, []⟩

/-- Some outcome moves a conversation that is open. -/
theorem exists_run_moving {start : ConversationState} (h : start ∉ TERMINAL)
    (hreview : start ≠ .humanReview) (speech : Explanation.Speech) (q : MatchRequirement)
    (degraded : List String) : ∃ run : PipelineRun,
      start.fireAll (matchTriggers (outcomeOf speech q (run.degraded.foldl mark degraded) run)) ≠
        start := by
  by_cases hready : start = .shortlistReady
  · subst hready
    refine ⟨findsAna.run, ?_⟩
    have hchain : matchTriggers (outcomeOf speech q degraded findsAna.run) =
        [.messageReceived, .requirementsComplete, .matchStarted, .shortlistGenerated,
          .shortlistDelivered] := rfl
    exact hchain ▸ by decide
  · refine ⟨findsNoLink, ?_⟩
    have hchain : matchTriggers (outcomeOf speech q degraded findsNoLink) =
        [.messageReceived, .requirementsComplete, .matchStarted, .noCandidates,
          .humanHandoff] := rfl
    refine hchain ▸ ?_
    cases start <;> first | decide | exact absurd rfl hready | exact absurd rfl hreview |
      exact absurd (by decide) h

section Agreement

variable {s : Service} {e : InboundEnvelope} {fails : Op → Prop} {w : World}

theorem load_noting {deed summary : String} {tutors : List String} (c : String) :
    (w.noting s e deed summary tutors).load c = w.load c := by
  unfold World.noting
  split <;> rfl

/-- **A turn that matches can move every open conversation.** -/
theorem exists_moving_turn {x : Outside} (h : x.Serves s e w)
    (hready : ((x.captured e x.now w).assess s.domain).readyToMatch = true)
    (haddress : Addressable s e) (hopen : (w.load e.conversationId).state ∉ TERMINAL)
    (hreview : (w.load e.conversationId).state ≠ .humanReview) :
    ∃ run r w', Outside.eval { x with run } (TurnService.handle s e) w = (.ok r, w') ∧
      (w'.load e.conversationId).state ≠ (w.load e.conversationId).state := by
  obtain ⟨run, hmoves⟩ := exists_run_moving hopen hreview s.speech (x.captured e x.now w)
    (x.resolved e).2.2
  have hserves : Outside.Serves { x with run } s e w :=
    { h with }
  refine ⟨run, _, _, Outside.eval_handle_match _ hserves hready rfl rfl haddress, ?_⟩
  rw [load_noting]
  have hname : (Outside.concluded (x.received e w) x.now e.traceId (outcomeOf s.speech
      (x.captured e x.now w) (run.degraded.foldl mark (x.resolved e).2.2) run)).conversationId =
      e.conversationId := by
    rw [Outside.concluded_conversationId, Outside.received,
      fired_conversationId, World.load_conversationId]
  have hload := World.load_saved ((x.merged e w).saveDecision (outcomeOf s.speech
    (x.captured e x.now w) (run.degraded.foldl mark (x.resolved e).2.2) run).decision)
    (Outside.concluded (x.received e w) x.now e.traceId (outcomeOf s.speech
      (x.captured e x.now w) (run.degraded.foldl mark (x.resolved e).2.2) run))
  rw [hname] at hload
  refine ne_of_eq_of_ne ((congrArg ConversationSnapshot.state hload).trans concluded_state) hmoves

/-- **The saved state agrees with the answer**, after every turn that matched, from every state
from which the table leads there. No turn moves a conversation that is under review, and from every
other state that is not final a turn that matches can move it. -/
theorem state_agrees :
    (∀ out w', Run (stores fails) (TurnService.handle s e) w out w' →
      (∀ r o, out = .ok r → r.outcome = some o → Settles (w.load e.conversationId).state o →
        (w'.load e.conversationId).state = o.calledFor ∧ r.state = o.calledFor) ∧
      ((w.load e.conversationId).state = .humanReview →
        (w'.load e.conversationId).state = .humanReview)) ∧
    ∀ x : Outside, x.Serves s e w →
      ((x.captured e x.now w).assess s.domain).readyToMatch = true → Addressable s e →
        (w.load e.conversationId).state ∉ TERMINAL →
          (w.load e.conversationId).state ≠ .humanReview →
            ∃ run r w', Outside.eval { x with run } (TurnService.handle s e) w = (.ok r, w') ∧
              (w'.load e.conversationId).state ≠ (w.load e.conversationId).state := by
  refine ⟨fun out w' hrun => ?_, fun x h hready haddress => exists_moving_turn h hready haddress⟩
  obtain ⟨triggers, hclose, hstate, hmatched⟩ := handle_moved.run hrun
  refine ⟨fun r o hr ho hsettles => ?_, fun hreview => ?_⟩
  · obtain ⟨rfl, hresult⟩ := hmatched r o hr ho
    rw [fireAll_matchTriggers hsettles] at hstate
    exact ⟨hstate, hresult.trans hstate⟩
  · rw [hstate, hreview]
    exact ConversationState.fireAll_humanReview hclose

end Agreement

/-! ### A conversation under review -/

/-- A message that comes later. -/
def matchingAgain : InboundEnvelope := messageOf "m3" "maths" onlineMaths none (by decide)
  none_le

/-- A match without a link that works asks for a human. -/
theorem matching_reviewed : ∃ r w,
    Outside.eval { run := findsNoLink } (TurnService.handle smallService matching) .fresh =
      (.ok r, w) ∧
    (w.load "wa:1").state = .humanReview ∧ findsAna.Serves smallService matchingAgain w ∧
    ((findsAna.captured matchingAgain 0 w).assess smallDomain).readyToMatch = true := by
  have hserves : Outside.Serves { run := findsNoLink } smallService matching .fresh :=
    { running := rfl, free := rfl, message := rfl, kept := rfl, noLookup := rfl, readable := rfl }
  refine ⟨_, _, Outside.eval_handle_match _ hserves (by decide) rfl rfl (by decide), ?_,
    ⟨⟨rfl, rfl, rfl, rfl, rfl⟩, rfl⟩, by decide⟩
  exact (congrArg ConversationSnapshot.state (World.load_saved _ _)).trans (by decide)

/-- The match of a first message ends where its outcome leads. -/
theorem matching_settled : ∃ r o w,
    Outside.eval findsAna (TurnService.handle smallService matching) .fresh = (.ok r, w) ∧
      r.outcome = some o ∧ (w.load "wa:1").state = o.calledFor := by
  have hserves : findsAna.Serves smallService matching .fresh :=
    { running := rfl, free := rfl, message := rfl, kept := rfl, noLookup := rfl, readable := rfl }
  have heval := findsAna.eval_handle_match hserves (by decide) rfl rfl (by decide)
  obtain ⟨log, hrun⟩ := findsAna.run_of_eval (fun _ => True) heval
  have hsettled := (state_agrees.1 _ _ hrun.unlogged).1 _ _ rfl rfl (.inl ⟨by decide, by decide⟩)
  exact ⟨_, _, _, heval, rfl, hsettled.1⟩

/-- **A match does not move a conversation under review**, whatever its outcome calls for. -/
theorem review_kept : ¬ ∀ s fails events w e log r o w',
    Path (Happens s fails) .fresh events w →
      Happens s fails w (.delivery ⟨e, log, .ok r⟩) w' → r.outcome = some o →
        (w'.load e.conversationId).state = o.calledFor := by
  intro h
  obtain ⟨r, w, hmatched, hreview, hserves, hready⟩ := matching_reviewed
  obtain ⟨log, hfirst⟩ := happens_of_eval hmatched
  have hagain := findsAna.eval_handle_match hserves hready rfl rfl (by decide)
  obtain ⟨log', hsecond⟩ := happens_of_eval hagain
  have hcalled := h _ _ _ _ _ _ _ _ _ (.cons hfirst .nil) hsecond rfl
  cases hsecond with
  | delivery hrun =>
    obtain ⟨triggers, hclose, hstate, -⟩ := handle_moved.run hrun.unlogged
    rw [show matchingAgain.conversationId = "wa:1" from rfl] at hcalled
    have hkept := hstate.trans ((congrArg (·.fireAll triggers) hreview).trans
      (ConversationState.fireAll_humanReview hclose))
    cases hkept.symm.trans hcalled

end NxTutors.MatchAgent
