import NxTutors.DemoAgent.Orchestrator
import NxTutors.Effect.Contract

/-!
# The rule of a turn

Most of what `handle` does is reading: it assembles facts, notes ownership, audits. Four
calls matter to the conversation: claiming the event's key, loading the snapshot a decision is
taken on, saving a transition, and executing a command. A fifth, sending, matters to the
parent. Between them a turn is in one of a few *phases*, and this module says which phase
follows which.

`TurnInvariant` is an invariant of a turn: what is true of the world in each phase, with one
obligation for each of the calls that matter and one for all the others together. The rule
`TurnInvariant.handle` walks through `handle` once and for all: from an invariant of its
phases, the event meets its contract. The theorems about runs of `handle` are instances.
-/

namespace NxTutors.DemoAgent

open Effect

/-- The calls of a turn that neither decide anything, nor move the conversation, nor say
anything to anybody. -/
def Op.quiet : Op → Bool
  | .now | .loadOwnership .. | .saveOwnership _ | .demoForConversation _
  | .requestForConversation _ | .activeHoldFor .. | .loadCandidates _
  | .loadDecision _ | .orderForConversation _ | .activationFor _ | .audit _ => true
  | _ => false

/-- Being quiet, as a property of calls. -/
def Quiet (o : Op) : Prop := o.quiet = true

/-- An exception that does not make `handle` try again. -/
def Exn.final : Exn → Prop
  | .conflict _ => False
  | _ => True

/-- Where a turn stands. `n` counts the passes that are left after this one. -/
inductive Phase
  /-- the clock has not been read -/
  | start
  /-- the key is about to be claimed, at `now` -/
  | claiming (now : Time)
  /-- the key is ours, no pass is running, `n` are left -/
  | idle (n : Nat)
  /-- a pass decides on the snapshot `s` -/
  | decided (n : Nat) (s : StateSnapshot)
  /-- the transition is stored, its command has not been executed -/
  | saved (n : Nat) (result : TransitionResult)
  /-- the command has been executed and failed -/
  | failed (n : Nat) (result : TransitionResult)
  /-- the follow-on decides on the snapshot `s` -/
  | following (n : Nat) (result : TransitionResult) (s : StateSnapshot)
  /-- all that is left is to send and to hand over -/
  | done (result : TransitionResult)
  /-- the key was taken -/
  | duplicate

section Rule

variable {W : Type}

/-- **An invariant of a turn**: what holds of the world in each phase, and why. -/
structure TurnInvariant (E : Setting ports Exn W) (G : W → W → Prop)
    (Q : Except Exn TurnResult → W → Prop) (cfg : Config) (e : Event) where
  /-- what holds of the world in a phase -/
  holds : Phase → W → Prop
  /-- the messages that commands of the turn may queue -/
  queues : OutboundMessage → Prop := fun _ => True
  /-- others may move -/
  move : ∀ ph a b, holds ph a → E.moves a b → holds ph b
  /-- a quiet call changes nothing that matters, and raises nothing that is retried -/
  quiet : ∀ ph (o : Op) a r b, Quiet o → holds ph a → E.answers o a r b →
    G a b ∧ holds ph b ∧ ∀ exn, r = .error exn → exn.final
  /-- the clock is read -/
  clock : ∀ a r b, holds .start a → E.answers .now a r b →
    G a b ∧ match r with
      | .ok now => holds (.claiming now) b
      | .error exn => Q (.error exn) b
  /-- the key is claimed, or was taken -/
  claim : ∀ now a r b, holds (.claiming now) a →
    E.answers (.claim (e.dedup cfg) "inbound" now cfg.idempotencyTtlSeconds) a r b →
    G a b ∧ match r with
      | .ok true => holds (.idle MAX_CONFLICT_RETRIES) b
      | .ok false => holds .duplicate b
      | .error exn => Q (.error exn) b
  /-- a pass begins by loading the snapshot it decides on -/
  load : ∀ n a r b, holds (.idle (n + 1)) a → E.answers (.load e.conversationRef) a r b →
    G a b ∧ match r with
      | .ok s => holds (.decided n s) b
      | .error exn => exn.final ∧ Q (.error exn) b
  /-- the granted transition is stored, or the pass is over -/
  save : ∀ n s now facts result a r b, holds (.decided n s) a →
    fire s e.trigger e.actor facts = .ok result →
    E.answers (.saveTransition result now facts) a r b →
    G a b ∧ match r with
      | .ok _ => holds (.saved n result) b
      | .error (.conflict _) => holds (.idle n) b
      | .error exn => Q (.error exn) b
  /-- the command is executed, and fails or not -/
  execute : ∀ n result ctx payload a r b, holds (.saved n result) a →
    result.command ≠ .none → E.answers (.execute result.command ctx payload) a r b →
    G a b ∧ holds (.failed n result) b ∧ holds (.done result) b
  /-- what a command queues may be queued -/
  queued : ∀ n result command ctx payload a effect b,
    command = result.command ∧ holds (.saved n result) a ∨
      command = result.compensation ∧ holds (.failed n result) a →
    ctx.conversationRef = e.conversationRef → (∀ m ∈ ctx.outbox, queues m) →
    E.answers (.execute command ctx payload) a (.ok effect) b →
    ∀ m ∈ effect.outbox, queues m := by intros; trivial
  /-- what is queued is sent -/
  send : ∀ result m a r b, holds (.done result) a → queues m → E.answers (.send m) a r b →
    G a b ∧ holds (.done result) b ∧ ∀ exn, r = .error exn → exn.final
  /-- there may be no command to execute -/
  noCommand : ∀ n result a, result.command = .none → holds (.saved n result) a →
    holds (.done result) a
  /-- a failed command is compensated -/
  compensate : ∀ n result ctx payload a r b, holds (.failed n result) a →
    result.compensation ≠ .none → E.answers (.execute result.compensation ctx payload) a r b →
    G a b ∧ holds (.failed n result) b
  /-- the follow-on loads a snapshot of its own -/
  loadFollow : ∀ n result a r b, holds (.failed n result) a →
    E.answers (.load e.conversationRef) a r b →
    G a b ∧ match r with
      | .ok s => holds (.following n result s) b
      | .error exn => exn.final ∧ Q (.error exn) b
  /-- the follow-on may not be legal -/
  skipFollow : ∀ n result s facts a refusal, holds (.following n result s) a →
    fire s .recoverableFailure .system facts = .error refusal → holds (.done result) a
  /-- the follow-on is stored, or the pass starts over -/
  saveFollow : ∀ n result s now facts follow a r b, holds (.following n result s) a →
    fire s .recoverableFailure .system facts = .ok follow →
    E.answers (.saveTransition follow now facts) a r b →
    G a b ∧ match r with
      | .ok _ => holds (.done result) b
      | .error (.conflict _) => holds (.idle n) b
      | .error exn => Q (.error exn) b
  /-- the last look at a conversation that could not be advanced, or need not be -/
  lastLoad : ∀ ph a r b, ph = .idle 0 ∨ ph = .duplicate → holds ph a →
    E.answers (.load e.conversationRef) a r b →
    G a b ∧ holds ph b ∧ ∀ exn, r = .error exn → Q (.error exn) b
  /-- an exception that is not retried ends the turn -/
  raised : ∀ ph exn a, holds ph a → exn.final → Q (.error exn) a
  /-- the turn did its work -/
  accepted : ∀ result tr a, holds (.done result) a → tr.accepted = true →
    tr.duplicate = false → Q (.ok tr) a
  /-- the machine refused -/
  rejected : ∀ n s facts refusal tr a, holds (.decided n s) a →
    fire s e.trigger e.actor facts = .error refusal → tr.accepted = false →
    tr.duplicate = false → tr.rejectedReason = refusal.reason → Q (.ok tr) a
  /-- every pass ended in a conflict -/
  exhausted : ∀ tr a, holds (.idle 0) a → tr.accepted = false → tr.duplicate = false →
    Q (.ok tr) a
  /-- the event had been seen -/
  duplicate : ∀ tr a, holds .duplicate a → tr.accepted = true → tr.duplicate = true →
    Q (.ok tr) a

/-! ## The quiet parts -/

theorem ask_within {o : Op} (h : o.quiet = true) :
    (ask o).Within Quiet Exn.final fun _ => True :=
  Prog.within_perform (S := ports) (P := Quiet) h

/-- A context of the event `e` that decides on the snapshot `s`, with nothing queued. -/
structure DecidesOn (e : Event) (s : StateSnapshot) (ctx : TurnContext) : Prop where
  ref : ctx.conversationRef = e.conversationRef
  snapshot : ctx.snapshot = s
  outbox : ctx.outbox = []

theorem DecidesOn.withRows {e : Event} {s : StateSnapshot} {ctx : TurnContext}
    (h : DecidesOn e s ctx) (demo : Option Demo) (request : Option DemoRequest)
    (hold : Option SlotHold) (candidates : List TutorCandidate) :
    DecidesOn e s (withRows ctx demo request hold candidates) :=
  ⟨by simp [DemoAgent.withRows, h.ref], by simp [DemoAgent.withRows, h.snapshot],
    by simp [DemoAgent.withRows, h.outbox]⟩

theorem decisionFor_within (demo : Option Demo) :
    (decisionFor demo).Within Quiet Exn.final fun _ => True := by
  cases demo with
  | none => trivial
  | some d => exact ask_within (o := .loadDecision d.demoId) rfl

theorem withOrder_within {e : Event} {s : StateSnapshot} {ctx : TurnContext}
    (h : DecidesOn e s ctx) : (withOrder ctx).Within Quiet Exn.final (DecidesOn e s) := by
  refine Prog.within_perform_bind rfl fun order => ?_
  cases order with
  | none => exact h
  | some o =>
    refine Prog.within_perform_bind rfl fun activation => ?_
    exact ⟨by simp [h.ref], by simp [h.snapshot], by simp [h.outbox]⟩

/-- Assembling facts is quiet, and touches nothing of the context but its facts. -/
theorem assembleFacts_within {e : Event} {s : StateSnapshot} {ctx : TurnContext}
    (h : DecidesOn e s ctx) :
    (assembleFacts ctx).Within Quiet Exn.final (DecidesOn e s) := by
  refine Prog.within_perform_bind rfl fun demo => ?_
  refine Prog.within_perform_bind rfl fun request => ?_
  refine Prog.within_perform_bind rfl fun hold => ?_
  refine Prog.within_perform_bind rfl fun candidates => ?_
  refine (decisionFor_within demo).bind fun decision _ => ?_
  have hmerge : DecidesOn e s (ctx.merge ctx.snapshot.facts) := ⟨h.ref, h.snapshot, h.outbox⟩
  have hrows := hmerge.withRows demo request hold candidates
  exact withOrder_within ⟨hrows.ref, hrows.snapshot, hrows.outbox⟩

theorem resolveSelection_within {cfg : Config} {e : Event} {s : StateSnapshot}
    {ctx : TurnContext} {payload : Facts} (h : DecidesOn e s ctx) :
    (resolveSelection cfg ctx payload).Within Quiet Exn.final (DecidesOn e s) :=
  Prog.within_perform_bind rfl fun _ => ⟨h.ref, h.snapshot, h.outbox⟩

/-- Taking the conversation is quiet, and changes neither the facts nor what is queued. -/
theorem ensureOwnership_within (ctx : TurnContext) :
    (ensureOwnership ctx).Within Quiet Exn.final fun ctx' =>
      ctx'.conversationRef = ctx.conversationRef ∧ ctx'.facts = ctx.facts ∧
        ctx'.outbox = ctx.outbox := by
  unfold ensureOwnership
  split
  · cases ctx.ownership.acquire ctx.now none with
    | error err => trivial
    | ok taken => exact Prog.within_perform_bind rfl fun _ => ⟨rfl, rfl, rfl⟩
  · split
    · exact ⟨rfl, rfl, rfl⟩
    · exact ⟨rfl, rfl, rfl⟩

/-- Handing over is quiet. -/
theorem applyTransfer_within (ctx : TurnContext) (outcome : CommandOutcome) :
    (applyTransfer ctx outcome).Within Quiet Exn.final fun _ => True := by
  unfold applyTransfer
  split
  · trivial
  · split
    · trivial
    · split
      · trivial
      · exact Prog.within_perform_bind rfl fun _ => trivial

/-! ## The walk -/

namespace TurnInvariant

variable {E : Setting ports Exn W} {G : W → W → Prop} {Q : Except Exn TurnResult → W → Prop}
  {cfg : Config} {e : Event} (inv : TurnInvariant E G Q cfg e) {w : W} {α β : Type}

/-- How a part of a pass may end, `n` passes being left: with a value in `R`, with a
conflict that leaves the turn idle, or with an exception that ends the turn. -/
def ends (n : Nat) (R : α → W → Prop) : Except Exn α → W → Prop
  | .ok a, w => R a w
  | .error (.conflict _), w => inv.holds (.idle n) w
  | .error exn, w => Q (.error exn) w

theorem ends_error {n : Nat} {R : α → W → Prop} {exn : Exn} (hx : exn.final)
    (h : Q (.error exn) w) : inv.ends n R (.error exn) w := by
  cases exn with
  | conflict c => exact absurd hx id
  | ownership err => exact h
  | other name => exact h

/-- An ending that is not a value is passed on. -/
theorem ends_mono {n : Nat} {R : α → W → Prop} {R' : β → W → Prop} {exn : Exn}
    (h : inv.ends n R (.error exn) w) : inv.ends n R' (.error exn) w := by
  cases exn with
  | conflict c => exact h
  | ownership err => exact h
  | other name => exact h

/-- A quiet program stays in its phase. -/
theorem meets_quiet {ph : Phase} {R : α → Prop} {p : Act α}
    (hp : p.Within Quiet Exn.final R) (hw : inv.holds ph w) :
    Meets E G (fun out w' => inv.holds ph w' ∧ Prog.Ended R Exn.final out) p w :=
  Meets.of_within hp (inv.move ph) (fun o a r b ho hi ha => inv.quiet ph o a r b ho hi ha) hw

/-- Sequencing after a quiet program. -/
theorem bind_quiet {ph : Phase} {n : Nat} {R : α → Prop} {R' : β → W → Prop} {p : Act α}
    {f : α → Act β} (hp : p.Within Quiet Exn.final R) (hw : inv.holds ph w)
    (hf : ∀ a w, R a → inv.holds ph w → Meets E G (inv.ends n R') (f a) w) :
    Meets E G (inv.ends n R') (p >>= f) w :=
  (inv.meets_quiet hp hw).bind (fun a w h => hf a w h.2 h.1) fun exn w h =>
    inv.ends_error h.2 (inv.raised ph exn w h.1 h.2)

/-- A pass decides on the snapshot it loads. -/
theorem decideOn_meets {n : Nat} (hw : inv.holds (.idle (n + 1)) w) :
    Meets E G (inv.ends n fun ctx w' => inv.holds (.decided n ctx.snapshot) w' ∧
      ctx.conversationRef = e.conversationRef ∧ ctx.outbox = []) (decideOn cfg e) w := by
  refine inv.bind_quiet (ask_within rfl) hw fun now w _ hw => ?_
  have hload : Meets E G (inv.ends n fun s w' => inv.holds (.decided n s) w')
      (ask (.load e.conversationRef)) w := by
    refine meets_perform.mpr fun w₁ hm r w₂ ha => ?_
    obtain ⟨hg, hr⟩ := inv.load n w₁ r w₂ (inv.move _ _ _ hw hm) ha
    cases r with
    | ok s => exact ⟨hg, hr⟩
    | error exn => exact ⟨hg, inv.ends_error hr.1 hr.2⟩
  refine hload.bind (fun s w hw => ?_) fun exn w h => inv.ends_mono h
  refine inv.bind_quiet (ask_within rfl) hw fun ownership w _ hw => ?_
  refine inv.bind_quiet (assembleFacts_within (s := s) ⟨rfl, rfl, rfl⟩) hw fun ctx w hctx hw => ?_
  have hmerge : DecidesOn e s (ctx.merge (e.payload.restrict PAYLOAD_FACT_ALLOWLIST)) :=
    ⟨hctx.ref, hctx.snapshot, hctx.outbox⟩
  have hend : ∀ ctx' w', DecidesOn e s ctx' → inv.holds (.decided n s) w' →
      inv.holds (.decided n ctx'.snapshot) w' ∧ ctx'.conversationRef = e.conversationRef ∧
        ctx'.outbox = [] :=
    fun ctx' w' h hw' => ⟨h.snapshot ▸ hw', h.ref, h.outbox⟩
  split
  · refine (inv.meets_quiet (resolveSelection_within hmerge) hw).post fun out w' h => ?_
    cases out with
    | ok ctx' => exact hend ctx' w' h.2 h.1
    | error exn => exact inv.ends_error h.2 (inv.raised _ exn w' h.1 h.2)
  · exact hend _ w hmerge hw

/-- A context of the event `e` in which only what may be queued is. -/
structure Queued (ctx : TurnContext) : Prop where
  ref : ctx.conversationRef = e.conversationRef
  outbox : ∀ m ∈ ctx.outbox, inv.queues m

/-- Executing a command never raises, and leaves what the call may leave. -/
theorem executeCommand_meets {ph : Phase} (I : W → Prop) {command : Command}
    {ctx : TurnContext} {payload : Facts} (hctx : inv.Queued ctx) (hw : inv.holds ph w)
    (hcall : ∀ a r b, inv.holds ph a → E.answers (.execute command ctx payload) a r b →
      G a b ∧ I b ∧ ∀ effect, r = .ok effect → ∀ m ∈ effect.outbox, inv.queues m) :
    Meets E G (fun out w' => I w' ∧ ∃ ended ctx', out = .ok (ended, ctx') ∧
      inv.Queued ctx') (executeCommand command ctx payload) w := by
  have hask : Meets E G (fun out w' => I w' ∧ ∃ r, out = .ok r ∧
      ∀ effect, r = .ok effect → ∀ m ∈ effect.outbox, inv.queues m)
      (ask (.execute command ctx payload)).attempt w :=
    Meets.attempt (meets_perform.mpr fun w₁ hm r w₂ ha =>
      have h := hcall w₁ r w₂ (inv.move _ _ _ hw hm) ha
      ⟨h.1, h.2.1, r, rfl, h.2.2⟩)
  refine hask.bind (fun r w h => ?_) fun exn w ⟨_, r, hr, _⟩ => by cases hr
  obtain ⟨hI, r', hr, hqueued⟩ := h
  cases hr
  cases r with
  | ok effect => exact ⟨hI, _, _, rfl, hctx.ref, hqueued effect rfl⟩
  | error exn => exact ⟨hI, _, _, rfl, hctx⟩

/-- Compensation stays where the failed command left the turn. -/
theorem compensate_meets {n : Nat} {result : TransitionResult} {ctx : TurnContext}
    (hctx : inv.Queued ctx) (hw : inv.holds (.failed n result) w) :
    Meets E G (fun out w' => inv.holds (.failed n result) w' ∧ ∃ ctx', out = .ok ctx' ∧
      inv.Queued ctx') (DemoAgent.compensate result ctx) w := by
  unfold DemoAgent.compensate
  split
  · exact ⟨hw, ctx, rfl, hctx⟩
  · rename_i hcomp
    refine (inv.executeCommand_meets (inv.holds (.failed n result)) hctx hw
      fun a r b ha hans => ?_).bind (fun x w h => ?_) fun exn w h => ?_
    · obtain ⟨hg, hb⟩ := inv.compensate n result ctx Facts.empty a r b ha hcomp hans
      refine ⟨hg, hb, fun effect hr => ?_⟩
      subst hr
      exact inv.queued n result _ ctx Facts.empty a effect b (.inr ⟨rfl, ha⟩) hctx.ref
        hctx.outbox hans
    · obtain ⟨hw, ended, ctx', hx, hctx'⟩ := h
      cases hx
      cases ended with
      | ok o => exact ⟨hw, ctx', rfl, hctx'⟩
      | error exn => exact ⟨hw, _, rfl, hctx'.ref, hctx'.outbox⟩
    · obtain ⟨_, ended, ctx', hx, _⟩ := h
      cases hx

/-- The follow-on is stored, or not legal, or ends the pass. -/
theorem fireInternal_meets {n : Nat} {result : TransitionResult} {ctx : TurnContext}
    (hctx : inv.Queued ctx) (hw : inv.holds (.failed n result) w) :
    Meets E G (inv.ends n fun ctx' w' => inv.holds (.done result) w' ∧ inv.Queued ctx')
      (fireInternal ctx .recoverableFailure) w := by
  have hload : Meets E G (inv.ends n fun s w' => inv.holds (.following n result s) w')
      (ask (.load ctx.conversationRef)) w := by
    refine meets_perform.mpr fun w₁ hm r w₂ ha => ?_
    rw [hctx.ref] at ha
    obtain ⟨hg, hr⟩ := inv.loadFollow n result w₁ r w₂ (inv.move _ _ _ hw hm) ha
    cases r with
    | ok s => exact ⟨hg, hr⟩
    | error exn => exact ⟨hg, inv.ends_error hr.1 hr.2⟩
  refine hload.bind (fun s w hw => ?_) fun exn w h => inv.ends_mono h
  cases hfire : fire s .recoverableFailure .system ctx.facts with
  | error refusal =>
    simp only
    exact ⟨inv.skipFollow n result s ctx.facts w refusal hw hfire, hctx⟩
  | ok follow =>
    simp only
    have hsave : Meets E G (inv.ends n fun _ w' => inv.holds (.done result) w')
        (ask (.saveTransition follow ctx.now ctx.facts)) w := by
      refine meets_perform.mpr fun w₁ hm r w₂ ha => ?_
      obtain ⟨hg, hr⟩ := inv.saveFollow n result s ctx.now ctx.facts follow w₁ r w₂
        (inv.move _ _ _ hw hm) hfire ha
      refine ⟨hg, ?_⟩
      rcases r with exn | s'
      · cases exn <;> exact hr
      · exact hr
    exact hsave.bind (fun _ w hw => ⟨hw, hctx.ref, hctx.outbox⟩) fun exn w h => inv.ends_mono h

/-- After its command, a turn has only to send and to hand over, unless the follow-on of a
failure met a conflict. -/
theorem runCommand_meets {n : Nat} {result : TransitionResult} {ctx : TurnContext}
    {payload : Facts} (hctx : inv.Queued ctx) (hw : inv.holds (.saved n result) w) :
    Meets E G (inv.ends n fun x w' => inv.holds (.done result) w' ∧ inv.Queued x.2)
      (runCommand result ctx payload) w := by
  unfold runCommand
  split
  · rename_i hnone
    exact ⟨inv.noCommand n result w hnone hw, hctx⟩
  · rename_i hcmd
    refine (inv.executeCommand_meets
      (fun w' => inv.holds (.failed n result) w' ∧ inv.holds (.done result) w') hctx hw
      fun a r b ha hans => ?_).bind (fun x w h => ?_) fun exn w h => ?_
    · obtain ⟨hg, hb⟩ := inv.execute n result ctx payload a r b ha hcmd hans
      refine ⟨hg, hb, fun effect hr => ?_⟩
      subst hr
      exact inv.queued n result _ ctx payload a effect b (.inl ⟨rfl, ha⟩) hctx.ref
        hctx.outbox hans
    · obtain ⟨⟨hfailed, hdone⟩, ended, ctx', hx, hctx'⟩ := h
      cases hx
      simp only
      split
      · refine (inv.compensate_meets hctx' hfailed).bind (fun c w h => ?_) fun exn w h => ?_
        · obtain ⟨hw, c', hc, hc'⟩ := h
          cases hc
          exact (inv.fireInternal_meets hc' hw).bind (fun _ w hw => hw)
            fun exn w h => inv.ends_mono h
        · obtain ⟨_, c', hc, _⟩ := h
          cases hc
      · exact ⟨hdone, hctx'⟩
    · obtain ⟨_, ended, ctx', hx, _⟩ := h
      cases hx

/-- What is queued is sent, one message after another. -/
theorem sendAll_meets {result : TransitionResult} {messages : List OutboundMessage}
    (hmessages : ∀ m ∈ messages, inv.queues m) (sent : Nat) (degraded : List String)
    (hw : inv.holds (.done result) w) :
    Meets E G (fun out w' => inv.holds (.done result) w' ∧ ∀ exn, out = .error exn → exn.final)
      (sendAll messages sent degraded) w := by
  induction messages generalizing sent degraded w with
  | nil => exact ⟨hw, nofun⟩
  | cons m rest ih =>
    have hrest : ∀ m ∈ rest, inv.queues m := fun m hm => hmessages m (List.mem_cons_of_mem _ hm)
    refine Meets.perform_bind fun w₁ hmove r w₂ ha => ?_
    obtain ⟨hg, hw₂, hfinal⟩ := inv.send result m w₁ r w₂ (inv.move _ _ _ hw hmove)
      (hmessages m List.mem_cons_self) ha
    refine ⟨hg, fun outcome _ => ?_, fun exn hr => ⟨hw₂, fun exn' hexn => ?_⟩⟩
    · split
      · exact ih hrest _ _ hw₂
      · split
        · exact ih hrest _ _ hw₂
        · exact ih hrest _ _ hw₂
    · cases hexn
      exact hfinal exn hr

theorem flush_meets {n : Nat} {result : TransitionResult} {ctx : TurnContext}
    (hctx : inv.Queued ctx) (hw : inv.holds (.done result) w) :
    Meets E G (inv.ends n fun _ w' => inv.holds (.done result) w') (flush ctx) w :=
  (inv.sendAll_meets hctx.outbox 0 ctx.degraded hw).bind (fun _ _ h => h.1) fun exn w h =>
    inv.ends_error (h.2 exn rfl) (inv.raised _ exn w h.1 (h.2 exn rfl))

/-- What follows a granted transition. -/
theorem commit_meets {n : Nat} {ctx : TurnContext} {result : TransitionResult}
    (href : ctx.conversationRef = e.conversationRef) (hout : ctx.outbox = [])
    (hfire : fire ctx.snapshot e.trigger e.actor ctx.facts = .ok result)
    (hw : inv.holds (.decided n ctx.snapshot) w) :
    Meets E G (inv.ends n fun tr w' => Q (.ok tr) w') (commit e ctx result) w := by
  refine inv.bind_quiet (ensureOwnership_within ctx) hw fun ctx' w hctx' hw => ?_
  have hsave : Meets E G (inv.ends n fun _ w' => inv.holds (.saved n result) w')
      (ask (.saveTransition result ctx'.now ctx'.facts)) w := by
    refine meets_perform.mpr fun w₁ hm r w₂ ha => ?_
    obtain ⟨hg, hr⟩ := inv.save n ctx.snapshot ctx'.now ctx'.facts result w₁ r w₂
      (inv.move _ _ _ hw hm) (hctx'.2.1 ▸ hfire) ha
    refine ⟨hg, ?_⟩
    rcases r with exn | s'
    · cases exn <;> exact hr
    · exact hr
  refine hsave.bind (fun updated w hw => ?_) fun exn w h => inv.ends_mono h
  have hctx : inv.Queued { ctx' with snapshot := updated } := by
    refine ⟨hctx'.1.trans href, fun m hm => ?_⟩
    rw [show ctx'.outbox = [] from hctx'.2.2.trans hout] at hm
    cases hm
  refine (inv.runCommand_meets hctx hw).bind (fun x w hx => ?_) fun exn w h => inv.ends_mono h
  refine (inv.flush_meets hx.2 hx.1).bind (fun y w hw => ?_) fun exn w h => inv.ends_mono h
  refine inv.bind_quiet (applyTransfer_within y.2 x.1) hw fun z w _ hw => ?_
  exact inv.accepted result _ w hw rfl rfl

/-- A refusal is audited and reported. -/
theorem reject_meets {n : Nat} {ctx : TurnContext} {refusal : TransitionRejected}
    (hfire : fire ctx.snapshot e.trigger e.actor ctx.facts = .error refusal)
    (hw : inv.holds (.decided n ctx.snapshot) w) :
    Meets E G (inv.ends n fun tr w' => Q (.ok tr) w') (reject e ctx refusal) w :=
  inv.bind_quiet (ask_within rfl) hw fun _ w _ hw =>
    inv.rejected n ctx.snapshot ctx.facts refusal _ w hw hfire rfl rfl rfl

/-- One pass ends the turn, or in a conflict. -/
theorem attempt_meets {n : Nat} (hw : inv.holds (.idle (n + 1)) w) :
    Meets E G (inv.ends n fun tr w' => Q (.ok tr) w') (attempt cfg e) w := by
  refine (inv.decideOn_meets hw).bind (fun ctx w h => ?_) fun exn w h => inv.ends_mono h
  cases hfire : fire ctx.snapshot e.trigger e.actor ctx.facts with
  | error refusal =>
    simp only
    exact inv.reject_meets hfire h.1
  | ok result =>
    simp only
    exact inv.commit_meets h.2.1 h.2.2 hfire h.1

/-- Passes until one ends the turn or none is left. -/
theorem attempts_meets (n : Nat) (lastError : String) (hw : inv.holds (.idle n) w) :
    Meets E G Q (attempts cfg e n lastError) w := by
  induction n generalizing w lastError with
  | zero =>
    have hload : Meets E G (fun out w' => inv.holds (.idle 0) w' ∧
        ∀ exn, out = .error exn → Q (.error exn) w') (ask (.load e.conversationRef)) w :=
      meets_perform.mpr fun w₁ hm r w₂ ha =>
        inv.lastLoad _ w₁ r w₂ (.inl rfl) (inv.move _ _ _ hw hm) ha
    exact hload.bind (fun s w h => inv.exhausted _ w h.1 rfl rfl) fun exn w h => h.2 exn rfl
  | succ n ih =>
    refine (inv.attempt_meets hw).tryCatch (fun tr w h => h) fun exn w h => ?_
    cases exn with
    | conflict c => exact ih c.text h
    | ownership err => exact h
    | other name => exact h

/-- An event that is about to claim its key meets the contract. -/
theorem handleAt {now : Time} (hw : inv.holds (.claiming now) w) :
    Meets E G Q (DemoAgent.handleAt cfg e now) w := by
  have hclaim : Meets E G (fun out w' => match out with
      | .ok true => inv.holds (.idle MAX_CONFLICT_RETRIES) w'
      | .ok false => inv.holds .duplicate w'
      | .error exn => Q (.error exn) w')
      (ask (.claim (e.dedup cfg) "inbound" now cfg.idempotencyTtlSeconds)) w :=
    meets_perform.mpr fun w₁ hm r w₂ ha => by
      have hr := inv.claim now w₁ r w₂ (inv.move _ _ _ hw hm) ha
      rcases r with exn | taken
      · exact hr
      · cases taken <;> exact hr
  refine hclaim.bind (fun claimed w h => ?_) fun exn w h => h
  cases claimed with
  | true => exact inv.attempts_meets MAX_CONFLICT_RETRIES "" h
  | false =>
    have hload : Meets E G (fun out w' => inv.holds .duplicate w' ∧
        ∀ exn, out = .error exn → Q (.error exn) w') (ask (.load e.conversationRef)) w :=
      meets_perform.mpr fun w₁ hm r w₂ ha =>
        inv.lastLoad _ w₁ r w₂ (.inr rfl) (inv.move _ _ _ h hm) ha
    exact hload.bind (fun s w h => inv.duplicate _ w h.1 rfl rfl) fun exn w h => h.2 exn rfl

/-- **The rule of a turn.** An event whose key has not been claimed meets the contract of
any invariant of its phases. -/
theorem handle (hw : inv.holds .start w) : Meets E G Q (DemoAgent.handle cfg e) w := by
  have hnow : Meets E G (fun out w' => match out with
      | .ok now => inv.holds (.claiming now) w'
      | .error exn => Q (.error exn) w') (ask .now) w :=
    meets_perform.mpr fun w₁ hm r w₂ ha => by
      have hr := inv.clock w₁ r w₂ (inv.move _ _ _ hw hm) ha
      cases r <;> exact hr
  exact hnow.bind (fun now w h => inv.handleAt h) fun exn w h => h

end TurnInvariant

end Rule

end NxTutors.DemoAgent
