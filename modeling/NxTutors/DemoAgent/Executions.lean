import NxTutors.DemoAgent.World
import NxTutors.Effect.Guarded

/-!
# What a turn executes

A turn executes the command of the transition it has stored, on the context the transition was
granted on, and right after it was stored. Only when that has failed does it execute the
compensation. `handle_calls` says so of every call of a turn, by walking through `handle` once, and
what a turn that did its work has executed.
-/

namespace NxTutors.DemoAgent

open Effect

/-! ## What has been found and executed -/

/-- The hold a call finds, or finds not to be there: for whom, and at what time. -/
def holdFound : Call ports Exn → Option (String × Time × Option SlotHold)
  | ⟨.activeHoldFor ref now, .ok hold⟩ => some (ref, now, hold)
  | _ => none

/-- How the execution of a command ended, the call itself included. -/
def endedWith : Except Exn CommandEffect → Except Exn CommandOutcome
  | .ok effect => effect.outcome
  | .error e => .error e

/-- The context an execution leaves. -/
def leftBy (ctx : TurnContext) : Except Exn CommandEffect → TurnContext
  | .ok effect => effect.apply ctx
  | .error _ => ctx

/-- An execution that was followed by compensation. -/
def Failed (r : Except Exn CommandEffect) : Prop := (outcomeOf (endedWith r)).failed = true

instance (r : Except Exn CommandEffect) : Decidable (Failed r) :=
  inferInstanceAs (Decidable (_ = true))

/-- A context of the event `e`, with the hold that was found last. -/
structure Holding (e : Event) (h : History ports Exn) (hold : Option SlotHold)
    (ctx : TurnContext) : Prop where
  ref : ctx.conversationRef = e.conversationRef
  trigger : ctx.trigger = e.trigger
  outbox : ctx.outbox = []
  found : latest holdFound h = some (e.conversationRef, ctx.now, hold)
  fact : ctx.facts "hold_id" = some (.ofOption (hold.map (·.holdId)))

/-- **A turn is about to execute a command**: the transition of its own event has just been stored,
and `ctx` is the context it was granted on. -/
structure Commanded (e : Event) (h : History ports Exn) (result : TransitionResult)
    (ctx : TurnContext) : Prop where
  granted : ∃ s, fire s e.trigger e.actor ctx.facts = .ok result
  saved : ∃ before hold, h = before ++
    [⟨.saveTransition result ctx.now ctx.facts, .ok ctx.snapshot⟩] ∧ Holding e before hold ctx

/-- What a turn may call after `h`. -/
inductive TurnCall (e : Event) (h : History ports Exn) : Op → Prop
  | quiet {o : Op} (ho : o.quiet = true) : TurnCall e h o
  | load : TurnCall e h (.load e.conversationRef)
  | claim (key scope : String) (now : Time) (ttl : Int) : TurnCall e h (.claim key scope now ttl)
  | save (result : TransitionResult) (now : Time) (facts : Facts) :
    TurnCall e h (.saveTransition result now facts)
  /-- the command of the transition -/
  | command {result : TransitionResult} {ctx : TurnContext} (hcmd : Commanded e h result ctx)
      (hne : result.command ≠ .none) : TurnCall e h (.execute result.command ctx e.payload)
  /-- the compensation of a command that failed -/
  | compensate {result : TransitionResult} {ctx : TurnContext} {past : History ports Exn}
      {r : Except Exn CommandEffect} (hcmd : Commanded e past result ctx)
      (hlast : h = past ++ [⟨.execute result.command ctx e.payload, r⟩]) (hfailed : Failed r)
      (hne : result.compensation ≠ .none) :
    TurnCall e h (.execute result.compensation (leftBy ctx r) Facts.empty)
  | send (m : OutboundMessage) : TurnCall e h (.send m)

/-- What a turn that did its work has executed: the command of a transition of its own event, if
there is one. -/
def Executed (e : Event) (h : History ports Exn) : Prop :=
  ∃ past result ctx, past <+: h ∧ Commanded e past result ctx ∧ (result.command ≠ .none →
    ∃ r, past ++ [⟨.execute result.command ctx e.payload, r⟩] <+: h)

theorem Executed.mono {e : Event} {h h' : History ports Exn} (hx : Executed e h) (hle : h <+: h') :
    Executed e h' := by
  obtain ⟨past, result, ctx, hpast, hcmd, hrun⟩ := hx
  refine ⟨past, result, ctx, hpast.trans hle, hcmd, fun hne => ?_⟩
  obtain ⟨r, hr⟩ := hrun hne
  exact ⟨r, hr.trans hle⟩

/-! ## The walk -/

section Walk

variable {cfg : Config} {e : Event} {h : History ports Exn} {α : Type}

/-- A call, and what comes after it. -/
theorem ask_calls {o : Op} {R : α → History ports Exn → Prop} {f : o.Res → Act α}
    (ho : TurnCall e h o) (hf : ∀ a, (f a).GuardedTo (TurnCall e) R (h ++ [⟨o, .ok a⟩])) :
    (ask o >>= f).GuardedTo (TurnCall e) R h :=
  Prog.guardedTo_perform_bind (S := ports) ho hf

/-- A call that finds no hold leaves the one that was found. -/
theorem Holding.snoc {hold : Option SlotHold} {ctx : TurnContext} (hh : Holding e h hold ctx)
    {c : Call ports Exn} (hc : holdFound c = none) : Holding e (h ++ [c]) hold ctx :=
  ⟨hh.ref, hh.trigger, hh.outbox, (latest_concat_none hc).trans hh.found, hh.fact⟩

theorem Holding.set {hold : Option SlotHold} {ctx : TurnContext} (hh : Holding e h hold ctx)
    {name : String} (hname : name ≠ "hold_id") (value : Value) :
    Holding e h hold (ctx.fact name value) := by
  refine ⟨hh.ref, hh.trigger, hh.outbox, hh.found, ?_⟩
  rw [TurnContext.fact, Facts.set]
  exact (Function.update_of_ne hname.symm _ _).trans hh.fact

theorem Holding.setIfKnown {hold : Option SlotHold} {ctx : TurnContext}
    (hh : Holding e h hold ctx) {name : String} (hname : name ≠ "hold_id")
    (value : Option String) : Holding e h hold (setIfKnown ctx name value) := by
  cases value with
  | none => exact hh
  | some s => exact hh.set hname _

theorem Holding.merge {hold : Option SlotHold} {ctx : TurnContext} (hh : Holding e h hold ctx)
    {facts : Facts} (hnone : facts "hold_id" = none) : Holding e h hold (ctx.merge facts) := by
  refine ⟨hh.ref, hh.trigger, hh.outbox, hh.found, ?_⟩
  change (facts "hold_id").or (ctx.facts "hold_id") = _
  rw [hnone]
  exact hh.fact

/-- The rows are put on a context that has found the hold. -/
theorem holding_withRows {ctx : TurnContext} {hold : Option SlotHold}
    (href : ctx.conversationRef = e.conversationRef) (htrigger : ctx.trigger = e.trigger)
    (houtbox : ctx.outbox = [])
    (hfound : latest holdFound h = some (e.conversationRef, ctx.now, hold))
    (demo : Option Demo) (request : Option DemoRequest) (candidates : List TutorCandidate) :
    Holding e h hold (withRows ctx demo request hold candidates) := by
  refine Holding.set ?_ (by decide) _
  refine Holding.setIfKnown ?_ (by decide) _
  refine Holding.setIfKnown ?_ (by decide) _
  refine Holding.setIfKnown ?_ (by decide) _
  exact ⟨href, htrigger, houtbox, hfound, rfl⟩

theorem withOrder_calls {hold : Option SlotHold} {ctx : TurnContext}
    (hh : Holding e h hold ctx) :
    (withOrder ctx).GuardedTo (TurnCall e) (fun ctx' h' => Holding e h' hold ctx') h := by
  refine ask_calls (o := .orderForConversation ctx.conversationRef) (.quiet rfl) fun order => ?_
  cases order with
  | none => exact hh.snoc rfl
  | some order =>
    refine ask_calls (o := .activationFor order.orderRef) (.quiet rfl) fun activation => ?_
    have hread := (hh.snoc (c := ⟨.orderForConversation ctx.conversationRef, .ok (some order)⟩)
      rfl).snoc (c := ⟨.activationFor order.orderRef, .ok activation⟩) rfl
    exact (hread.set (by decide) _).setIfKnown (by decide) _

theorem decisionFor_calls {hold : Option SlotHold} {ctx : TurnContext}
    (hh : Holding e h hold ctx) (demo : Option Demo) :
    (decisionFor demo).GuardedTo (TurnCall e) (fun _ h' => Holding e h' hold ctx) h := by
  cases demo with
  | none => exact hh
  | some d =>
    exact Prog.guardedTo_perform (S := ports) (o := .loadDecision d.demoId) (.quiet rfl)
      fun decision => hh.snoc rfl

/-- **Facts are assembled** with the hold that is found. -/
theorem assembleFacts_calls {ctx : TurnContext} (href : ctx.conversationRef = e.conversationRef)
    (htrigger : ctx.trigger = e.trigger) (houtbox : ctx.outbox = []) :
    (assembleFacts ctx).GuardedTo (TurnCall e) (fun ctx' h' => ∃ hold, Holding e h' hold ctx')
      h := by
  refine ask_calls (o := .demoForConversation ctx.conversationRef) (.quiet rfl)
    fun (demo : Option Demo) => ?_
  refine ask_calls (o := .requestForConversation ctx.conversationRef) (.quiet rfl)
    fun (request : Option DemoRequest) => ?_
  refine ask_calls (o := .activeHoldFor ctx.conversationRef ctx.now) (.quiet rfl)
    fun (hold : Option SlotHold) => ?_
  refine ask_calls (o := .loadCandidates ctx.conversationRef) (.quiet rfl)
    fun (candidates : List TutorCandidate) => ?_
  have hfound : latest holdFound (h ++ [⟨.demoForConversation ctx.conversationRef, .ok demo⟩] ++
      [⟨.requestForConversation ctx.conversationRef, .ok request⟩] ++
      [⟨.activeHoldFor ctx.conversationRef ctx.now, .ok hold⟩] ++
      [⟨.loadCandidates ctx.conversationRef, .ok candidates⟩]) =
      some (ctx.conversationRef, ctx.now, hold) :=
    (latest_concat_none rfl).trans (latest_concat_some rfl)
  have hrows := @holding_withRows e _ (ctx.merge ctx.snapshot.facts) hold href htrigger houtbox
    (hfound.trans (by rw [href]; rfl)) demo request candidates
  refine (decisionFor_calls hrows demo).bind fun decision h' hh => ?_
  exact (withOrder_calls (hh.set (by decide) _)).mono fun ctx' h'' hh' => ⟨hold, hh'⟩

/-- A pass decides with the hold that is found. -/
theorem decideOn_calls :
    (decideOn cfg e).GuardedTo (TurnCall e) (fun ctx h' => ∃ hold, Holding e h' hold ctx) h := by
  refine ask_calls (o := .now) (.quiet rfl) fun now => ?_
  refine ask_calls (o := .load e.conversationRef) .load fun s => ?_
  refine ask_calls (o := .loadOwnership e.conversationRef now) (.quiet rfl) fun ownership => ?_
  refine (assembleFacts_calls rfl rfl rfl).bind fun ctx h' ⟨hold, hh⟩ => ?_
  have hpayload : Holding e h' hold (ctx.merge (e.payload.restrict PAYLOAD_FACT_ALLOWLIST)) := by
    refine hh.merge ?_
    rw [Facts.restrict, if_neg (by decide)]
  dsimp only
  split
  · refine ask_calls (.quiet rfl) fun candidates => ?_
    exact ⟨hold, (hpayload.snoc rfl).merge rfl⟩
  · exact ⟨hold, hpayload⟩

/-- Taking the conversation leaves the decision alone. -/
theorem ensureOwnership_calls {hold : Option SlotHold} {ctx : TurnContext}
    (hh : Holding e h hold ctx) :
    (ensureOwnership ctx).GuardedTo (TurnCall e) (fun ctx' h' => Holding e h' hold ctx' ∧
      ctx'.facts = ctx.facts) h := by
  unfold ensureOwnership
  split
  · cases ctx.ownership.acquire ctx.now none with
    | error err => trivial
    | ok taken =>
      refine ask_calls (.quiet rfl) fun _ => ?_
      have hsnoc := hh.snoc (c := ⟨.saveOwnership taken, .ok ()⟩) rfl
      exact ⟨⟨hsnoc.ref, hsnoc.trigger, hsnoc.outbox, hsnoc.found, hsnoc.fact⟩, rfl⟩
  · split
    · exact ⟨⟨hh.ref, hh.trigger, hh.outbox, hh.found, hh.fact⟩, rfl⟩
    · exact ⟨hh, rfl⟩

/-- An execution is one call, and hands back how it ended. -/
theorem executeCommand_calls {command : Command} {ctx : TurnContext} {payload : Facts}
    (ho : TurnCall e h (.execute command ctx payload)) :
    (executeCommand command ctx payload).GuardedTo (TurnCall e) (fun x h' => ∃ r,
      h' = h ++ [⟨.execute command ctx payload, r⟩] ∧ x = (endedWith r, leftBy ctx r)) h := by
  refine ⟨ho, fun r => ?_⟩
  cases r with
  | ok effect => exact ⟨.ok effect, rfl, rfl⟩
  | error exn => exact ⟨.error exn, rfl, rfl⟩

/-- A failed command is compensated, if it can be. -/
theorem compensate_calls {result : TransitionResult} {ctx : TurnContext}
    {past : History ports Exn} {r : Except Exn CommandEffect} (hcmd : Commanded e past result ctx)
    (hlast : h = past ++ [⟨.execute result.command ctx e.payload, r⟩]) (hfailed : Failed r) :
    (compensate result (leftBy ctx r)).GuardedTo (TurnCall e) (fun ctx' h' =>
      ctx'.conversationRef = e.conversationRef ∧ h <+: h') h := by
  obtain ⟨_, _, _, hh⟩ := hcmd.saved
  have href : (leftBy ctx r).conversationRef = e.conversationRef := by
    cases r <;> exact hh.ref
  unfold compensate
  split
  · exact ⟨href, List.prefix_rfl⟩
  · rename_i hne
    refine (executeCommand_calls (.compensate hcmd hlast hfailed hne)).bind fun x h' hx => ?_
    obtain ⟨r', rfl, rfl⟩ := hx
    have href' : (leftBy (leftBy ctx r) r').conversationRef = e.conversationRef := by
      cases r' <;> exact href
    cases endedWith r' with
    | ok outcome => exact ⟨href', List.prefix_append _ _⟩
    | error exn => exact ⟨href', List.prefix_append _ _⟩

theorem fireInternal_calls {ctx : TurnContext} (href : ctx.conversationRef = e.conversationRef) :
    (fireInternal ctx .recoverableFailure).GuardedTo (TurnCall e) (fun _ h' => h <+: h') h := by
  refine ask_calls (o := .load ctx.conversationRef) (href ▸ .load) fun s => ?_
  have hload : h <+: h ++ [⟨.load ctx.conversationRef, .ok s⟩] := List.prefix_append _ _
  cases fire s .recoverableFailure .system ctx.facts with
  | error refusal => exact hload
  | ok follow =>
    exact ask_calls (.save _ _ _) fun _ => hload.trans (List.prefix_append _ _)

/-- **The command is executed**, and what was executed is in the history from then on. -/
theorem runCommand_calls {result : TransitionResult} {ctx : TurnContext}
    (hcmd : Commanded e h result ctx) :
    (runCommand result ctx e.payload).GuardedTo (TurnCall e) (fun _ h' => Executed e h') h := by
  unfold runCommand
  split
  · rename_i hnone
    exact ⟨h, result, ctx, List.prefix_rfl, hcmd, fun hne => absurd hnone hne⟩
  · rename_i hne
    refine (executeCommand_calls (.command hcmd hne)).bind fun x h' hx => ?_
    obtain ⟨r, rfl, rfl⟩ := hx
    have hexecuted : Executed e (h ++ [⟨.execute result.command ctx e.payload, r⟩]) :=
      ⟨h, result, ctx, List.prefix_append _ _, hcmd, fun _ => ⟨r, List.prefix_rfl⟩⟩
    dsimp only
    split
    · rename_i hfailed
      refine (compensate_calls hcmd rfl hfailed).bind fun ctx' h' ⟨href, hle⟩ => ?_
      exact (fireInternal_calls href).bind fun _ h'' hle' =>
        hexecuted.mono (hle.trans hle')
    · exact hexecuted

theorem sendAll_calls (messages : List OutboundMessage) (sent : Nat) (degraded : List String)
    (hx : Executed e h) :
    (sendAll messages sent degraded).GuardedTo (TurnCall e) (fun _ h' => Executed e h') h := by
  induction messages generalizing sent degraded h with
  | nil => exact hx
  | cons m rest ih =>
    refine ask_calls (.send m) fun outcome => ?_
    have hrest := fun sent degraded => ih sent degraded (hx.mono (List.prefix_append _
      [(⟨.send m, .ok outcome⟩ : Call ports Exn)]))
    split
    · exact hrest _ _
    · split
      · exact hrest _ _
      · exact hrest _ _

theorem applyTransfer_calls (ctx : TurnContext) (outcome : CommandOutcome) (hx : Executed e h) :
    (applyTransfer ctx outcome).GuardedTo (TurnCall e) (fun _ h' => Executed e h') h := by
  unfold applyTransfer
  split
  · exact hx
  · split
    · exact hx
    · split
      · trivial
      · exact ask_calls (.quiet rfl) fun _ => hx.mono (List.prefix_append _ _)

/-- What follows a granted transition. -/
theorem commit_calls {hold : Option SlotHold} {ctx : TurnContext} {result : TransitionResult}
    (hh : Holding e h hold ctx) {s : StateSnapshot}
    (hfire : fire s e.trigger e.actor ctx.facts = .ok result) :
    (commit e ctx result).GuardedTo (TurnCall e) (fun _ h' => Executed e h') h := by
  refine (ensureOwnership_calls hh).bind fun ctx' h' ⟨hh', hfacts⟩ => ?_
  refine ask_calls (.save _ _ _) fun updated => ?_
  have hcmd : Commanded e (h' ++ [⟨.saveTransition result ctx'.now ctx'.facts, .ok updated⟩])
      result { ctx' with snapshot := updated } :=
    ⟨⟨s, by rw [← hfacts] at hfire; exact hfire⟩, h', hold, rfl,
      ⟨hh'.ref, hh'.trigger, hh'.outbox, hh'.found, hh'.fact⟩⟩
  refine (runCommand_calls hcmd).bind fun x h'' hx => ?_
  refine ((sendAll_calls _ _ _ hx).bind fun y h'' hx => hx : Prog.GuardedTo _
    (fun _ h' => Executed e h') _ (flush x.2)).bind fun y h'' hx => ?_
  exact (applyTransfer_calls _ _ hx).bind fun _ _ hx => hx

/-- A turn that was accepted has executed its command. -/
def Worked (e : Event) (tr : TurnResult) (h : History ports Exn) : Prop :=
  tr.accepted = true → tr.duplicate = false → Executed e h

theorem attempt_calls : (attempt cfg e).GuardedTo (TurnCall e) (Worked e) h := by
  refine decideOn_calls.bind fun ctx h' ⟨hold, hh⟩ => ?_
  cases hfire : fire ctx.snapshot e.trigger e.actor ctx.facts with
  | error refusal => exact ask_calls (.quiet rfl) fun _ => nofun
  | ok result => exact (commit_calls hh hfire).mono fun _ _ hx _ _ => hx

/-- A pass that is retried reads everything again. -/
theorem attempts_calls (n : Nat) (lastError : String) :
    (attempts cfg e n lastError).GuardedTo (TurnCall e) (Worked e) h := by
  induction n generalizing h lastError with
  | zero => exact ask_calls .load fun _ => nofun
  | succ n ih =>
    refine attempt_calls.tryCatch fun exn h' => ?_
    cases exn with
    | conflict c => exact ih c.text
    | ownership err => trivial
    | other name => trivial

/-- **The rule of the module**: what a turn calls, and what it has executed if it was accepted. -/
theorem handle_calls : (handle cfg e).GuardedTo (TurnCall e) (Worked e) h := by
  refine ask_calls (o := .now) (.quiet rfl) fun now => ?_
  refine ask_calls (.claim _ _ _ _) fun claimed => ?_
  cases claimed with
  | true => exact attempts_calls _ _
  | false => exact ask_calls .load fun _ _ hdup => nomatch hdup

end Walk

end NxTutors.DemoAgent
