import NxTutors.DemoAgent.World
import NxTutors.Effect.Guarded

/-!
# What a turn decides on

A turn stores a transition that the machine has granted, and the machine was asked about facts
that come from four places: what earlier turns left with the snapshot, what the repositories say
now, what the payload says under a few names, and, for a choice of a tutor, the candidates. The
names the repositories answer for are in `ASSEMBLED`. Under any other name a fact is the
payload's, where it may carry one and does, and otherwise whatever is stored.

`handle_guarded` says that of every transition a turn asks to store, by walking through `handle`
once. It is a fact about the program alone: it holds in any pool, over any store, whatever the
components do.
-/

namespace NxTutors.DemoAgent

open Effect

/-- The names under which facts are assembled from the repositories. -/
def ASSEMBLED : List String :=
  ["has_demo", "missing_requirements", "has_candidates", "candidate_count", "hold_id",
    "hold_expired", "demo_id", "calendar_event_id", "tutor_ref", "tutor_in_snapshot",
    "approved_quote", "order_ref", "subscription_ref", "selection_reason"]

/-! ## What a turn has read -/

/-- The snapshot a call loads. -/
def loaded : Call ports Exn → Option StateSnapshot
  | ⟨.load _, .ok s⟩ => some s
  | _ => none

/-- The time a call reads. -/
def clockRead : Call ports Exn → Option Time
  | ⟨.now, .ok now⟩ => some now
  | _ => none

/-- The demo a call finds, or finds not to be there. -/
def demoFound : Call ports Exn → Option (Option Demo)
  | ⟨.demoForConversation _, .ok demo⟩ => some demo
  | _ => none

/-- The calls by which a turn reads one of the three. -/
def Op.reads : Op → Bool
  | .now | .load _ | .demoForConversation _ => true
  | _ => false

/-- What the clock and the snapshot say before the demo is looked up. -/
structure Opening (h : History ports Exn) (now : Time) (s : StateSnapshot) : Prop where
  clock : latest clockRead h = some now
  snapshot : latest loaded h = some s

/-- What the turn has read last: the demo, and before it the time and the snapshot. -/
def HasRead (h : History ports Exn) (now : Time) (s : StateSnapshot) (demo : Option Demo) : Prop :=
  ∃ opening ref rest, h = opening ++ ⟨.demoForConversation ref, .ok demo⟩ :: rest ∧
    Opening opening now s ∧ ∀ c ∈ rest, c.1.reads = false

/-- A call that reads none of the three. -/
theorem loaded_eq_none {c : Call ports Exn} (hc : c.1.reads = false) :
    loaded c = none ∧ clockRead c = none ∧ demoFound c = none := by
  obtain ⟨o, r⟩ := c
  cases o with
  | now => cases hc
  | load ref => cases hc
  | demoForConversation ref => cases hc
  | _ => exact ⟨rfl, rfl, rfl⟩

namespace HasRead

variable {h : History ports Exn} {now : Time} {s : StateSnapshot} {demo : Option Demo}

theorem snoc (hr : HasRead h now s demo) {o : Op} (ho : o.reads = false) (r : Except Exn o.Res) :
    HasRead (h ++ [⟨o, r⟩]) now s demo := by
  obtain ⟨opening, ref, rest, rfl, hopening, hrest⟩ := hr
  refine ⟨opening, ref, rest ++ [⟨o, r⟩], by simp, hopening, fun c hc => ?_⟩
  rcases List.mem_append.mp hc with hc | hc
  · exact hrest c hc
  · rw [List.mem_singleton.mp hc]
    exact ho

theorem snapshot (hr : HasRead h now s demo) : latest loaded h = some s := by
  obtain ⟨opening, ref, rest, rfl, hopening, hrest⟩ := hr
  rw [latest_append_none fun c hc => ?_]
  · exact hopening.snapshot
  · rcases List.mem_cons.mp hc with rfl | hc
    · rfl
    · exact (loaded_eq_none (hrest c hc)).1

theorem found (hr : HasRead h now s demo) : latest demoFound h = some demo := by
  obtain ⟨opening, ref, rest, rfl, _, hrest⟩ := hr
  rw [List.append_cons, latest_append_none fun c hc => (loaded_eq_none (hrest c hc)).2.2]
  exact latest_concat_some rfl

end HasRead

/-! ## Facts that are not assembled -/

/-- The dictionaries agree on whatever is not assembled. -/
def Agrees (facts base : Facts) : Prop := ∀ name, name ∉ ASSEMBLED → facts name = base name

namespace Agrees

variable {facts base : Facts}

theorem refl (facts : Facts) : Agrees facts facts := fun _ _ => rfl

theorem set (h : Agrees facts base) {name : String} (hname : name ∈ ASSEMBLED) (value : Value) :
    Agrees (facts.set name value) base := by
  intro n hn
  have hne : n ≠ name := fun heq => hn (heq ▸ hname)
  rw [Facts.set, Function.update_of_ne hne]
  exact h n hn

theorem merge_ofList (h : Agrees facts base) {entries : List (String × Value)}
    (hnames : ∀ entry ∈ entries, entry.1 ∈ ASSEMBLED) :
    Agrees (facts.merge (Facts.ofList entries)) base := by
  intro n hn
  have hnone : Facts.ofList entries n = none := by
    rw [Facts.ofList, Option.map_eq_none_iff, List.find?_eq_none]
    intro entry hentry heq
    exact hn (of_decide_eq_true heq ▸ hnames entry hentry)
  rw [Facts.merge, hnone, Option.none_or]
  exact h n hn

theorem setIfKnown {ctx : TurnContext} (h : Agrees ctx.facts base) {name : String}
    (hname : name ∈ ASSEMBLED) (value : Option String) :
    Agrees (setIfKnown ctx name value).facts base := by
  cases value with
  | none => exact h
  | some s => exact h.set hname _

theorem withRows {ctx : TurnContext} (h : Agrees ctx.facts base) (demo : Option Demo)
    (request : Option DemoRequest) (hold : Option SlotHold) (candidates : List TutorCandidate) :
    Agrees (withRows ctx demo request hold candidates).facts base := by
  refine set ?_ (by decide) _
  refine setIfKnown ?_ (by decide) _
  refine setIfKnown ?_ (by decide) _
  refine setIfKnown ?_ (by decide) _
  exact h.merge_ofList (by simp [ASSEMBLED])

end Agrees

/-! ## The transitions a turn asks to store -/

/-- **What a turn stores of its own**: what the machine grants its event, on the snapshot loaded
last, at the time read last, with facts that are the payload's over the stored ones. -/
structure OwnMove (e : Event) (h : History ports Exn) (s : StateSnapshot) (demo : Option Demo)
    (result : TransitionResult) (now : Time) (facts : Facts) : Prop where
  read : HasRead h now s demo
  granted : fire s e.trigger e.actor facts = .ok result
  facts : Agrees facts (s.facts.merge (e.payload.restrict PAYLOAD_FACT_ALLOWLIST))

/-- What the machine has seen under a name that payloads may carry. -/
theorem OwnMove.seen {e : Event} {h : History ports Exn} {s : StateSnapshot}
    {demo : Option Demo} {result : TransitionResult} {now : Time} {facts : Facts}
    (hown : OwnMove e h s demo result now facts) (name : String) (hname : name ∉ ASSEMBLED)
    (hallowed : name ∈ PAYLOAD_FACT_ALLOWLIST) :
    (s.facts.merge facts).get name = (s.facts.merge e.payload).get name := by
  have hfact : facts name = (e.payload name).or (s.facts name) := by
    rw [hown.facts name hname, Facts.merge, Facts.restrict, if_pos hallowed]
  simp only [Facts.get, Facts.merge, hfact, Option.or_assoc, Option.or_self]

/-- A transition that is stored is the event's own, or follows a failure. -/
def TurnStores (e : Event) (h : History ports Exn) (o : Op) : Prop :=
  ∀ result now facts, o = .saveTransition result now facts →
    (∃ s demo, OwnMove e h s demo result now facts) ∨ result.trigger = .recoverableFailure

/-- Whether a call stores a transition. -/
def Op.stores : Op → Bool
  | .saveTransition .. => true
  | _ => false

/-- Whatever else a turn calls, it may call at any time. -/
theorem turnStores_of {e : Event} {h : History ports Exn} {o : Op} (ho : o.stores = false) :
    TurnStores e h o := by
  intro result now facts heq
  rw [heq] at ho
  cases ho

section Walk

variable {cfg : Config} {e : Event} {h : History ports Exn} {α : Type}

/-- A call that stores nothing, and what comes after it. -/
theorem ask_guardedTo {o : Op} {R : α → History ports Exn → Prop} {f : o.Res → Act α}
    (ho : o.stores = false)
    (hf : ∀ a, (f a).GuardedTo (TurnStores e) R (h ++ [⟨o, .ok a⟩])) :
    (ask o >>= f).GuardedTo (TurnStores e) R h :=
  Prog.guardedTo_perform_bind (S := ports) (turnStores_of ho) hf

/-- A context that is being decided on: what it was read from, and which facts are in it. -/
structure Deciding (h : History ports Exn) (s : StateSnapshot) (demo : Option Demo)
    (base : Facts) (ctx : TurnContext) : Prop where
  read : HasRead h ctx.now s demo
  snapshot : ctx.snapshot = s
  facts : Agrees ctx.facts base

theorem Deciding.snoc {s : StateSnapshot} {demo : Option Demo} {base : Facts}
    {ctx : TurnContext} (hd : Deciding h s demo base ctx) {o : Op} (ho : o.reads = false)
    (r : Except Exn o.Res) : Deciding (h ++ [⟨o, r⟩]) s demo base ctx :=
  ⟨hd.read.snoc ho r, hd.snapshot, hd.facts⟩

@[simp] theorem setIfKnown_now (ctx : TurnContext) (name : String) (value : Option String) :
    (setIfKnown ctx name value).now = ctx.now := by
  cases value with
  | none => rfl
  | some s => rfl

@[simp] theorem withRows_now (ctx : TurnContext) (demo : Option Demo)
    (request : Option DemoRequest) (hold : Option SlotHold) (candidates : List TutorCandidate) :
    (withRows ctx demo request hold candidates).now = ctx.now := by
  simp [withRows]

@[simp] theorem withRows_snapshot (ctx : TurnContext) (demo : Option Demo)
    (request : Option DemoRequest) (hold : Option SlotHold) (candidates : List TutorCandidate) :
    (withRows ctx demo request hold candidates).snapshot = ctx.snapshot := by
  simp [withRows]

/-- The order, and its activation, are read. -/
theorem withOrder_guarded {s : StateSnapshot} {demo : Option Demo} {base : Facts}
    {ctx : TurnContext} (hd : Deciding h s demo base ctx) :
    (withOrder ctx).GuardedTo (TurnStores e) (fun ctx' h' => Deciding h' s demo base ctx') h := by
  refine ask_guardedTo rfl fun order => ?_
  cases order with
  | none => exact hd.snoc rfl _
  | some order =>
    refine ask_guardedTo (o := .activationFor order.orderRef) rfl fun activation => ?_
    have hread := (hd.snoc (o := .orderForConversation ctx.conversationRef) rfl
      (.ok (some order))).snoc (o := .activationFor order.orderRef) rfl (.ok activation)
    refine ⟨?_, ?_, ?_⟩
    · simpa using hread.read
    · simpa using hread.snapshot
    · exact (hd.facts.set (by decide) _).setIfKnown (by decide) _

/-- The verdict on a discount is read, if there is a demo. -/
theorem decisionFor_guarded {s : StateSnapshot} {demo demo' : Option Demo} {base : Facts}
    {ctx : TurnContext} (hd : Deciding h s demo base ctx) :
    (decisionFor demo').GuardedTo (TurnStores e) (fun _ h' => Deciding h' s demo base ctx) h := by
  cases demo' with
  | none => exact hd
  | some d =>
    exact Prog.guardedTo_perform (S := ports) (o := .loadDecision d.demoId) (turnStores_of rfl)
      fun decision => hd.snoc rfl _

/-- **Facts are assembled** over the stored ones. -/
theorem assembleFacts_guarded {s : StateSnapshot} {ctx : TurnContext}
    (ho : Opening h ctx.now s) (hsnapshot : ctx.snapshot = s) (hfacts : ctx.facts = Facts.empty) :
    (assembleFacts ctx).GuardedTo (TurnStores e)
      (fun ctx' h' => ∃ demo, Deciding h' s demo s.facts ctx') h := by
  refine ask_guardedTo (o := .demoForConversation ctx.conversationRef) rfl
    fun (demo : Option Demo) => ?_
  have hread : HasRead (h ++ [⟨.demoForConversation ctx.conversationRef, .ok demo⟩]) ctx.now s
      demo := ⟨h, _, [], rfl, ho, fun _ hc => absurd hc List.not_mem_nil⟩
  refine ask_guardedTo (o := .requestForConversation ctx.conversationRef) rfl
    fun (request : Option DemoRequest) => ?_
  refine ask_guardedTo (o := .activeHoldFor ctx.conversationRef ctx.now) rfl
    fun (hold : Option SlotHold) => ?_
  refine ask_guardedTo (o := .loadCandidates ctx.conversationRef) rfl
    fun (candidates : List TutorCandidate) => ?_
  have hmerged : Agrees (ctx.merge ctx.snapshot.facts).facts s.facts := by
    intro n _
    simp [TurnContext.merge, Facts.merge, hfacts, hsnapshot]
  have hrows := hmerged.withRows demo request hold candidates
  have hrest := ((hread.snoc (o := .requestForConversation ctx.conversationRef) rfl
    (.ok request)).snoc (o := .activeHoldFor ctx.conversationRef ctx.now) rfl
    (.ok hold)).snoc (o := .loadCandidates ctx.conversationRef) rfl (.ok candidates)
  have hd : Deciding _ s demo s.facts
      (withRows (ctx.merge ctx.snapshot.facts) demo request hold candidates) :=
    ⟨by rw [withRows_now]; exact hrest, by rw [withRows_snapshot]; exact hsnapshot, hrows⟩
  refine (decisionFor_guarded hd).bind fun decision h' hd => ?_
  have hquote : ∀ quote, Deciding h' s demo s.facts
      ((withRows (ctx.merge ctx.snapshot.facts) demo request hold candidates).fact
        "approved_quote" quote) :=
    fun quote => ⟨hd.read, hd.snapshot, hd.facts.set (by decide) quote⟩
  exact (withOrder_guarded (hquote _)).mono fun ctx' h'' hd' => ⟨demo, hd'⟩

/-- A pass decides on what it has read. -/
theorem decideOn_guarded :
    (decideOn cfg e).GuardedTo (TurnStores e) (fun ctx h' => ∃ s demo, Deciding h' s demo
      (s.facts.merge (e.payload.restrict PAYLOAD_FACT_ALLOWLIST)) ctx) h := by
  refine ask_guardedTo (o := .now) rfl fun now => ?_
  refine ask_guardedTo (o := .load e.conversationRef) rfl fun s => ?_
  have ho : Opening (h ++ [⟨.now, .ok now⟩] ++ [⟨.load e.conversationRef, .ok s⟩]) now s :=
    ⟨(latest_concat_none rfl).trans (latest_concat_some rfl), latest_concat_some rfl⟩
  refine ask_guardedTo (o := .loadOwnership e.conversationRef now) rfl fun ownership => ?_
  have ho' : Opening (h ++ [⟨.now, .ok now⟩] ++ [⟨.load e.conversationRef, .ok s⟩] ++
      [⟨.loadOwnership e.conversationRef now, .ok ownership⟩]) now s :=
    ⟨(latest_concat_none rfl).trans ho.clock, (latest_concat_none rfl).trans ho.snapshot⟩
  refine (assembleFacts_guarded (s := s) ho' rfl rfl).bind fun ctx h' ⟨demo, hd⟩ => ?_
  have hpayload : Agrees (ctx.merge (e.payload.restrict PAYLOAD_FACT_ALLOWLIST)).facts
      (s.facts.merge (e.payload.restrict PAYLOAD_FACT_ALLOWLIST)) := by
    intro n hn
    simp only [TurnContext.merge, Facts.merge, hd.facts n hn]
  dsimp only
  split
  · refine ask_guardedTo rfl fun candidates => ?_
    exact ⟨s, demo, hd.read.snoc rfl _, hd.snapshot, hpayload.merge_ofList (by simp [ASSEMBLED])⟩
  · exact ⟨s, demo, hd.read, hd.snapshot, hpayload⟩

/-- Taking the conversation reads nothing, and leaves the decision alone. -/
theorem ensureOwnership_guarded {s : StateSnapshot} {demo : Option Demo} {base : Facts}
    {ctx : TurnContext} (hd : Deciding h s demo base ctx) :
    (ensureOwnership ctx).GuardedTo (TurnStores e) (fun ctx' h' =>
      HasRead h' ctx'.now s demo ∧ ctx'.facts = ctx.facts) h := by
  unfold ensureOwnership
  split
  · cases ctx.ownership.acquire ctx.now none with
    | error err => trivial
    | ok taken => exact ask_guardedTo rfl fun _ => ⟨hd.read.snoc rfl _, rfl⟩
  · split
    · exact ⟨hd.read, rfl⟩
    · exact ⟨hd.read, rfl⟩

/-- Executing a command stores nothing. -/
theorem executeCommand_guarded (command : Command) (ctx : TurnContext) (payload : Facts) :
    (executeCommand command ctx payload).GuardedTo (TurnStores e) (fun _ _ => True) h := by
  have hask : (ask (.execute command ctx payload)).attempt.GuardedTo (TurnStores e)
      (fun _ _ => True) h :=
    ((Prog.guardedTo_perform (S := ports) (R := fun _ _ => True)
      (turnStores_of rfl) fun _ => trivial).attempt).mono fun _ _ _ => trivial
  refine hask.bind fun r h' _ => ?_
  cases r with
  | ok effect => trivial
  | error exn => trivial

theorem compensate_guarded (result : TransitionResult) (ctx : TurnContext) :
    (compensate result ctx).GuardedTo (TurnStores e) (fun _ _ => True) h := by
  unfold compensate
  split
  · trivial
  · refine (executeCommand_guarded _ ctx Facts.empty).bind fun x h' _ => ?_
    obtain ⟨ended, ctx'⟩ := x
    cases ended with
    | ok outcome => trivial
    | error exn => trivial

/-- What is stored after a failure follows it. -/
theorem fireInternal_guarded (ctx : TurnContext) :
    (fireInternal ctx .recoverableFailure).GuardedTo (TurnStores e) (fun _ _ => True) h := by
  refine ask_guardedTo (o := .load ctx.conversationRef) rfl fun s => ?_
  cases hfire : fire s .recoverableFailure .system ctx.facts with
  | error refusal => trivial
  | ok follow =>
    have htrigger : follow.trigger = .recoverableFailure := by
      obtain ⟨row, _, _, _, _, rfl⟩ := fire_eq_ok hfire
      rfl
    refine Prog.guardedTo_perform_bind (S := ports) (fun result now facts heq => .inr ?_)
      fun _ => trivial
    obtain ⟨rfl, -, -⟩ := Op.saveTransition.inj heq
    exact htrigger

theorem runCommand_guarded (result : TransitionResult) (ctx : TurnContext) (payload : Facts) :
    (runCommand result ctx payload).GuardedTo (TurnStores e) (fun _ _ => True) h := by
  unfold runCommand
  split
  · trivial
  · refine (executeCommand_guarded _ ctx payload).bind fun x h' _ => ?_
    dsimp only
    split
    · refine (compensate_guarded result x.2).bind fun ctx' h'' _ => ?_
      exact (fireInternal_guarded ctx').bind fun _ _ _ => trivial
    · trivial

theorem sendAll_guarded (messages : List OutboundMessage) (sent : Nat) (degraded : List String) :
    (sendAll messages sent degraded).GuardedTo (TurnStores e) (fun _ _ => True) h := by
  induction messages generalizing sent degraded h with
  | nil => trivial
  | cons m rest ih =>
    refine ask_guardedTo rfl fun outcome => ?_
    split
    · exact ih _ _
    · split
      · exact ih _ _
      · exact ih _ _

theorem applyTransfer_guarded (ctx : TurnContext) (outcome : CommandOutcome) :
    (applyTransfer ctx outcome).GuardedTo (TurnStores e) (fun _ _ => True) h := by
  unfold applyTransfer
  split
  · trivial
  · split
    · trivial
    · split
      · trivial
      · exact ask_guardedTo rfl fun _ => trivial

/-- What a granted transition is stored with is what it was granted on. -/
theorem commit_guarded {s : StateSnapshot} {demo : Option Demo} {ctx : TurnContext}
    {result : TransitionResult} (hd : Deciding h s demo
      (s.facts.merge (e.payload.restrict PAYLOAD_FACT_ALLOWLIST)) ctx)
    (hfire : fire ctx.snapshot e.trigger e.actor ctx.facts = .ok result) :
    (commit e ctx result).GuardedTo (TurnStores e) (fun _ _ => True) h := by
  refine (ensureOwnership_guarded hd).bind fun ctx' h' ⟨hread, hfacts⟩ => ?_
  refine Prog.guardedTo_perform_bind (S := ports) (fun result' now facts heq => .inl ?_)
    fun updated => ?_
  · obtain ⟨rfl, rfl, rfl⟩ := Op.saveTransition.inj heq
    exact ⟨s, demo, hread, by rw [hfacts, ← hd.snapshot]; exact hfire,
      by rw [hfacts]; exact hd.facts⟩
  · refine (runCommand_guarded _ _ _).bind fun x h'' _ => ?_
    refine ((sendAll_guarded _ _ _).bind fun y h'' _ => ?_ : Prog.GuardedTo _ (fun _ _ => True) _
      (flush x.2)).bind fun y h'' _ => ?_
    · trivial
    · exact (applyTransfer_guarded _ _).bind fun _ _ _ => trivial

theorem attempt_guarded : (attempt cfg e).GuardedTo (TurnStores e) (fun _ _ => True) h := by
  refine decideOn_guarded.bind fun ctx h' ⟨s, demo, hd⟩ => ?_
  cases hfire : fire ctx.snapshot e.trigger e.actor ctx.facts with
  | error refusal => exact ask_guardedTo rfl fun _ => trivial
  | ok result => exact commit_guarded hd hfire

/-- A pass that is retried reads everything again. -/
theorem attempts_guarded (n : Nat) (lastError : String) :
    (attempts cfg e n lastError).GuardedTo (TurnStores e) (fun _ _ => True) h := by
  induction n generalizing h lastError with
  | zero => exact ask_guardedTo rfl fun _ => trivial
  | succ n ih =>
    refine attempt_guarded.tryCatch fun exn h' => ?_
    cases exn with
    | conflict c => exact ih c.text
    | ownership err => trivial
    | other name => trivial

/-- **The rule of the module**: what an event stores is granted to it, on facts that are its own
payload's over the stored ones, or follows its failure. -/
theorem handle_guarded : (handle cfg e).Guarded (TurnStores e) [] := by
  refine Prog.GuardedTo.guarded (R := fun _ _ => True) ?_
  refine ask_guardedTo (o := .now) rfl fun now => ?_
  refine ask_guardedTo rfl fun claimed => ?_
  cases claimed with
  | true => exact attempts_guarded _ _
  | false => exact ask_guardedTo rfl fun _ => trivial

end Walk

/-! ## In any pool -/

/-- The transition a call asks to store. -/
def stored : Call ports Exn → Option TransitionResult
  | ⟨.saveTransition result _ _, _⟩ => some result
  | _ => none

theorem stored_eq_some {c : Call ports Exn} {result : TransitionResult}
    (h : stored c = some result) : ∃ now facts, c.1 = Op.saveTransition result now facts := by
  obtain ⟨o, r⟩ := c
  cases o with
  | saveTransition result' now facts =>
    cases h
    exact ⟨now, facts, rfl⟩
  | _ => cases h

/-- Any number of events, the `n`-th of which is `events n`, handled at once over any store; the
rest of the world does what it likes. -/
def turns {C : Type} [ConversationRepository C] (cfg : Config) (events : Nat → Event) :
    Arena ports Exn TurnResult (World C) Nat where
  answers _ := Answers
  enters n p _ := p = handle cfg (events n)
  outside _ _ := True

/-- **Whatever events are handled, and however they interleave**, a transition that is stored was
granted to its event on what the event had read, or follows a failure. -/
theorem stored_own_move {C : Type} [ConversationRepository C] {cfg : Config}
    {events : Nat → Event} {w : World C}
    {p : Pool ports Exn TurnResult (World C × List (Nat × Call ports Exn)) Nat}
    (h : Pool.Reach (turns cfg events).traced (Pool.start (w, [])) p)
    {before after : List (Nat × Call ports Exn)} {n : Nat} {c : Call ports Exn}
    {result : TransitionResult} (hlog : p.world.2 = before ++ (n, c) :: after)
    (hstored : stored c = some result) :
    (∃ now s demo facts, OwnMove (events n) (own n before) s demo result now facts) ∨
      result.trigger = .recoverableFailure := by
  have hwatched := Pool.Reach.guarded (A := turns cfg events)
    (P := fun n => TurnStores (events n)) (I := fun _ => True)
    (fun _ _ _ henter => henter ▸ handle_guarded) trivial (fun _ _ _ _ _ _ _ _ _ => trivial)
    (fun _ _ _ _ _ => trivial) h
  obtain ⟨o, r⟩ := c
  obtain ⟨now, facts, rfl⟩ := stored_eq_some hstored
  cases hstored
  rcases hwatched.permitted before n _ r after hlog result now facts rfl with ⟨s, demo, hown⟩ | hf
  · exact .inl ⟨now, s, demo, facts, hown⟩
  · exact .inr hf

end NxTutors.DemoAgent
