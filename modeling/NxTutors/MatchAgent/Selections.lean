import NxTutors.MatchAgent.SavedStates
import NxTutors.Website.Feed

/-!
# Selections

A selection names the shortlist it is about and the tutor that was chosen from it. The turn that
serves it reads neither: with another selection in the envelope it is the same program
(`handle_withSelection`). So whatever tutor was chosen, the same is stored, and nobody can tell from
it who it was. A run honours its selections exactly if none of them is accepted
(`selections_honoured_iff`).
-/

namespace NxTutors.MatchAgent

open Effect Prog

/-- The envelope with another selection in it. -/
def InboundEnvelope.withSelection (e : InboundEnvelope) (selection : ParentSelection) :
    InboundEnvelope := { e with payload := .parentSelection selection }

/-! ## What is claimed of a selection -/

/-- The decision that an event shows to a conversation. -/
def Event.shows (conversationId : String) : Event → Option MatchDecision
  | .delivery d =>
    match d.out with
    | .ok r =>
      (r.outcome.filter fun o => o.matched && d.envelope.conversationId = conversationId).map
        MatchOutcome.decision
    | .error _ => none
  | .relay => none

/-- The decision that a conversation was last shown. -/
def lastShown (events : List Event) (conversationId : String) : Option MatchDecision :=
  (events.filterMap (Event.shows conversationId)).getLast?

/-- The selection names a tutor on the shortlist of the decision, and the decision. -/
def ParentSelection.From (selection : ParentSelection) (decision : MatchDecision) : Prop :=
  decision.matchSessionId = selection.matchSessionId ∧
    ∃ entry ∈ decision.shortlist,
      Website.encodePublicRef entry.tutorId = .ok selection.selectedPublicRef

/-- The same conversations, decisions and messages are stored. -/
def World.SameRecords (a b : World) : Prop :=
  a.states = b.states ∧ a.decisions = b.decisions ∧ a.outbox = b.outbox

/-- A delivery moves its conversation to where a demo is requested. -/
def Delivery.Requests (d : Delivery) (w w' : World) : Prop :=
  (w.load d.envelope.conversationId).state ≠ .demoRequested ∧
    (w'.load d.envelope.conversationId).state = .demoRequested

/-- **A selection is honoured**: it is from what was last shown, and what is stored tells which
tutor was chosen, since the choice of any other would be stored otherwise. -/
structure Honoured (s : Service) (fails : Op → Prop) (before : List Event) (d : Delivery)
    (selection : ParentSelection) (w w' : World) : Prop where
  listed : ∃ decision, lastShown before d.envelope.conversationId = some decision ∧
    selection.From decision
  recorded : ∀ (other : ParentSelection) (log : History ports Fault) (out : Except Fault TurnResult)
    (x : World), other.selectedPublicRef ≠ selection.selectedPublicRef →
    Happens s fails w (.delivery ⟨d.envelope.withSelection other, log, out⟩) x → ¬ x.SameRecords w'

/-- `P` holds of each selection that is delivered in a run. -/
def EachSelection (s : Service) (fails : Op → Prop) (events : List Event)
    (P : List Event → Delivery → ParentSelection → World → World → Prop) : Prop :=
  ∀ before d selection w w', before ++ [.delivery d] <+: events →
    Path (Happens s fails) .fresh before w → Happens s fails w (.delivery d) w' →
    d.envelope.payload = .parentSelection selection → P before d selection w w'

/-! ## A turn that serves a selection -/

section Serving

variable {s : Service} {e : InboundEnvelope} {selection other : ParentSelection}

theorem withSelection_self (h : e.payload = .parentSelection selection) :
    e.withSelection selection = e := by
  cases e
  cases h
  rfl

/-- **The turn does not read the selection.** -/
theorem handle_withSelection : TurnService.handle s (e.withSelection selection) =
    TurnService.handle s (e.withSelection other) := rfl

theorem isSelection_of_payload (h : e.payload = .parentSelection selection) :
    e.isSelection = true := by
  unfold InboundEnvelope.isSelection
  rw [h]

end Serving

/-! ## When a selection is accepted -/

section Accepting

variable {s : Service} {e : InboundEnvelope} {fails : Op → Prop} {w : World}
  {a b : World × History ports Fault}

/-- Nothing has been saved. -/
def Pending (w : World) (b : World × History ports Fault) : Prop :=
  b.1.states = w.states ∧ ¬ Saved b.2

/-- The conversation was waiting for a selection, and its move has been saved. -/
def Requested (conversationId : String) (w : World) (b : World × History ports Fault) : Prop :=
  Saved b.2 ∧ (w.load conversationId).state = .awaitingSelection ∧
    (b.1.load conversationId).state = .demoRequested

/-- How a call for a selection ends. -/
def Settled (e : InboundEnvelope) (w : World) (b : World × History ports Fault) : Prop :=
  Pending w b ∨ Requested e.conversationId w b

theorem Pending.still {o : Op} {r : Except Fault o.Res} (ha : Pending w a) (ho : Still o)
    (hans : (stores fails).logged.answers o a r b) : Pending w b := by
  refine ⟨(states_of_answer hans.1 ho).trans ha.1, fun hsaved => ha.2 ?_⟩
  rw [hans.2] at hsaved
  exact saved_concat (ne_saved ho r) hsaved

theorem Requested.still {c : String} {o : Op} {r : Except Fault o.Res} (ha : Requested c w a)
    (ho : Still o) (hans : (stores fails).logged.answers o a r b) : Requested c w b := by
  obtain ⟨⟨snapshot, expected, hmem⟩, hawaiting, hrequested⟩ := ha
  refine ⟨⟨snapshot, expected, ?_⟩, hawaiting, ?_⟩
  · rw [hans.2]
    exact List.mem_append_left _ hmem
  · rw [load_congr (states_of_answer hans.1 ho)]
    exact hrequested

theorem Settled.still {o : Op} {r : Except Fault o.Res} (ha : Settled e w a) (ho : Still o)
    (hans : (stores fails).logged.answers o a r b) : Settled e w b :=
  ha.imp (fun h => h.still ho hans) fun h => h.still ho hans

/-- What is settled stays so while nothing else is saved. -/
theorem settled_within {α : Type} {R : α → Prop} {p : Turn α} (hp : TurnService.Calls Still R p)
    (ha : Settled e w a) :
    Meets (stores fails).logged (fun _ _ => True) (fun _ b => Settled e w b) p a := by
  refine (Meets.of_within (I := Settled e w) hp ?_ ?_ ha).post fun _ _ h => h.1
  · rintro x y hx hm
    obtain rfl : x = y := Prod.ext hm.1 hm.2.symm
    exact hx
  · exact fun o x r y ho hx hans => ⟨trivial, hx.still ho hans, fun _ _ => trivial⟩

/-- A call that saves nothing, where nothing has been saved, and what comes after it. -/
theorem pending_bind {o : Op} {f : o.Res → Turn TurnResult} (ho : Still o) (ha : Pending w a)
    (hf : ∀ x b, (stores fails).answers o a.1 (.ok x) b.1 → Pending w b →
      Meets (stores fails).logged (fun _ _ => True) (fun _ b => Settled e w b) (f x) b) :
    Meets (stores fails).logged (fun _ _ => True) (fun _ b => Settled e w b) (call o >>= f) a := by
  refine Meets.perform_bind (S := ports) (o := o) fun a' hm r b hans => ?_
  obtain rfl : a = a' := Prod.ext hm.1 hm.2.symm
  have hb : Pending w b := ha.still ho hans
  refine ⟨trivial, fun x hx => ?_, fun _ _ => .inl hb⟩
  subst hx
  exact hf x b hans.1 hb

/-- **A selection is legal in one state**, and leads to one. -/
theorem parentSelected_legal {loaded : ConversationSnapshot} {now : Time} {traceId : String}
    (h : (loaded.tryTransition .parentSelected now traceId).2 = true) :
    loaded.state = .awaitingSelection ∧
      (loaded.tryTransition .parentSelected now traceId).1.state = .demoRequested ∧
      (loaded.tryTransition .parentSelected now traceId).1.conversationId =
        loaded.conversationId := by
  unfold ConversationSnapshot.tryTransition at h ⊢
  cases hstate : loaded.state with
  | awaitingSelection => exact ⟨rfl, rfl, rfl⟩
  | _ =>
    rw [hstate] at h
    cases h

/-- A save puts the conversation, or does nothing. -/
theorem save_answer {snapshot : ConversationSnapshot} {expected : Nat} {x y : World}
    {r : Except Fault Unit} (hans : (stores fails).answers (.saveState snapshot expected) x r y) :
    (r = .ok () ∧ y = x.saved snapshot) ∨ ((∃ f, r = .error f) ∧ y = x) := by
  rcases hans with hserved | ⟨-, hr, hy⟩
  · have hsave : x.saveState snapshot expected = (r, y) := hserved
    unfold World.saveState at hsave
    split at hsave
    · cases hsave
      exact .inl ⟨rfl, rfl⟩
    · cases hsave
      exact .inr ⟨⟨_, rfl⟩, rfl⟩
  · exact .inr ⟨hr, hy⟩

/-- The move is saved. -/
theorem requested_of_save {loaded moved : ConversationSnapshot} {expected : Nat}
    (hloaded : loaded = w.load e.conversationId) (hawaiting : loaded.state = .awaitingSelection)
    (hrequested : moved.state = .demoRequested)
    (hname : moved.conversationId = loaded.conversationId) {log : History ports Fault}
    (hlog : log = a.2 ++ [⟨.saveState moved expected, .ok ()⟩]) :
    Requested e.conversationId w (a.1.saved moved, log) := by
  subst hloaded
  refine ⟨⟨moved, expected, ?_⟩, hawaiting, ?_⟩
  · rw [hlog]
    exact List.mem_append_right _ (List.mem_singleton.mpr rfl)
  · have hload := a.1.load_saved moved
    rw [hname, w.load_conversationId] at hload
    rw [hload]
    exact hrequested

/-- The turn for a selection saves its move, or nothing. -/
theorem handleSelection_settled {loaded : ConversationSnapshot} (ha : Pending w a)
    (hloaded : loaded = w.load e.conversationId) :
    Meets (stores fails).logged (fun _ _ => True) (fun _ b => Settled e w b)
      (TurnService.handleSelection s e loaded) a := by
  unfold TurnService.handleSelection
  refine pending_bind (fun _ _ => nofun) ha fun now b _ hb => ?_
  dsimp only
  split
  · rename_i hlegal
    obtain ⟨hawaiting, hrequested, hname⟩ := parentSelected_legal hlegal
    refine Meets.perform_bind (S := ports) fun b' hm r c hans => ?_
    obtain rfl : b = b' := Prod.ext hm.1 hm.2.symm
    obtain ⟨d, log⟩ := c
    rcases save_answer hans.1 with ⟨rfl, rfl⟩ | ⟨⟨f, rfl⟩, rfl⟩
    · have hdone : Settled e w (b.1.saved _, log) :=
        .inr (requested_of_save hloaded hawaiting hrequested hname hans.2)
      refine ⟨trivial, fun x _ => settled_within (R := fun _ => True) ?_ hdone, fun _ hx => nomatch hx⟩
      refine (TurnService.calls_recordDeed fun _ _ _ => nofun).bind fun _ _ => ?_
      exact (TurnService.calls_enqueueReply fun _ _ _ => nofun).bind fun _ _ => trivial
    · refine ⟨trivial, fun _ hx => (nomatch hx), fun _ _ => .inl ⟨hb.1, fun hsaved => hb.2 ?_⟩⟩
      rw [hans.2] at hsaved
      exact saved_concat (fun _ _ => ne_saved_error) hsaved
  · exact .inl hb

/-- **A call for a selection saves its move, or nothing.** -/
theorem handle_settled (he : e.isSelection = true) :
    Meets (stores fails).logged (fun _ _ => True) (fun _ b => Settled e w b)
      (TurnService.handle s e) (w, []) := by
  have hstart : Pending w (w, []) := ⟨rfl, fun hsaved => by
    obtain ⟨_, _, hmem⟩ := hsaved
    exact absurd hmem List.not_mem_nil⟩
  have hpaused : Meets (stores fails).logged (fun _ _ => True) (fun _ b => Pending w b)
      (TurnService.paused s) (w, []) := by
    refine (Meets.of_within (I := Pending w)
      (TurnService.calls_paused (P := Still) fun _ _ h => by cases h) ?_ ?_ hstart).post
      fun _ _ h => h.1
    · rintro x y hx hm
      obtain rfl : x = y := Prod.ext hm.1 hm.2.symm
      exact hx
    · exact fun o x r y ho hx hans => ⟨trivial, hx.still ho hans, fun _ _ => trivial⟩
  refine hpaused.bind (fun stopped a ha => ?_) fun _ _ h => .inl h
  split
  · exact pending_bind (fun _ _ h => by cases h) ha fun _ b _ hb => .inl hb
  · refine pending_bind (fun _ _ h => by cases h) ha fun ours b _ hb => ?_
    split
    · refine Meets.tryCatch (M := fun _ b => Settled e w b) ?_ (fun _ _ h => h) fun f c hc => ?_
      · refine pending_bind (fun _ _ h => by cases h) hb fun now c _ hc => ?_
        refine pending_bind (fun _ _ h => by cases h) hc fun loaded d hans hd => ?_
        have hloaded : loaded = w.load e.conversationId := by
          rcases hans with ⟨hr, -⟩ | ⟨-, ⟨f, hf⟩, -⟩
          · cases hr
            exact load_congr hc.1 _
          · cases hf
        cases hpayload : e.payload with
        | parentSelection selection => exact handleSelection_settled hd hloaded
        | leadEvent event => simp [InboundEnvelope.isSelection, hpayload] at he
        | whatsappTurn turn => simp [InboundEnvelope.isSelection, hpayload] at he
      · refine settled_within (R := fun _ => True) ?_ hc
        exact TurnService.calls_call_bind (fun _ _ h => by cases h) fun _ => trivial
    · exact pending_bind (fun _ _ h => by cases h) hb fun _ c _ hc => .inl hc

/-- **A selection moves its conversation** exactly if that waits for one and the move is saved. -/
theorem Happens.requests_iff {d : Delivery} {w' : World} (he : d.envelope.isSelection = true)
    (h : Happens s fails w (.delivery d) w') :
    d.Requests w w' ↔
      (w.load d.envelope.conversationId).state = .awaitingSelection ∧ Saved d.log := by
  cases h with
  | delivery hrun =>
    rcases (handle_settled he).run hrun with ⟨hstates, hunsaved⟩ | ⟨hsaved, hawaiting, hrequested⟩
    · refine iff_of_false ?_ fun h => hunsaved h.2
      rintro ⟨hbefore, hafter⟩
      rw [load_congr hstates] at hafter
      exact hbefore hafter
    · refine iff_of_true ⟨?_, hrequested⟩ ⟨hawaiting, hsaved⟩
      rw [hawaiting]
      decide

end Accepting

/-! ## What is stored of it -/

section Recording

variable {s : Service} {fails : Op → Prop} {w w' : World} {d : Delivery}
  {selection : ParentSelection}

/-- Whatever is chosen, the same happens. -/
theorem Happens.withSelection (hpayload : d.envelope.payload = .parentSelection selection)
    (other : ParentSelection) (h : Happens s fails w (.delivery d) w') :
    Happens s fails w (.delivery ⟨d.envelope.withSelection other, d.log, d.out⟩) w' := by
  cases h with
  | delivery hrun =>
    refine .delivery ?_
    change Run _ (TurnService.handle s (d.envelope.withSelection other)) _ _ _
    rw [@handle_withSelection s d.envelope other selection, withSelection_self hpayload]
    exact hrun

/-- **Nobody can tell who was chosen.** -/
theorem not_honoured {before : List Event}
    (hpayload : d.envelope.payload = .parentSelection selection)
    (h : Happens s fails w (.delivery d) w') : ¬ Honoured s fails before d selection w w' := by
  intro hhonoured
  have hother : selection.selectedPublicRef ++ "0" ≠ selection.selectedPublicRef := by
    intro heq
    have hlength := congrArg String.length heq
    rw [String.length_append] at hlength
    have hone : "0".length = 1 := rfl
    omega
  exact hhonoured.recorded { selection with selectedPublicRef := selection.selectedPublicRef ++ "0" }
    d.log d.out w' hother (h.withSelection hpayload _) ⟨rfl, rfl, rfl⟩

end Recording

/-- **A run honours its selections exactly if it accepts none**: whenever one is delivered, the
conversation does not wait for it, or its move is not saved. -/
theorem selections_honoured_iff (s : Service) (fails : Op → Prop) (events : List Event) :
    EachSelection s fails events (fun before d selection w w' =>
      d.Requests w w' → Honoured s fails before d selection w w') ↔
    EachSelection s fails events fun _ d _ w _ =>
      (w.load d.envelope.conversationId).state = .awaitingSelection → ¬ Saved d.log := by
  constructor
  · intro h before d selection w w' hprefix hpath hhappens hpayload hawaiting hsaved
    refine not_honoured hpayload hhappens (h before d selection w w' hprefix hpath hhappens hpayload ?_)
    exact (hhappens.requests_iff (isSelection_of_payload hpayload)).mpr ⟨hawaiting, hsaved⟩
  · intro h before d selection w w' hprefix hpath hhappens hpayload hrequests
    obtain ⟨hawaiting, hsaved⟩ :=
      (hhappens.requests_iff (isSelection_of_payload hpayload)).mp hrequests
    exact absurd hsaved (h before d selection w w' hprefix hpath hhappens hpayload hawaiting)

/-! ### A choice that nobody can read -/

/-- What is stored when a choice has been served. -/
def afterChoice (w : World) : World :=
  (((w.claimed "m2" 0).saved (demoRequested w)).noting smallService choosing
    DeedType.CANDIDATE_SELECTED "parent selected a tutor" []).enqueue
      (TurnService.replyMessage smallService choosing SELECTION_REPLY)

/-- The choice is served where a tutor may be chosen. -/
theorem choosing_served {w : World} (h : Offered w) :
    Outside.eval {} (TurnService.handle smallService choosing) w =
      (.ok (Outside.chosen choosing (demoRequested w)), afterChoice w) := by
  have hlegal : (w.load "wa:1").tryTransition .parentSelected 0 "trace" =
      (demoRequested w, true) := by
    rw [ConversationSnapshot.tryTransition, h.state]
    rfl
  have hversion : (w.claimed "m2" 0).version (demoRequested w).conversationId =
      (w.load "wa:1").lockVersion := by
    rw [show (demoRequested w).conversationId = "wa:1" from w.load_conversationId "wa:1"]
    exact w.version_eq_load "wa:1"
  have hprocess : Outside.eval {} (TurnService.process smallService choosing)
      (w.claimed "m2" 0) =
      (.ok (Outside.chosen choosing (demoRequested w)), afterChoice w) := by
    rw [Outside.eval_process_selection _ rfl]
    exact Outside.eval_handleSelection _ hlegal hversion (by decide)
  refine (Outside.eval_handle _ rfl h.free).trans ?_
  rw [show Outside.eval {} (TurnService.process smallService choosing)
    (w.claimed choosing.dedupKey (Outside.now {})) = _ from hprocess]

theorem afterChoice_state {w : World} : ((afterChoice w).load "wa:1").state = .demoRequested := by
  have hload := (w.claimed "m2" 0).load_saved (demoRequested w)
  rw [show (demoRequested w).conversationId = "wa:1" from w.load_conversationId "wa:1"] at hload
  exact congrArg ConversationSnapshot.state hload

/-- **A choice is accepted and lost**: a shortlist is shown, its tutor is chosen, and what is stored
is what it would be had anybody else been. -/
theorem choice_lost : ¬ ∀ s fails events, EachSelection s fails events
    fun before d selection w w' => d.Requests w w' → Honoured s fails before d selection w w' := by
  intro h
  obtain ⟨r, w, hmatched, hoffered⟩ := matching_offered
  obtain ⟨log, hmatching⟩ := happens_of_eval hmatched
  obtain ⟨log', hchoosing⟩ := happens_of_eval (choosing_served hoffered)
  have hrequests : Delivery.Requests
      ⟨choosing, log', .ok (Outside.chosen choosing (demoRequested w))⟩ w (afterChoice w) := by
    refine ⟨?_, afterChoice_state⟩
    change (w.load "wa:1").state ≠ _
    rw [hoffered.state]
    decide
  exact not_honoured rfl hchoosing
    (h _ _ _ _ _ _ _ _ (List.prefix_refl _) (.cons hmatching .nil) hchoosing rfl hrequests)

end NxTutors.MatchAgent
