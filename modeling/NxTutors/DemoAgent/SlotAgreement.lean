import NxTutors.DemoAgent.Serving
import NxTutors.DemoAgent.Workers

/-!
# The time a parent agrees to

The times that are proposed to a parent are numbered, and the parent answers with a number. The
router puts the number into the payload of the event, beside the text. The command that holds a time
wants the time itself, under `slot`, and nobody looks up the one for the other. So none is held,
whatever was agreed to: the command gives up before it calls anybody.
-/

namespace NxTutors.DemoAgent

open Effect

/-! ## What is held -/

/-- The hold that a call asks the store for. -/
def holdAsked : Call ports Exn → Option SlotHold
  | ⟨.slots ⟨_, .placeHold hold⟩, _⟩ => some hold
  | _ => none

/-- Only a call that writes the rows of a conversation asks for a hold. -/
theorem holdAsked_of_still {c : Call ports Exn} (hc : c.1.still = true) : holdAsked c = none := by
  obtain ⟨o, r⟩ := c
  cases o with
  | slots => cases hc
  | _ => rfl

/-- **A time is asked to be held**, for a tutor. -/
def HoldAsked (record : Record) (tutorRef : String) (slot : TimeSlot) : Prop :=
  ∃ x ∈ record, ∃ c ∈ x.inner, ∃ hold ∈ holdAsked c, hold.tutorRef = tutorRef ∧ hold.slot = slot

/-- How the command ends that has not found a time. -/
def slotMissing (ctx : TurnContext) : CommandEffect :=
  { outcome := .ok (failure "slot_or_tutor_missing"), facts := ctx.facts, outbox := ctx.outbox,
    degraded := ctx.degraded }

/-- Without a time in the payload, the command calls nobody. -/
theorem execute_without_slot {cfg : Config} {ctx : TurnContext} {payload : Facts}
    (hslot : payload "slot" = none) :
    execute cfg .placeSlotHold ctx payload = .ret (slotMissing ctx) := by
  have hplace : placeHold cfg payload ctx = .ret (.ok (failure "slot_or_tutor_missing"), ctx) := by
    have hvalue : (payload.get "slot").slot? = none := by rw [Facts.get, hslot]; rfl
    unfold placeHold
    rw [hvalue]
    rfl
  change placeHold cfg payload ctx >>= _ = _
  rw [hplace]
  rfl

/-! ## The turn of an agreement -/

/-- The row of the trigger has one command, and no compensation. -/
theorem command_of_agreed {s : StateSnapshot} {e : Event} {facts : Facts}
    {result : TransitionResult} (htrigger : e.trigger = .slotAgreed)
    (h : fire s e.trigger e.actor facts = .ok result) :
    result.command = .placeSlotHold ∧ result.compensation = .none := by
  obtain ⟨row, hrow, -, hrowTrigger, -, rfl⟩ := fire_lawful h
  have hcommands : ∀ row ∈ TRANSITIONS, row.trigger = .slotAgreed →
      row.command = .placeSlotHold ∧ row.compensation = .none := by decide
  exact hcommands row hrow (hrowTrigger.trans htrigger)

/-- So its turn executes only that, with the payload of the event. -/
theorem TurnCall.of_agreed {e : Event} {h : History ports Exn} {o : Op}
    (htrigger : e.trigger = .slotAgreed) (ho : TurnCall e h o) : o.still = true ∨
      (∃ m, o = .send m) ∨ ∃ ctx, o = .execute .placeSlotHold ctx e.payload := by
  rcases ho.still with hstill | hsend | ⟨command, ctx, payload, rfl⟩
  · exact .inl hstill
  · exact .inr (.inl hsend)
  · cases ho with
    | quiet hquiet => cases hquiet
    | command hcmd hne =>
      obtain ⟨s, hfire⟩ := hcmd.granted
      rw [(command_of_agreed htrigger hfire).1]
      exact .inr (.inr ⟨_, rfl⟩)
    | compensate hcmd hlast hfailed hne =>
      obtain ⟨s, hfire⟩ := hcmd.granted
      exact absurd (command_of_agreed htrigger hfire).2 hne

section Turn

variable {C : Type} [ConversationRepository C] {cfg : Config} {ref : String}

/-- An entry holds nothing: it makes no request for a hold, and if it executes the command, this
fails and calls nobody. -/
structure HoldsNothing (x : Entry ports Exn) : Prop where
  calls : ∀ c ∈ x.inner, holdAsked c = none
  fails : ∀ ctx payload r, Executes x .placeSlotHold ctx payload r →
    r = .ok (slotMissing ctx) ∧ x.inner = []

theorem Happens.holdsNothing {e : Event} {h : History ports Exn} {x : Entry ports Exn}
    {a b : World C} (htrigger : e.trigger = .slotAgreed) (hslot : e.payload "slot" = none)
    (hx : TurnCall e h x.call.1) (hhappens : Happens cfg ref a x b) : HoldsNothing x := by
  rcases hx.of_agreed htrigger with hstill | ⟨m, hm⟩ | ⟨ctx, hexec⟩
  · obtain ⟨-, hinner⟩ := apart_of_entry hhappens hstill
    refine ⟨fun c hc => absurd (hinner ▸ hc) List.not_mem_nil, fun ctx payload r hexec => ?_⟩
    rw [show x.call = _ from hexec] at hstill
    cases hstill
  · obtain ⟨-, hinner⟩ := apart_of_send hhappens hm
    refine ⟨fun c hc => holdAsked_of_still (hinner c hc).still, fun ctx payload r hexec => ?_⟩
    rw [show x.call = _ from hexec] at hm
    cases hm
  · obtain ⟨⟨o, r⟩, inner⟩ := x
    obtain rfl : o = .execute .placeSlotHold ctx e.payload := hexec
    obtain ⟨a₁, -, hcarries⟩ := hhappens
    cases hcarries with
    | plain hnone => cases hnone
    | part hsome hrun =>
      obtain rfl := Option.some.inj hsome
      rw [execute_without_slot hslot] at hrun
      cases hrun
      refine ⟨fun c hc => absurd hc List.not_mem_nil, fun ctx' payload r hexec => ?_⟩
      cases hexec
      exact ⟨rfl, rfl⟩

/-- **A message that agrees to a time**: a worker gets the message, finds the conversation in `s`,
in which the message is routed to `SLOT_AGREED`, and does what the entries say. -/
structure Agreement (cfg : Config) (ref : String) (body : WorkBody) (a : World C × Record)
    (s : StateSnapshot) (entries : Record) (out : Except Exn (Option TurnResult))
    (b : World C × Record) : Prop where
  run : Run (serving C cfg ref) (handleInboundMessage cfg ref body) a out b
  record : b.2 = a.2 ++ ⟨⟨.load ref, .ok s⟩, []⟩ :: entries
  routed : (routeBody cfg body s).trigger = some .slotAgreed

/-- What is routed has no time in it. -/
theorem routeBody_slot {body : WorkBody} {s : StateSnapshot} {trigger : Trigger}
    (h : (routeBody cfg body s).trigger = some trigger) :
    (routeBody cfg body s).payload "slot" = none :=
  Offered.payload_eq_none (route_offered fun hnone => nomatch hnone.symm.trans h) (by decide)

section Agreed

variable {body : WorkBody} {a b : World C × Record} {s : StateSnapshot} {entries : Record}
  {out : Except Exn (Option TurnResult)}

/-- After the snapshot was loaded, the worker handles the event of the message. -/
theorem Agreement.turn (h : Agreement cfg ref body a s entries out b) :
    ∃ a₁, b.2 = a₁.2 ++ entries ∧ Run (serving C cfg ref)
      (handle cfg (messageEvent ref body .slotAgreed (routeBody cfg body s).payload) >>=
        fun result => pure (some result)) a₁ out b := by
  obtain ⟨a₁, r, a₂, hmove, ⟨x, hx, hhappens, hlog⟩, hrest⟩ := run_call_iff.mp h.run
  obtain ⟨more, hmore, -⟩ := Run.record hrest
  -- the first entry is the loading of the snapshot
  have hfirst : x :: more = ⟨⟨.load ref, .ok s⟩, []⟩ :: entries := by
    rw [hlog, hmove.2, List.append_assoc, List.singleton_append, h.record] at hmore
    exact (List.append_cancel_left hmore).symm
  obtain ⟨rfl, rfl⟩ := List.cons.inj hfirst
  cases hx
  refine ⟨a₂, hmore, ?_⟩
  dsimp only [Prog.bind] at hrest
  rwa [h.routed] at hrest

/-- What a worker does about such a message holds nothing. -/
theorem Agreement.holdsNothing (h : Agreement cfg ref body a s entries out b) :
    ∀ x ∈ entries, HoldsNothing x := by
  obtain ⟨a₁, hrecord, hrun⟩ := h.turn
  obtain ⟨entries', hrecord', hpath, hguard⟩ := Run.record hrun
  obtain rfl : entries = entries' := List.append_cancel_left (hrecord.symm.trans hrecord')
  obtain ⟨hcalls, -⟩ := hguard _ (fun _ _ => True) []
    (handle_calls.bind (f := fun result => pure (some result)) fun _ _ _ => trivial)
  intro x hx
  obtain ⟨t, u, hhappens⟩ := hpath.mem hx
  obtain ⟨past, hcall⟩ := hcalls.of_mem (List.mem_map_of_mem hx)
  exact Happens.holdsNothing rfl (routeBody_slot h.routed) hcall hhappens

theorem Agreement.not_holdAsked (h : Agreement cfg ref body a s entries out b) (tutorRef : String)
    (slot : TimeSlot) : ¬ HoldAsked entries tutorRef slot := by
  rintro ⟨x, hx, c, hc, hold, hhold, -⟩
  rw [(h.holdsNothing x hx).calls c hc] at hhold
  cases hhold

/-- **A time that was agreed to is not held.** The command fails without a call, and no hold is
asked for in the turn, of this time or of another, for this tutor or for another. -/
theorem agreed_not_held (h : Agreement cfg ref body a s entries out b) :
    (∀ x ∈ entries, ∀ ctx payload r, Executes x .placeSlotHold ctx payload r →
      r = .ok (slotMissing ctx) ∧ x.inner = []) ∧
    ∀ tutorRef slot, ¬ HoldAsked entries tutorRef slot :=
  ⟨fun x hx => (h.holdsNothing x hx).fails, h.not_holdAsked⟩

end Agreed

/-- A worker that is answered plainly finds the conversation as it is. -/
theorem played_agreement {f : (o : Op) → World C → Except Exn o.Res × World C}
    (hf : ∀ o w, Answers o w (f o w).1 (f o w).2) {body : WorkBody} {a : World C × Record}
    {s : StateSnapshot} (hload : f (.load ref) a.1 = (.ok s, a.1))
    (hrouted : (routeBody cfg body s).trigger = some .slotAgreed) :
    ∃ entries, Agreement cfg ref body a s entries
      (play (S := ports) (fun _ => enact (components cfg) f) 0
        (handleInboundMessage cfg ref body) a).1
      (play (S := ports) (fun _ => enact (components cfg) f) 0
        (handleInboundMessage cfg ref body) a).2 := by
  have hrun : Run (serving C cfg ref) (handleInboundMessage cfg ref body) a
      (play (S := ports) (fun _ => enact (components cfg) f) 0
        (handleInboundMessage cfg ref body) a).1
      (play (S := ports) (fun _ => enact (components cfg) f) 0
        (handleInboundMessage cfg ref body) a).2 := run_enact (Apart.refl ref) hf _ a
  have hanswer : enact (components cfg) f (.load ref) a =
      (.ok s, a.1, a.2 ++ [⟨⟨.load ref, .ok s⟩, []⟩]) := by
    change ((f (.load ref) a.1).1, (f (.load ref) a.1).2,
      a.2 ++ [⟨⟨.load ref, (f (.load ref) a.1).1⟩, []⟩]) = _
    rw [hload]
  obtain ⟨k, hk⟩ : ∃ k, handleInboundMessage cfg ref body = .call (.load ref) k := ⟨_, rfl⟩
  have hrest := run_play (E := serving C cfg ref) (f := fun _ => enact (components cfg) f)
    (fun _ => enact_possible (Apart.refl ref) hf) 1 (k (.ok s))
    (a.1, a.2 ++ [⟨⟨.load ref, .ok s⟩, []⟩])
  obtain ⟨entries, hentries, -⟩ := Run.record hrest
  refine ⟨entries, hrun, ?_, hrouted⟩
  rw [hk, play, hanswer, hentries, List.append_assoc, List.singleton_append]

end Turn

/-! ## A button that was tapped -/

/-- The times that a call to propose some has put to the parent, the first one first. -/
def proposedIn (cfg : Config) (x : Entry ports Exn) : Option (List TimeSlot) :=
  match x.call, x.inner with
  | ⟨.execute .proposeSlots _ payload, .ok ⟨.ok outcome, _, _, _⟩⟩,
      [⟨.requestForConversation _, .ok request⟩, ⟨.now, .ok now⟩,
        ⟨.tutorAvailability _ _ _, .ok (.ok available)⟩] =>
    let request : Option DemoRequest := request
    let available : List TimeSlot := available
    let bookable := available.filter fun slot => (slot.bookableFrom now).isNone
    let timezone := (request.map (·.requirement.timezone)).getD "Asia/Kolkata"
    if outcome.failed then none
    else some ((rankSlots cfg bookable (payload.get "preferred_slot").slot? timezone now).map
      SlotProposal.slot)
  | _, _ => none

/-- The parent has chosen a tutor, and times have been proposed. -/
def choosing : List Task := introducing ++
  [.handle (occurs "4" .requirementsComplete .system),
    .handle (occurs "5" .matchSucceeded .system), .handle (occurs "6" .optionsPresented .system),
    .handle (occurs "7" .tutorChosen .user (Facts.ofList [("button_id", .str "tutor:1")]))]

def chosen : World InMemoryConversations × Record := reached plainConfig choosing

/-- The button of the first time is tapped. -/
def firstTapped : WorkBody where
  fields := Facts.ofList [("conversation_ref", .str "cv_c"), ("kind", .str "inbound_message"),
    ("event_id", .str "8"), ("button_id", .str "slot:1")]

/-- What the worker does about it, when everything works. -/
def tapped : Except Exn (Option TurnResult) × (World InMemoryConversations × Record) :=
  play (S := ports) (fun _ => enact (components plainConfig) World.obliging) 0
    (handleInboundMessage plainConfig "cv_c" firstTapped) chosen

/-- The conversation as the worker finds it. -/
def foundChosen : StateSnapshot := ConversationRepository.load chosen.1.conversations "cv_c"

theorem tapped_facts : foundChosen.state = .tutorSelected ∧
    foundChosen.facts.get "tutor_ref" = .str "tut_4" ∧
    (chosen.2.filterMap (proposedIn plainConfig)).getLast? = some [tuesday, wednesday] ∧
    (routeBody plainConfig firstTapped foundChosen).trigger = some .slotAgreed ∧
    (routeBody plainConfig firstTapped foundChosen).payload.get "ordinal" = .int 1 ∧
    (match tapped.1 with
      | .ok (some tr) => tr.accepted && !tr.duplicate
      | _ => false) = true := by
  decide +kernel

theorem tapped_agreement : ∃ entries, Agreement plainConfig "cv_c" firstTapped chosen foundChosen
    entries tapped.1 tapped.2 :=
  played_agreement answers_obliging rfl tapped_facts.2.2.2.1

/-- Nothing at all is held. -/
theorem tapped_nothing_held : ∃ entries,
    Agreement plainConfig "cv_c" firstTapped chosen foundChosen entries tapped.1 tapped.2 ∧
    (∀ x ∈ entries, ∀ ctx payload r, Executes x .placeSlotHold ctx payload r →
      r = .ok (slotMissing ctx) ∧ x.inner = []) ∧
    ∀ tutorRef slot, ¬ HoldAsked entries tutorRef slot := by
  obtain ⟨entries, h⟩ := tapped_agreement
  exact ⟨entries, h, agreed_not_held h⟩

/-- **The first of two times is agreed to, and is not held**: the tutor has been selected, Tuesday
and Wednesday have been proposed, the button of the first is routed to `SLOT_AGREED` with its
ordinal, and the turn is accepted. -/
theorem tapped_not_held : ∃ (deeds : List Deed) (body : WorkBody)
    (a b : World InMemoryConversations × Record) (s : StateSnapshot) (entries : Record)
    (tr : TurnResult), Path (Serves plainConfig "cv_c") (introduced, []) deeds a ∧
    Agreement plainConfig "cv_c" body a s entries (.ok (some tr)) b ∧
    s.state = .tutorSelected ∧ s.facts.get "tutor_ref" = .str "tut_4" ∧
    (a.2.filterMap (proposedIn plainConfig)).getLast? = some [tuesday, wednesday] ∧
    (routeBody plainConfig body s).payload.get "ordinal" = .int 1 ∧
    tr.accepted = true ∧ tr.duplicate = false ∧ ¬ HoldAsked entries "tut_4" tuesday := by
  have hchoosing : ∀ task ∈ choosing, task.Of "cv_c" := by decide
  obtain ⟨deeds, hrun⟩ : ∃ deeds, Path (Serves plainConfig "cv_c") (introduced, []) deeds chosen :=
    reached_path hchoosing
  obtain ⟨hstate, htutor, hproposed, -, hordinal, haccepted⟩ := tapped_facts
  obtain ⟨entries, h⟩ := tapped_agreement
  generalize hout : tapped.1 = out at h haccepted
  match out, haccepted with
  | .ok (some tr), haccepted =>
    rw [Bool.and_eq_true, Bool.not_eq_true'] at haccepted
    exact ⟨deeds, firstTapped, chosen, tapped.2, foundChosen, entries, tr, hrun, h, hstate, htutor,
      hproposed, hordinal, haccepted.1, haccepted.2, h.not_holdAsked "tut_4" tuesday⟩

end NxTutors.DemoAgent
