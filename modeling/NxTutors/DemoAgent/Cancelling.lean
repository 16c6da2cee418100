import NxTutors.DemoAgent.Drafts
import NxTutors.DemoAgent.Serving

/-!
# What a cancellation leaves behind

When a parent cancels, the row of the table asks for `notifyCancellation`, and has
`cancelCalendarEvent` as its compensation. The command writes a message and an event for the outbox,
and the compensation runs only if the command has failed. So a cancellation that goes well leaves
every booking as it was: nothing is booked after it exactly if nothing was booked before.
-/

namespace NxTutors.DemoAgent

open Effect

/-! ## Nothing is booked -/

/-- The calendar was asked to cancel the event. -/
def cancelRequested (record : Record) (eventId : String) : Bool :=
  record.any fun x => x.inner.any fun c =>
    match c with
    | ⟨.cancelEvent id, _⟩ => id = eventId
    | _ => false

/-- **Nothing is booked** for a conversation at a time: its demos are cancelled, and so are their
events, no hold of it is active and unexpired, and no reminder is to be sent. -/
structure NothingBooked {C : Type} (ref : String) (now : Time) (w : World C) (record : Record) :
    Prop where
  demos : ∀ d ∈ w.demos, d.conversationRef = ref → d.cancelled = true ∧
    ∀ id ∈ d.calendarEventId, id ≠ "" → cancelRequested record id = true
  holds : w.slots.activeHoldFor ref now = none
  reminders : ∀ r ∈ w.reminders, r.conversationRef = ref → r.status ≠ .pending

/-- A call that is no request to cancel an event. -/
def Op.sparesEvents : Op → Bool
  | .cancelEvent _ => false
  | _ => true

theorem cancelRequested_append {record entries : Record} {id : String}
    (h : ∀ x ∈ entries, ∀ c ∈ x.inner, c.1.sparesEvents = true) :
    cancelRequested (record ++ entries) id = cancelRequested record id := by
  have hnone : cancelRequested entries id = false := by
    rw [cancelRequested, List.any_eq_false]
    intro x hx hany
    obtain ⟨⟨o, r⟩, hc, hid⟩ := List.any_eq_true.mp hany
    cases o with
    | cancelEvent id' => cases h x hx _ hc
    | _ => cases hid
  rw [cancelRequested, List.any_append]
  exact (congrArg _ hnone).trans (Bool.or_false _)

section Frame

variable {C : Type} {ref : String} {a b : World C} {record record' : Record} {now : Time}

/-- Nothing is booked if nothing was, the rows of the conversation being left alone. -/
theorem NothingBooked.of_apart (h : NothingBooked ref now a record)
    (hdemos : b.demos.filter (·.conversationRef = ref) = a.demos.filter (·.conversationRef = ref))
    (hholds : b.slots.activeHoldFor ref now = a.slots.activeHoldFor ref now)
    (hreminders : b.reminders.filter (·.conversationRef = ref) =
      a.reminders.filter (·.conversationRef = ref))
    (hrecord : ∀ id, cancelRequested record' id = cancelRequested record id) :
    NothingBooked ref now b record' where
  demos d hd href := by
    have hmem : d ∈ b.demos.filter (·.conversationRef = ref) := List.mem_filter.mpr ⟨hd, by simpa⟩
    rw [hdemos] at hmem
    obtain ⟨hcancelled, hevents⟩ := h.demos d (List.mem_filter.mp hmem).1 href
    exact ⟨hcancelled, fun id hid hne => (hrecord id).trans (hevents id hid hne)⟩
  holds := hholds.trans h.holds
  reminders r hr href := by
    have hmem : r ∈ b.reminders.filter (·.conversationRef = ref) :=
      List.mem_filter.mpr ⟨hr, by simpa⟩
    rw [hreminders] at hmem
    exact h.reminders r (List.mem_filter.mp hmem).1 href

theorem nothingBooked_iff (h : Apart ref a b)
    (hrecord : ∀ id, cancelRequested record' id = cancelRequested record id) :
    NothingBooked ref now b record' ↔ NothingBooked ref now a record := by
  constructor
  · intro hb
    exact hb.of_apart h.demos.symm (h.activeHoldFor now).symm h.reminders.symm
      fun id => (hrecord id).symm
  · intro ha
    exact ha.of_apart h.demos (h.activeHoldFor now) h.reminders hrecord

end Frame

/-! ## What the command does -/

/-- A call that leaves everything booked. -/
def Op.leavesBookings (o : Op) : Prop := o.still = true ∧ o.sparesEvents = true

theorem emit_leavesBookings {cfg : Config} {event : DomainEvent} {entries : List (String × Value)}
    {h : History ports Exn} {ctx : TurnContext} :
    Cmd.Does Op.leavesBookings (fun _ _ _ => True) h ctx (emit cfg event entries) := by
  refine .context (.call_bind ⟨rfl, rfl⟩ (fun outboxId => ?_) fun _ => trivial)
  exact .call_bind ⟨rfl, rfl⟩ (fun _ => .pure trivial) fun _ => trivial

/-- **The command of a cancellation leaves everything booked.** -/
theorem notifyCancellation_leavesBookings {cfg : Config} {h : History ports Exn}
    {ctx : TurnContext} :
    Cmd.Does Op.leavesBookings (fun _ _ _ => True) h ctx (notifyCancellation cfg) := by
  refine .context (.call_bind ⟨rfl, rfl⟩ (fun (demo : Option Demo) => ?_) fun _ => trivial)
  refine .queue_bind ?_ fun _ => trivial
  exact emit_leavesBookings.bind (fun _ _ _ _ => .pure trivial) fun _ _ _ _ => trivial

theorem execute_leavesBookings {cfg : Config} {ctx : TurnContext} {payload : Facts} :
    (execute cfg .notifyCancellation ctx payload).GuardedTo (fun _ (o : Op) => o.leavesBookings)
      (fun _ _ => True) [] :=
  Prog.GuardedTo.bind notifyCancellation_leavesBookings fun _ _ _ => trivial

/-- What is sent leaves everything booked. -/
theorem SendCall.sparesEvents {m : OutboundMessage} {o : Op} (ho : SendCall m o) :
    o.sparesEvents = true := by
  cases ho <;> rfl

/-! ## What the turn does -/

/-- A call that was the execution of a command that failed. -/
def failedCall : Call ports Exn → Bool
  | ⟨.execute .., r⟩ => (outcomeOf (endedWith r)).failed
  | _ => false

/-- The row of the trigger has the one command. -/
theorem command_of_cancelled {s : StateSnapshot} {e : Event} {facts : Facts}
    {result : TransitionResult} (htrigger : e.trigger = .cancelledByUser)
    (h : fire s e.trigger e.actor facts = .ok result) : result.command = .notifyCancellation := by
  obtain ⟨row, hrow, -, hrowTrigger, -, rfl⟩ := fire_lawful h
  have hcommands : ∀ row ∈ TRANSITIONS, row.trigger = .cancelledByUser →
      row.command = .notifyCancellation := by decide
  exact hcommands row hrow (hrowTrigger.trans htrigger)

/-- In the turn of a cancellation in which no command fails, only the command of its row is
executed. -/
theorem TurnCall.of_cancelled {e : Event} {h : History ports Exn} {o : Op}
    (htrigger : e.trigger = .cancelledByUser) (ho : TurnCall e h o)
    (hworks : ∀ c ∈ h, failedCall c = false) : o.still = true ∨ (∃ m, o = .send m) ∨
      ∃ ctx payload, o = .execute .notifyCancellation ctx payload := by
  rcases ho.still with hstill | hsend | ⟨command, ctx, payload, rfl⟩
  · exact .inl hstill
  · exact .inr (.inl hsend)
  · cases ho with
    | quiet hquiet => cases hquiet
    | command hcmd hne =>
      obtain ⟨s, hfire⟩ := hcmd.granted
      rw [command_of_cancelled htrigger hfire]
      exact .inr (.inr ⟨_, _, rfl⟩)
    | compensate hcmd hlast hfailed hne =>
      have hcall := hworks _ (hlast ▸ List.mem_append_right _ (List.mem_singleton_self _))
      exact absurd (hcall.symm.trans hfailed) Bool.false_ne_true

section Turn

variable {C : Type} [ConversationRepository C] {cfg : Config} {ref : String}

/-- Whatever such a turn does leaves everything booked. -/
theorem Happens.leavesBookings {e : Event} {h : History ports Exn} {x : Entry ports Exn}
    {a b : World C} (htrigger : e.trigger = .cancelledByUser) (hx : TurnCall e h x.call.1)
    (hworks : ∀ c ∈ h, failedCall c = false) (hhappens : Happens cfg ref a x b) :
    Apart ref a b ∧ ∀ c ∈ x.inner, c.1.sparesEvents = true := by
  rcases hx.of_cancelled htrigger hworks with hstill | ⟨m, hm⟩ | ⟨ctx, payload, hexec⟩
  · obtain ⟨hapart, hinner⟩ := apart_of_entry hhappens hstill
    exact ⟨hapart, fun c hc => absurd (hinner ▸ hc) List.not_mem_nil⟩
  · obtain ⟨hapart, hinner⟩ := apart_of_send hhappens hm
    exact ⟨hapart, fun c hc => (hinner c hc).sparesEvents⟩
  · obtain ⟨⟨o, r⟩, inner⟩ := x
    obtain rfl : o = .execute .notifyCancellation ctx payload := hexec
    obtain ⟨hapart, hinner⟩ := apart_of_part hhappens rfl execute_leavesBookings fun _ ho => ho.1
    exact ⟨hapart, fun c hc => (hinner c hc).2⟩

/-- **A cancellation that goes well leaves everything booked.** -/
theorem TurnRecord.leavesBookings {e : Event} {a b : World C} {entries : Record}
    {out : Except Exn TurnResult} (htrigger : e.trigger = .cancelledByUser)
    (h : TurnRecord cfg e a entries out b) (hworks : ∀ x ∈ entries, failedCall x.call = false) :
    Apart e.conversationRef a b ∧ ∀ x ∈ entries, ∀ c ∈ x.inner, c.1.sparesEvents = true := by
  refine Path.invariant_allowed (I := fun past t => (∀ x ∈ past, failedCall x.call = false) →
    Apart e.conversationRef a t ∧ ∀ x ∈ past, ∀ c ∈ x.inner, c.1.sparesEvents = true)
    h.path h.calls (fun _ => ⟨Apart.refl _ _, fun _ hx => absurd hx List.not_mem_nil⟩)
    (fun past x t u ih hx hhappens hworks => ?_) hworks
  obtain ⟨hapart, hpast⟩ := ih fun y hy => hworks y (List.mem_append_left _ hy)
  have hmade : ∀ c ∈ past.map Entry.call, failedCall c = false := by
    intro c hc
    obtain ⟨y, hy, rfl⟩ := List.mem_map.mp hc
    exact hworks y (List.mem_append_left _ hy)
  obtain ⟨hstep, hinner⟩ := Happens.leavesBookings htrigger hx hmade hhappens
  refine ⟨hapart.trans hstep, fun y hy => ?_⟩
  rcases List.mem_append.mp hy with hy | hy
  · exact hpast y hy
  · obtain rfl := List.mem_singleton.mp hy
    exact hinner

/-- **A cancellation that goes well**: in a state that a run has reached, the parent or an operator
cancels, the event is accepted, and no command fails. -/
structure Cancelling (cfg : Config) (ref : String) (e : Event) (tr : TurnResult)
    (a b : World C × Record) : Prop where
  reached : ∃ w deeds, Path (Serves cfg ref) (w, []) deeds a
  turn : Serves cfg ref a (.turn e (.ok tr)) b
  trigger : e.trigger = .cancelledByUser
  accepted : tr.accepted = true
  fresh : tr.duplicate = false
  works : ∀ x ∈ b.2.drop a.2.length, failedCall x.call = false

/-- **Nothing is booked after a cancellation exactly if nothing was booked before**, as of the time
at which it has been dealt with. -/
theorem cancelled_nothing_booked_iff {e : Event} {tr : TurnResult} {a b : World C × Record}
    (h : Cancelling cfg ref e tr a b) :
    NothingBooked ref b.1.clock b.1 b.2 ↔ NothingBooked ref b.1.clock a.1 a.2 := by
  obtain ⟨rfl, entries, hrecord, hturn⟩ := h.turn.turn_record
  have hworks := h.works
  rw [hrecord, List.drop_left] at hworks
  obtain ⟨hapart, hspares⟩ := hturn.leavesBookings h.trigger hworks
  refine nothingBooked_iff hapart fun id => ?_
  rw [hrecord]
  exact cancelRequested_append hspares

end Turn

/-! ## Two cancellations -/

/-- The deed that ends some tasks is a turn, and went well. -/
def wentWell (a : World InMemoryConversations × Record)
    (done : Deed × (World InMemoryConversations × Record)) : Bool :=
  match done.1 with
  | .turn _ (.ok tr) =>
    tr.accepted && !tr.duplicate && (done.2.2.drop a.2.length).all fun x => !failedCall x.call
  | _ => false

/-- Where some tasks lead. -/
def ledBy (tasks : List Task) : World InMemoryConversations × Record :=
  (attendAll plainConfig World.obliging (introduced, []) tasks).2

/-- A cancellation after some tasks. -/
def cancelledAfter (tasks : List Task) : Deed × (World InMemoryConversations × Record) :=
  attend plainConfig World.obliging (ledBy tasks) (.handle (occurs "0" .cancelledByUser .user))

theorem cancelling_after (tasks : List Task) (htasks : ∀ task ∈ tasks, task.Of "cv_c")
    (hwell : wentWell (ledBy tasks) (cancelledAfter tasks) = true) : ∃ e tr,
      Cancelling plainConfig "cv_c" e tr (ledBy tasks) (cancelledAfter tasks).2 := by
  have htask : Task.Of "cv_c" (.handle (occurs "0" .cancelledByUser .user)) := by decide
  have hserves : Serves plainConfig "cv_c" (ledBy tasks) (cancelledAfter tasks).1
      (cancelledAfter tasks).2 := attend_serves answers_obliging htask _
  have hrun : Path (Serves plainConfig "cv_c") (introduced, []) _ (ledBy tasks) :=
    attendAll_path answers_obliging htasks _
  have hdeed : ∃ out, (cancelledAfter tasks).1 = .turn (occurs "0" .cancelledByUser .user) out :=
    ⟨_, rfl⟩
  obtain ⟨out, hout⟩ := hdeed
  rw [wentWell, hout] at hwell
  rw [hout] at hserves
  cases out with
  | error exn => cases hwell
  | ok tr =>
    simp only [Bool.and_eq_true, Bool.not_eq_true', List.all_eq_true] at hwell
    obtain ⟨⟨haccepted, hfresh⟩, hworks⟩ := hwell
    exact ⟨_, tr, ⟨_, _, hrun⟩, hserves, rfl, haccepted, hfresh, hworks⟩

theorem introducing_nothing_booked : ∃ (e : Event) (tr : TurnResult)
    (a b : World InMemoryConversations × Record), Cancelling plainConfig "cv_c" e tr a b ∧
    NothingBooked "cv_c" b.1.clock b.1 b.2 := by
  obtain ⟨e, tr, hcancelling⟩ := cancelling_after introducing (by decide) (by decide +kernel)
  refine ⟨e, tr, _, _, hcancelling, (cancelled_nothing_booked_iff hcancelling).mpr ?_⟩
  exact ⟨by decide +kernel, by decide +kernel, by decide +kernel⟩

/-- **The parent cancels, and the time stays held**: the hold is active and unexpired, and the demo
is not cancelled. -/
theorem agreeing_stays_booked : ∃ (e : Event) (tr : TurnResult)
    (a b : World InMemoryConversations × Record), Cancelling plainConfig "cv_c" e tr a b ∧
    ¬ NothingBooked "cv_c" b.1.clock b.1 b.2 := by
  have hrun : wentWell (ledBy agreeing) (cancelledAfter agreeing) = true ∧
      let b := (cancelledAfter agreeing).2.1
      (b.slots.activeHoldFor "cv_c" b.clock).isSome ∧ ∃ d ∈ b.demos, d.cancelled = false := by
    decide +kernel
  obtain ⟨hwell, hheld, -⟩ := hrun
  obtain ⟨e, tr, hcancelling⟩ := cancelling_after agreeing (by decide) hwell
  refine ⟨e, tr, _, _, hcancelling, fun hnothing => ?_⟩
  rw [hnothing.holds] at hheld
  cases hheld

end NxTutors.DemoAgent
