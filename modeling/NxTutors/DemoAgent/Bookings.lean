import NxTutors.DemoAgent.Drafts
import NxTutors.DemoAgent.World
import NxTutors.Effect.Path

/-!
# One event for each demo

To book a demo an event is created, the hold is confirmed, and the demo is saved with the event. A
demo that carries an event is moved, and its event is patched. So a demo has one event, unless an
attempt ends between the event and the save: the row does not know of the event, the calendar does,
and the next attempt creates another one. The calendar would recognise a request it has seen before,
but an attempt makes up the name of its request, so no two attempts make the same one.

`one_event_if_clean` says that nothing else can go wrong: as long as no attempt starts while an
event is left over that the row does not know of, there is at most one event at every moment, and it
is the one in the row. `settled_clean` says how to leave nothing over.
-/

namespace NxTutors.DemoAgent

open Effect

/-! ## The calendar and the row -/

/-- An event that was created for the demo. -/
structure DeskEvent where
  eventId : String
  requestId : String
  cancelled : Bool := false
  deriving DecidableEq, Repr

/-- The row of a demo, and the events that were created for it. -/
structure Desk where
  demo : Demo
  events : List DeskEvent := []

namespace Desk

/-- The events that have not been cancelled. -/
def live (a : Desk) : List DeskEvent := a.events.filter fun e => !e.cancelled

/-- Create an event, unless the request has been seen before. -/
def create (a : Desk) (requestId eventId : String) : Desk :=
  if a.events.any fun e => e.requestId = requestId then a
  else { a with events := a.events ++ [{ eventId, requestId }] }

/-- Cancel an event. -/
def cancel (a : Desk) (eventId : String) : Desk :=
  { a with events := a.events.map fun e =>
      if e.eventId = eventId then { e with cancelled := true } else e }

/-- Save the row. -/
def save (a : Desk) (demo : Demo) : Desk :=
  if demo.demoId = a.demo.demoId then { a with demo } else a

/-- The row carries an event. -/
def Carries (a : Desk) (eventId : String) : Prop :=
  a.demo.calendarEventId = some eventId ∧ eventId ≠ ""

/-- **At most one event is live, and if the row carries an event, it is that one.** -/
structure OneEvent (a : Desk) : Prop where
  one : a.live.length ≤ 1
  known : ∀ eventId, a.Carries eventId → a.live.map DeskEvent.eventId = [eventId]

/-- If the row carries no event, none is left over. -/
def Clean (a : Desk) : Prop := Requirement.present a.demo.calendarEventId = true ∨ a.live = []

/-- What a call may be answered, and what it leaves. Any call may raise; whatever is not answered
may have been done all the same. -/
def Answers : (o : Op) → Desk → Except Exn o.Res → Desk → Prop
  | .demoForConversation _, a, r, b => b = a ∧ ∀ demo, r = .ok (some demo) → demo = a.demo
  | .newId _, a, r, b => b = a ∧ ∀ id, r = .ok id → ∀ e ∈ a.events, e.requestId ≠ id
  | .createEvent _ _ _ _ _ requestId _, a, r, b =>
    (b = a ∨ ∃ eventId, b = a.create requestId eventId) ∧
      ∀ created, r = .ok (.ok created) → created.eventId ≠ "" →
        ∃ e ∈ b.events, e.requestId = requestId ∧ e.eventId = created.eventId
  | .cancelEvent eventId, a, r, b => b = a.cancel eventId ∨ (r ≠ .ok (.ok ()) ∧ b = a)
  | .saveDemo demo, a, r, b => b = a.save demo ∨ ((∃ e, r = .error e) ∧ b = a)
  | _, a, _, b => b = a

/-- Whatever is asked for after an event has been created is done, and nothing is created that is
not answered with an event. -/
def Settles : (o : Op) → Desk → Except Exn o.Res → Desk → Prop
  | .createEvent .., a, r, b => b = a ∨ ∃ created, r = .ok (.ok created) ∧ created.eventId ≠ ""
  | .cancelEvent eventId, a, _, b => b = a.cancel eventId
  | .slots ⟨_, .confirm _⟩, _, r, _ => ∃ x, r = .ok x
  | .saveDemo demo, a, _, b => b = a.save demo
  | _, _, _, _ => True

end Desk

/-! ## What is done to the events -/

namespace Desk

variable {a b : Desk} {requestId eventId : String}

theorem events_create (hfresh : ∀ e ∈ a.events, e.requestId ≠ requestId) :
    (a.create requestId eventId).events =
      a.events ++ [{ eventId := eventId, requestId := requestId }] := by
  have hunseen : ¬ (a.events.any fun e => e.requestId = requestId) = true := by
    rintro hseen
    obtain ⟨e, he, hsame⟩ := List.any_eq_true.mp hseen
    exact hfresh e he (of_decide_eq_true hsame)
  rw [create, if_neg hunseen]

theorem live_create (hfresh : ∀ e ∈ a.events, e.requestId ≠ requestId) :
    (a.create requestId eventId).live =
      a.live ++ [{ eventId := eventId, requestId := requestId }] := by
  rw [live, events_create hfresh, List.filter_append]
  rfl

theorem demo_create : (a.create requestId eventId).demo = a.demo := by
  rw [create]
  split <;> rfl

theorem live_cancel : (a.cancel eventId).live = a.live.filter fun e => e.eventId ≠ eventId := by
  rw [live, live, cancel]
  induction a.events with
  | nil => rfl
  | cons e rest ih =>
    rw [List.map_cons]
    by_cases hsame : e.eventId = eventId
    · cases hcancelled : e.cancelled <;> simp [hsame, hcancelled, ih]
    · cases hcancelled : e.cancelled <;> simp [hsame, hcancelled, ih]

theorem save_of_same {demo : Demo} (h : demo.demoId = a.demo.demoId) :
    a.save demo = { a with demo } := if_pos h

theorem not_carries (hrow : Requirement.present a.demo.calendarEventId = false) :
    ¬ a.Carries eventId := by
  rintro ⟨hid, hne⟩
  rw [hid] at hrow
  simp [Requirement.present, hne] at hrow

/-- Where the row carries no event, it is enough that one is live at most. -/
theorem oneEvent_of_unknown (hrow : Requirement.present a.demo.calendarEventId = false)
    (hone : a.live.length ≤ 1) : OneEvent a :=
  ⟨hone, fun _ h => absurd h (not_carries hrow)⟩

end Desk

/-! ## An attempt -/

open Desk (OneEvent Clean Settles)

/-- The desk, which nobody else moves, and whose steps are as `P` says. -/
def deskSetting (P : (o : Op) → Desk → Except Exn o.Res → Desk → Prop) : Setting ports Exn Desk :=
  ⟨fun o a r b => Desk.Answers o a r b ∧ P o a r b, Eq⟩

/-- A call that neither creates nor cancels an event, nor saves the row. -/
def Op.idle : Op → Bool
  | .createEvent .. | .cancelEvent _ | .saveDemo _ => false
  | _ => true

theorem Desk.Answers.idle {o : Op} {a b : Desk} {r : Except Exn o.Res} (h : Desk.Answers o a r b)
    (ho : o.idle = true) : b = a := by
  cases o with
  | createEvent | cancelEvent | saveDemo => cases ho
  | demoForConversation | newId => exact h.1
  | _ => exact h

section Attempts

variable {cfg : Config} {P : (o : Op) → Desk → Except Exn o.Res → Desk → Prop} {a b : Desk}
  {ctx : TurnContext} {α β : Type}

/-- What an attempt leaves: at most one event, and none left over if everything that was asked for
was done. -/
structure Sound (P : (o : Op) → Desk → Except Exn o.Res → Desk → Prop) (a : Desk) : Prop where
  one : OneEvent a
  clean : (∀ o a r b, P o a r b → Settles o a r b) → Clean a

/-- A call that leaves the desk alone, and what comes after it. -/
theorem meets_idle_bind {o : Op} {f : o.Res → Act β} {Q : Except Exn β → Desk → Prop}
    (ho : o.idle = true) (hone : OneEvent a)
    (hok : ∀ x, Desk.Answers o a (.ok x) a → P o a (.ok x) a →
      Meets (deskSetting P) (fun _ b => OneEvent b) Q (f x) a)
    (herr : ∀ e, P o a (.error e) a → Q (.error e) a) :
    Meets (deskSetting P) (fun _ b => OneEvent b) Q (ask o >>= f) a := by
  refine Meets.perform_bind (S := ports) fun w hmove r b hans => ?_
  obtain rfl : a = w := hmove
  obtain ⟨hans, hstep⟩ := hans
  obtain rfl := hans.idle ho
  refine ⟨hone, ?_, ?_⟩
  · rintro x rfl
    exact hok x hans hstep
  · rintro e rfl
    exact herr e hstep

/-- The same of a command. -/
theorem meets_idle_call {o : Op} {f : o.Res → Cmd β} (ho : o.idle = true) (hsound : Sound P a)
    (hok : ∀ x, Desk.Answers o a (.ok x) a →
      Meets (deskSetting P) (fun _ b => OneEvent b) (fun _ b => Sound P b) (f x ctx) a) :
    Meets (deskSetting P) (fun _ b => OneEvent b) (fun _ b => Sound P b) ((Cmd.call o >>= f) ctx) a := by
  refine Cmd.meets_call_bind fun w hmove r b hans => ?_
  obtain rfl : a = w := hmove
  obtain ⟨hans, -⟩ := hans
  obtain rfl := hans.idle ho
  refine ⟨hsound.one, ?_, fun _ _ => hsound⟩
  rintro x rfl
  exact hok x hans

/-- A part of a command all of whose calls leave the desk alone. -/
theorem meets_idle_part {c : Cmd α} {f : α → Cmd β} (hsound : Sound P a)
    (hc : Cmd.Does (fun o => o.idle = true) (fun _ _ _ => True) [] ctx c)
    (hok : ∀ x ctx', Meets (deskSetting P) (fun _ b => OneEvent b) (fun _ b => Sound P b) (f x ctx') a) :
    Meets (deskSetting P) (fun _ b => OneEvent b) (fun _ b => Sound P b) ((c >>= f) ctx) a := by
  have hidle : ∀ {p : Act (Except Exn α × TurnContext)} {h : History ports Exn},
      p.GuardedTo (fun _ (o : Op) => o.idle = true) (fun _ _ => True) h →
        Meets (deskSetting P) (fun _ b => OneEvent b) (fun _ b => b = a) p a := by
    intro p
    induction p with
    | ret | throw => exact fun _ => rfl
    | call o k ih =>
      rintro h ⟨ho, hk⟩ w hmove r b ⟨hans, -⟩
      obtain rfl : a = w := hmove
      obtain rfl := hans.idle ho
      exact ⟨hsound.one, ih r (hk r)⟩
  refine (hidle hc).bind (fun x b hb => ?_) fun _ _ hb => hb ▸ hsound
  obtain ⟨r, ctx'⟩ := x
  subst hb
  cases r with
  | ok x => exact hok x ctx'
  | error e => exact hsound

/-- What is left of an attempt that has found no event in the row. -/
theorem sound_of_unknown (hrow : Requirement.present a.demo.calendarEventId = false)
    (hone : a.live.length ≤ 1)
    (hclean : (∀ o a r b, P o a r b → Settles o a r b) → a.live = []) : Sound P a :=
  ⟨Desk.oneEvent_of_unknown hrow hone, fun h => .inr (hclean h)⟩

/-- Once the event has been created, the hold is confirmed, and the row is saved. -/
theorem confirmed_meets {now : Time} {hold : SlotHold} {booked : Demo} {result : BookingResult}
    {e : DeskEvent} (hrow : Requirement.present a.demo.calendarEventId = false)
    (hlive : a.live = [e]) (hid : booked.demoId = a.demo.demoId)
    (hbooked : booked.calendarEventId = some e.eventId) (hne : e.eventId ≠ "") :
    Meets (deskSetting P) (fun _ b => OneEvent b) (fun _ b => Sound P b)
      (do
        let _ ← ask (.slots ⟨now, .confirm hold.holdId⟩)
        ask (.saveDemo booked)
        pure result) a := by
  have hone : a.live.length ≤ 1 := by rw [hlive]; exact le_rfl
  refine meets_idle_bind rfl (Desk.oneEvent_of_unknown hrow hone) (fun _ _ _ => ?_) fun e hstep => ?_
  · refine Meets.perform_bind (S := ports) fun w hmove r b hans => ?_
    obtain rfl : a = w := hmove
    obtain ⟨hans, hstep⟩ := hans
    have hsaved : Sound P (a.save booked) := by
      rw [Desk.save_of_same hid]
      refine ⟨⟨hone, fun id hcarries => ?_⟩, fun _ => .inl ?_⟩
      · obtain rfl := Option.some.inj (hbooked.symm.trans hcarries.1)
        exact congrArg (List.map DeskEvent.eventId) hlive
      · simp [Requirement.present, hbooked, hne]
    have hsound : Sound P b := by
      rcases hans with rfl | ⟨-, rfl⟩
      · exact hsaved
      · refine ⟨Desk.oneEvent_of_unknown hrow hone, fun hsettles => ?_⟩
        rw [hsettles _ _ _ _ hstep]
        exact hsaved.clean hsettles
    exact ⟨hsound.one, fun _ _ => hsound, fun _ _ => hsound⟩
  · refine ⟨Desk.oneEvent_of_unknown hrow hone, fun hsettles => ?_⟩
    obtain ⟨x, hx⟩ := hsettles _ _ _ _ hstep
    cases hx

/-- Where there is no link, the event is cancelled. -/
theorem cancelled_meets {f : Except ProviderError Unit → Act BookingResult} {e : DeskEvent}
    (hrow : Requirement.present a.demo.calendarEventId = false) (hlive : a.live = [e])
    (hf : ∀ answer b, Sound P b →
      Meets (deskSetting P) (fun _ b => OneEvent b) (fun _ b => Sound P b) (f answer) b) :
    Meets (deskSetting P) (fun _ b => OneEvent b) (fun _ b => Sound P b)
      (ask (.cancelEvent e.eventId) >>= f) a := by
  refine Meets.perform_bind (S := ports) fun w hmove r b hans => ?_
  obtain rfl : a = w := hmove
  obtain ⟨hans, hstep⟩ := hans
  have hcancelled : (a.cancel e.eventId).live = [] := by
    rw [Desk.live_cancel, hlive]
    simp
  have hsound : Sound P b := by
    rcases hans with rfl | ⟨-, rfl⟩
    · refine sound_of_unknown hrow ?_ fun _ => hcancelled
      rw [hcancelled]
      exact Nat.zero_le 1
    · refine sound_of_unknown hrow (by rw [hlive]; exact le_rfl) fun hsettles => ?_
      rw [hsettles _ _ _ _ hstep]
      exact hcancelled
  exact ⟨hsound.one, fun answer _ => hf answer b hsound, fun _ _ => hsound⟩

/-- The time is checked once more. -/
theorem revalidate_idle {hold : SlotHold} (hone : OneEvent a) :
    Meets (deskSetting P) (fun _ b => OneEvent b) (fun _ b => b = a) (revalidate hold) a := by
  refine meets_idle_bind (o := Op.tutorAvailability ..) rfl hone
    (fun (answer : Except ProviderError (List TimeSlot)) _ _ => ?_) fun _ _ => rfl
  cases answer with
  | error _ => rfl
  | ok _ => rfl

/-- What a calendar has created that has not seen the request before. -/
theorem Desk.Answers.created {slot : TimeSlot} {summary description requestId : String}
    {attendees : List String} {online : Bool} {location : Option String} {r : Except Exn _}
    (h : Desk.Answers (.createEvent slot summary description attendees online requestId location)
      a r b) (hfresh : ∀ e ∈ a.events, e.requestId ≠ requestId) :
    b.demo = a.demo ∧
      (b.live = a.live ∨ ∃ e : DeskEvent, b.live = a.live ++ [e]) ∧
      ∀ created, r = .ok (.ok created) → created.eventId ≠ "" →
        ∃ e : DeskEvent, b.live = a.live ++ [e] ∧ e.eventId = created.eventId := by
  obtain ⟨hdone, hanswer⟩ := h
  rcases hdone with rfl | ⟨eventId, rfl⟩
  · refine ⟨rfl, .inl rfl, fun created hr hne => ?_⟩
    obtain ⟨e, he, hrequest, -⟩ := hanswer created hr hne
    exact absurd hrequest (hfresh e he)
  · refine ⟨Desk.demo_create, .inr ⟨_, Desk.live_create hfresh⟩, fun created hr hne => ?_⟩
    obtain ⟨e, he, hrequest, hid⟩ := hanswer created hr hne
    refine ⟨_, Desk.live_create hfresh, ?_⟩
    rw [Desk.events_create hfresh] at he
    rcases List.mem_append.mp he with he | he
    · exact absurd hrequest (hfresh e he)
    · obtain rfl := List.mem_singleton.mp he
      exact hid

/-- **A booking leaves at most one event.** -/
theorem book_sound {hold : SlotHold} {tutorEmail studentEmail : Option String}
    {summary description : String} (hrow : Requirement.present a.demo.calendarEventId = false)
    (hlive : a.live = []) :
    Meets (deskSetting P) (fun _ b => OneEvent b) (fun _ b => Sound P b)
      (book cfg a.demo hold tutorEmail studentEmail summary description) a := by
  have hsound : Sound P a :=
    sound_of_unknown hrow (by rw [hlive]; exact Nat.zero_le 1) fun _ => hlive
  refine meets_idle_bind (o := Op.now) rfl hsound.one (fun (now : Time) _ _ => ?_) fun _ _ => hsound
  split
  · exact hsound
  refine (revalidate_idle hsound.one).bind (fun free b hb => ?_) fun _ b hb => hb ▸ hsound
  subst hb
  split
  · exact hsound
  refine meets_idle_bind (o := Op.newId "nxt") rfl hsound.one
    (fun (requestId : String) hfresh _ => ?_) fun _ _ => hsound
  refine Meets.perform_bind (S := ports) (o := Op.createEvent ..) fun w hmove r c hans => ?_
  obtain rfl : b = w := hmove
  obtain ⟨hans, hstep⟩ := hans
  obtain ⟨hdemo, hdone, hcreated⟩ := hans.created (hfresh.2 requestId rfl)
  rw [hlive] at hdone hcreated
  have hrow' : Requirement.present c.demo.calendarEventId = false := by rw [hdemo]; exact hrow
  have hone : c.live.length ≤ 1 := by
    rcases hdone with h | ⟨e, h⟩
    · rw [h]; exact Nat.zero_le 1
    · rw [h]; exact le_rfl
  -- if no event is answered, whatever there is has not been asked for
  have hnone : (∀ created, r = .ok (.ok created) → created.eventId = "") → Sound P c := by
    intro hanswer
    refine sound_of_unknown hrow' hone fun hsettles => ?_
    rcases hsettles _ _ _ _ hstep with rfl | ⟨created, hr, hne⟩
    · exact hlive
    · exact absurd (hanswer created hr) hne
  refine ⟨Desk.oneEvent_of_unknown hrow' hone, ?_, ?_⟩
  · rintro answer rfl
    rcases answer with failure | (created : CreatedEvent)
    · exact hnone fun created heq => by cases heq
    · by_cases hid : created.eventId = ""
      · change Meets _ _ _ (if created.eventId = "" then _ else _) c
        rw [if_pos hid]
        exact hnone fun _ heq => by cases heq; exact hid
      · change Meets _ _ _ (if created.eventId = "" then _ else _) c
        rw [if_neg hid]
        obtain ⟨e, hlive', he⟩ := hcreated created rfl hid
        extract_lets meetUrl
        clear_value meetUrl
        split
        · rw [← he]
          refine cancelled_meets hrow' hlive' fun answer d hd => ?_
          cases answer with
          | error _ => exact hd
          | ok _ => exact hd
        · refine confirmed_meets hrow' hlive' ?_ ?_ (he ▸ hid)
          · rw [hdemo]; rfl
          · rw [he]; rfl
  · rintro exn rfl
    exact hnone fun created heq => by cases heq

/-- **A demo that is moved keeps its event.** -/
theorem reschedule_sound {slot : TimeSlot} (hone : OneEvent a)
    (hrow : Requirement.present a.demo.calendarEventId = true) :
    Meets (deskSetting P) (fun _ b => OneEvent b) (fun _ b => Sound P b) (reschedule a.demo slot) a := by
  have hsound : Sound P a := ⟨hone, fun _ => .inl hrow⟩
  refine meets_idle_bind (o := Op.now) rfl hone (fun _ _ _ => ?_) fun _ _ => hsound
  split
  · exact hsound
  split
  · exact hsound
  refine meets_idle_bind (o := Op.patchEvent ..) rfl hone
    (fun (answer : Except ProviderError Unit) _ _ => ?_) fun _ _ => hsound
  cases answer with
  | error _ => exact hsound
  | ok _ =>
    refine Meets.perform_bind (S := ports) (o := Op.saveDemo _) fun w hmove r b hans => ?_
    obtain rfl : a = w := hmove
    have hsame : (a.demo.withSlot slot).demoId = a.demo.demoId := rfl
    have hsaved : Sound P b := by
      rcases hans.1 with rfl | ⟨-, rfl⟩
      · rw [Desk.save_of_same hsame]
        exact ⟨⟨hone.one, fun id hcarries => hone.known id hcarries⟩, fun _ => .inl hrow⟩
      · exact hsound
    exact ⟨hsaved.one, fun _ _ => hsaved, fun _ _ => hsaved⟩

theorem namedHold_idle {h : History ports Exn} :
    Cmd.Does (fun o => o.idle = true) (fun _ _ _ => True) h ctx (namedHold ctx) := by
  rw [namedHold]
  split
  · exact .pure trivial
  · refine .call_bind rfl (fun answer => ?_) fun _ => trivial
    split <;> exact .pure trivial

theorem inviteEmails_idle {demo : Demo} {h : History ports Exn} :
    Cmd.Does (fun o => o.idle = true) (fun _ _ _ => True) h ctx (inviteEmails demo) := by
  have haddress : Cmd.Does (fun o => o.idle = true) (fun _ _ _ => True) h ctx
      (tutorAddress demo) := by
    rw [tutorAddress]
    split
    · exact .pure trivial
    · split
      · exact .pure trivial
      · refine .call_bind rfl (fun (answer : Except ProviderError (Option String)) => ?_)
          fun _ => trivial
        cases answer <;> exact .pure trivial
  exact haddress.bind (fun _ _ _ _ => .pure trivial) fun _ _ _ _ => trivial

theorem emit_idle {event : DomainEvent} {entries : List (String × Value)} {h : History ports Exn} :
    Cmd.Does (fun o => o.idle = true) (fun _ _ _ => True) h ctx (emit cfg event entries) := by
  refine .context (.call_bind rfl (fun _ => ?_) fun _ => trivial)
  exact .call_bind rfl (fun _ => .pure trivial) fun _ => trivial

/-- What is left of a command once the row is right. -/
theorem announced_sound {entries : List (String × Value)} {event : DomainEvent}
    {payload : List (String × Value)} {outcome : CommandOutcome} (hsound : Sound P a) :
    Meets (deskSetting P) (fun _ b => OneEvent b) (fun _ b => Sound P b)
      ((do
        Cmd.merge entries
        emit cfg event payload
        pure outcome : Cmd CommandOutcome) ctx) a :=
  meets_idle_part hsound (.modify trivial) fun _ _ =>
    meets_idle_part hsound emit_idle fun _ _ => hsound

/-- **To move a demo leaves its event.** -/
theorem patchEvent_sound {hold : SlotHold} (hone : OneEvent a)
    (hrow : Requirement.present a.demo.calendarEventId = true) :
    Meets (deskSetting P) (fun _ b => OneEvent b) (fun _ b => Sound P b)
      (patchEvent cfg a.demo hold ctx) a := by
  refine Cmd.meets_context_bind ?_
  refine Cmd.meets_lift_bind (reschedule_sound hone hrow) (fun result b hb => ?_) fun _ _ hb => hb
  obtain ⟨_ | moved, eventId, meetUrl, _ | _, reason⟩ := result
  · exact hb
  · exact hb
  · exact meets_idle_call (o := Op.slots ..) rfl hb fun _ _ => announced_sound hb
  · exact hb

/-- **An attempt leaves at most one event**, if it does not start with one left over. -/
theorem createEvent_sound (hone : OneEvent a) (hclean : Clean a) :
    Meets (deskSetting P) (fun _ b => OneEvent b) (fun _ b => Sound P b) (createEvent cfg ctx) a := by
  have hsound : Sound P a := ⟨hone, fun _ => hclean⟩
  refine Cmd.meets_context_bind ?_
  refine meets_idle_call (o := Op.demoForConversation _) rfl hsound
    (fun (demo : Option Demo) hans => ?_)
  refine meets_idle_part hsound namedHold_idle fun hold ctx => ?_
  cases demo with
  | none => exact hsound
  | some demo =>
    obtain rfl : demo = a.demo := hans.2 demo rfl
    cases hold with
    | none => exact hsound
    | some hold =>
      by_cases hrow : Requirement.present a.demo.calendarEventId = true
      · change Meets _ _ _ ((if Requirement.present a.demo.calendarEventId = true then
          patchEvent cfg a.demo hold else _) ctx) _
        rw [if_pos hrow]
        exact patchEvent_sound hone hrow
      · change Meets _ _ _ ((if Requirement.present a.demo.calendarEventId = true then
          patchEvent cfg a.demo hold else _) ctx) _
        rw [if_neg hrow]
        have hnone : a.live = [] := hclean.resolve_left hrow
        refine meets_idle_part hsound inviteEmails_idle fun emails ctx => ?_
        refine Cmd.meets_lift_bind (book_sound (by simpa using hrow) hnone)
          (fun result b hb => ?_) fun _ _ hb => hb
        obtain ⟨_ | booked, eventId, meetUrl, _ | _, reason⟩ := result
        · exact hb
        · exact hb
        · exact announced_sound hb
        · exact hb

end Attempts

/-! ## Attempts, one after another -/

section Runs

variable {cfg : Config} {P : (o : Op) → Desk → Except Exn o.Res → Desk → Prop} {a b c : Desk}
  {attempts : List TurnContext} {ctx : TurnContext}

/-- An attempt to book the demo, or to move it, from its start to its end. -/
def Attempt (cfg : Config) (P : (o : Op) → Desk → Except Exn o.Res → Desk → Prop) (a : Desk)
    (ctx : TurnContext) (b : Desk) : Prop :=
  ∃ out, Run (deskSetting P) (createEvent cfg ctx) a out b

/-- Any call may be answered in any way. -/
def anyhow : (o : Op) → Desk → Except Exn o.Res → Desk → Prop := fun _ _ _ _ => True

/-- **One event for each demo, at every moment.** However often a demo is booked and moved, and
whichever call raises: if no attempt starts while an event is left over that the row does not know
of, then at most one event is live, and it is the one that the row carries, if it carries any. This
holds after every attempt, and at every moment of one that is under way. -/
theorem one_event_if_clean (hone : OneEvent a)
    (hpath : Path (fun a ctx b => Attempt cfg anyhow a ctx b ∧ Clean a) a attempts b) :
    OneEvent b ∧ (Clean b → Passes (deskSetting anyhow) (createEvent cfg ctx) b c → OneEvent c) := by
  have hb : OneEvent b := by
    refine hpath.invariant hone ?_
    rintro a ctx b ha ⟨⟨out, hrun⟩, hclean⟩
    exact ((createEvent_sound ha hclean).run hrun).one
  refine ⟨hb, fun hclean hpasses => ?_⟩
  refine (createEvent_sound hb hclean).passes ?_ (fun _ _ _ h => h) hb hpasses
  rintro a _ ha rfl
  exact ha

end Runs

/-! ## A demo that is booked twice -/

/-- A demo at home, which carries no event yet. -/
def homeDemo : Demo where
  demoId := "d"
  conversationRef := "c"
  mode := .home

/-- The hold for it. -/
def homeHold : SlotHold := newHold "h" "c" "t" { startsAt := day } .home 0

/-- A turn of a conversation that holds it. -/
def holding : TurnContext where
  conversationRef := "c"
  traceId := "t"
  now := 0
  snapshot := { conversationRef := "c" }
  ownership := { conversationRef := "c", owner := SELF, since := 0 }
  trigger := .slotAgreed
  facts := Facts.ofList [("hold_id", .str "h")]

/-- A call of an attempt is answered. -/
theorem run_booking {α : Type} {o : Op} {k : Except Exn o.Res → Act α} {a b c : Desk}
    {r : Except Exn o.Res} {out : Except Exn α} (hans : Desk.Answers o a r b)
    (hrest : Run (deskSetting anyhow) (k r) b out c) : Run (deskSetting anyhow) (.call o k) a out c :=
  have hmoved : (deskSetting anyhow).moves a a := rfl
  .call hmoved ⟨hans, trivial⟩ hrest

/-- An attempt that ends when the hold is to be confirmed. -/
theorem attempt_unconfirmed {a : Desk} {requestId eventId : String} (hdemo : a.demo = homeDemo)
    (hfresh : ∀ e ∈ a.events, e.requestId ≠ requestId) (hne : eventId ≠ "") :
    Attempt plainConfig anyhow a holding (a.create requestId eventId) := by
  have hcreated : ∀ created : CreatedEvent, created = { eventId } → created.eventId ≠ "" →
      ∃ e ∈ (a.create requestId eventId).events, e.requestId = requestId ∧
        e.eventId = created.eventId := by
    rintro created rfl -
    rw [Desk.events_create hfresh]
    exact ⟨_, List.mem_concat_self .., rfl, rfl⟩
  have hbook : ∀ emails : Option String × Option String, Run (deskSetting anyhow)
      (book plainConfig homeDemo homeHold emails.1 emails.2 calendarSummary
        (calendarDescription homeDemo)) a (.error (.other "ConnectionError"))
      (a.create requestId eventId) := by
    intro emails
    refine run_booking (o := .now) (r := .ok (0 : Time)) rfl ?_
    refine run_booking (o := .tutorAvailability ..) (r := .ok (.error { provider := "calendar" }))
      rfl ?_
    refine run_booking (o := .newId "nxt") (r := .ok requestId)
      ⟨rfl, fun id heq => by cases heq; exact hfresh⟩ ?_
    refine run_booking (o := .createEvent ..) (r := .ok (.ok { eventId }))
      ⟨.inr ⟨eventId, rfl⟩, fun created heq => hcreated created (by cases heq; rfl)⟩ ?_
    change Run _ (if eventId = "" then _ else _) _ _ _
    rw [if_neg hne]
    exact run_booking (o := .slots ⟨0, .confirm "h"⟩) (r := .error (.other "ConnectionError")) rfl
      .throw
  refine ⟨.ok (.error (.other "ConnectionError"), holding), ?_⟩
  refine run_booking (o := .demoForConversation "c") (r := .ok (some homeDemo))
    ⟨rfl, fun demo heq => by cases heq; exact hdemo.symm⟩ ?_
  refine run_booking (o := .slots ⟨0, .loadHold "h"⟩) (r := .ok (.found (some homeHold))) rfl ?_
  exact Cmd.run_lift_error (hbook (none, none))

/-- One attempt leaves one event, whatever becomes of it. -/
theorem booked_once : ∃ (attempts : List TurnContext) (b : Desk),
    Path (fun a ctx b => Attempt plainConfig anyhow a ctx b ∧ Clean a) ⟨homeDemo, []⟩ attempts b ∧
      b.live ≠ [] ∧ OneEvent b := by
  have hattempt := @attempt_unconfirmed ⟨homeDemo, []⟩ "1" "1" rfl
    (fun e he => absurd he List.not_mem_nil) (by decide)
  have hone : OneEvent ⟨homeDemo, []⟩ := Desk.oneEvent_of_unknown rfl (Nat.zero_le 1)
  have hpath : Path (fun a ctx b => Attempt plainConfig anyhow a ctx b ∧ Clean a) ⟨homeDemo, []⟩
      [holding] (Desk.create ⟨homeDemo, []⟩ "1" "1") := .snoc .nil ⟨hattempt, .inr rfl⟩
  have hlive : (Desk.create ⟨homeDemo, []⟩ "1" "1").live = [{ eventId := "1", requestId := "1" }] :=
    Desk.live_create fun e he => absurd he List.not_mem_nil
  have hresult : OneEvent _ ∧ (Clean _ → Passes (deskSetting anyhow) (createEvent plainConfig holding) _
      ⟨homeDemo, []⟩ → OneEvent ⟨homeDemo, []⟩) := one_event_if_clean hone hpath
  exact ⟨_, _, hpath, by rw [hlive]; exact List.cons_ne_nil _ _, hresult.1⟩

/-- **A demo that is booked twice has two events.** The event is created, and the hold cannot be
confirmed; the next attempt creates another one. -/
theorem booked_twice : ∃ (a b c : Desk), OneEvent a ∧ Clean a ∧
    Attempt plainConfig anyhow a holding b ∧ Attempt plainConfig anyhow b holding c ∧
      c.live.length = 2 ∧ ¬ OneEvent c := by
  have hfirst : ∀ e ∈ ([] : List DeskEvent), e.requestId ≠ "1" := fun e he => absurd he List.not_mem_nil
  have hsecond : ∀ e ∈ (Desk.create ⟨homeDemo, []⟩ "1" "1").events, e.requestId ≠ "2" := by
    rw [Desk.events_create hfirst]
    decide
  have hlive : (((Desk.create ⟨homeDemo, []⟩ "1" "1").create "2" "2").live).length = 2 := by
    rw [Desk.live_create hsecond, Desk.live_create hfirst]
    rfl
  refine ⟨⟨homeDemo, []⟩, _, _, Desk.oneEvent_of_unknown rfl (Nat.zero_le 1), .inr rfl,
    attempt_unconfirmed rfl hfirst (by decide),
    attempt_unconfirmed Desk.demo_create hsecond (by decide), hlive, fun h => ?_⟩
  have hone := h.one
  rw [hlive] at hone
  exact absurd hone (by decide)

end NxTutors.DemoAgent
