import NxTutors.DemoAgent.Commands
import NxTutors.DemoAgent.Executions
import NxTutors.DemoAgent.Outbound
import NxTutors.DemoAgent.Sweep
import NxTutors.Effect.Parts

/-!
# Serving one conversation

So far a command was a call of a component that might do anything neutral. Here the components are
their programs: `components` gives the command executor and the outbound boundary, and in the
setting `serving` the calls of a turn that name them are carried out.

What an agent does about one conversation is a sequence of deeds: it handles an event, it sweeps, or
it rests. Between any two calls, and while it rests, others may do what they like as long as they
leave the rows of the conversation alone (`Apart`), which is what other conversations do. A run is a
path of deeds. Its record says which calls were made, in order, and for a command also which calls
it has made itself.
-/

namespace NxTutors.DemoAgent

open Effect

/-- The programs of the components. -/
def components (cfg : Config) : Parts ports Exn
  | .execute command ctx payload => some (execute cfg command ctx payload)
  | .send message => some (send cfg message)
  | _ => none

/-- What was called, in order. -/
abbrev Record : Type := List (Entry ports Exn)

section Rows

variable {C : Type}

/-! ## The rows of a conversation -/

/-- **What others leave alone**: the rows of the conversation. Time passes. -/
structure Apart (ref : String) (a b : World C) : Prop where
  clock : a.clock ≤ b.clock
  demos : b.demos.filter (·.conversationRef = ref) = a.demos.filter (·.conversationRef = ref)
  /-- a demo of the conversation stays the one its identifier finds -/
  found : ∀ id d, a.demos.find? (·.demoId = id) = some d → d.conversationRef = ref →
    b.demos.find? (·.demoId = id) = some d
  holds : b.slots.holds.rows.filter (·.conversationRef = ref) =
    a.slots.holds.rows.filter (·.conversationRef = ref)
  reminders : b.reminders.filter (·.conversationRef = ref) =
    a.reminders.filter (·.conversationRef = ref)
  requests : b.requests.filter (·.conversationRef = ref) =
    a.requests.filter (·.conversationRef = ref)
  candidates : b.candidates ref = a.candidates ref

namespace Apart

variable {ref : String} {a b c : World C}

theorem refl (ref : String) (a : World C) : Apart ref a a :=
  ⟨le_refl _, rfl, fun _ _ h _ => h, rfl, rfl, rfl, rfl⟩

theorem trans (h : Apart ref a b) (h' : Apart ref b c) : Apart ref a c where
  clock := h.clock.trans h'.clock
  demos := h'.demos.trans h.demos
  found id d hd href := h'.found id d (h.found id d hd href) href
  holds := h'.holds.trans h.holds
  reminders := h'.reminders.trans h.reminders
  requests := h'.requests.trans h.requests
  candidates := h'.candidates.trans h.candidates

end Apart

/-- Finding the last of some rows is finding it among them. -/
theorem find?_reverse_filter {α : Type} (p q : α → Bool) (l : List α) :
    (l.reverse.find? fun x => p x && q x) = (l.filter p).reverse.find? q := by
  rw [← List.filter_reverse, List.find?_filter]
  congr 1
  funext x
  cases p x <;> cases q x <;> rfl

/-- The demo of a conversation, as the repository finds it. -/
def World.demoOf (w : World C) (ref : String) : Option Demo :=
  w.demos.reverse.find? fun d => d.conversationRef = ref && d.cancelledAt.isNone

theorem Apart.demoOf {ref : String} {a b : World C} (h : Apart ref a b) :
    b.demoOf ref = a.demoOf ref := by
  rw [World.demoOf, World.demoOf, find?_reverse_filter, find?_reverse_filter]
  exact congrArg (fun l : List Demo => l.reverse.find? fun d => d.cancelledAt.isNone) h.demos

theorem Apart.activeHoldFor {ref : String} {a b : World C} (h : Apart ref a b) (now : Time) :
    b.slots.activeHoldFor ref now = a.slots.activeHoldFor ref now := by
  rw [InMemorySlots.activeHoldFor, InMemorySlots.activeHoldFor, find?_reverse_filter,
    find?_reverse_filter]
  exact congrArg (fun l : List SlotHold => l.reverse.find? fun h => h.live now) h.holds

/-! ## Calls that leave them alone -/

/-- The rows are as they were, of every conversation. -/
structure Still (a b : World C) : Prop where
  clock : a.clock ≤ b.clock
  demos : b.demos = a.demos
  slots : b.slots = a.slots
  reminders : b.reminders = a.reminders
  requests : b.requests = a.requests
  candidates : b.candidates = a.candidates

theorem Still.refl (a : World C) : Still a a := ⟨le_refl _, rfl, rfl, rfl, rfl, rfl⟩

theorem Still.apart {a b : World C} (h : Still a b) (ref : String) : Apart ref a b where
  clock := h.clock
  demos := by rw [h.demos]
  found id d hd _ := by rw [h.demos]; exact hd
  holds := by rw [h.slots]
  reminders := by rw [h.reminders]
  requests := by rw [h.requests]
  candidates := by rw [h.candidates]

/-- A plain call that writes none of the rows. -/
def Op.still : Op → Bool
  | .saveRequest _ | .saveCandidates .. | .saveDemo _ | .slots _ | .replaceForDemo ..
  | .cancelForDemo _ | .markReminder .. | .execute .. | .send _ => false
  | _ => true

end Rows

section Deeds

variable {C : Type} [ConversationRepository C] {cfg : Config} {ref : String}

theorem Answers.still {o : Op} {r : Except Exn o.Res} {a b : World C} (h : Answers o a r b)
    (ho : o.still = true) : Still a b := by
  refine h.keeps (Still.refl a) ?_ fun hk => ?_
  · cases o with
    | saveRequest | saveCandidates | saveDemo | slots | replaceForDemo | cancelForDemo
    | markReminder | execute | send => cases ho
    | claim key scope now ttl =>
      simp only [World.answer]
      split
      · exact Still.refl a
      · exact ⟨le_refl _, rfl, rfl, rfl, rfl, rfl⟩
    | recordEvent event now =>
      simp only [World.answer]
      split
      · exact Still.refl a
      · exact ⟨le_refl _, rfl, rfl, rfl, rfl, rfl⟩
    | claimSend message now =>
      simp only [World.answer]
      split
      · exact Still.refl a
      · exact ⟨le_refl _, rfl, rfl, rfl, rfl, rfl⟩
    | _ => exact ⟨le_refl _, rfl, rfl, rfl, rfl, rfl⟩
  · cases o with
    | execute | send => cases ho
    | _ => cases hk

theorem components_eq_none {o : Op} (ho : o.still = true) : components cfg o = none := by
  cases o with
  | execute | send => cases ho
  | _ => rfl

theorem SendCall.still {message : OutboundMessage} {o : Op} (ho : SendCall message o) :
    o.still = true := by
  cases ho <;> rfl

/-- Among others who leave the rows of the conversation alone, a call that writes none of them. -/
theorem apart_of_call {c : Call ports Exn} {a b : World C}
    (h : Effect.Recorded (Apart ref) (Setting.plain ⟨Answers, Apart ref⟩) a c b)
    (hc : c.1.still = true) : Apart ref a b := by
  obtain ⟨a₁, hmove, hans⟩ := h
  exact hmove.trans ((Answers.still hans hc).apart ref)

/-! ## Deeds -/

/-- The setting in which one conversation is served. -/
def serving (C : Type) [ConversationRepository C] (cfg : Config) (ref : String) :
    Setting ports Exn (World C × Record) :=
  Setting.staffed ⟨Answers, Apart ref⟩ (components cfg)

/-- What happens between one state of a record and the next. -/
abbrev Happens (cfg : Config) (ref : String) : World C → Entry ports Exn → World C → Prop :=
  Effect.Recorded (Apart ref) (Setting.Carries ⟨Answers, Apart ref⟩ (components cfg))

/-- What an agent does, and how it ended. -/
inductive Deed
  | turn (e : Event) (out : Except Exn TurnResult)
  | sweep (out : Except Exn SweepResult)
  /-- nothing is done, and time passes -/
  | rest

/-- A deed, in the service of a conversation. -/
def Serves (cfg : Config) (ref : String) (a : World C × Record) :
    Deed → World C × Record → Prop
  | .turn e out, b => e.conversationRef = ref ∧ Run (serving C cfg ref) (handle cfg e) a out b
  | .sweep out, b => Run (serving C cfg ref) (DemoAgent.sweep cfg) a out b
  | .rest, b => Apart ref a.1 b.1 ∧ b.2 = a.2

/-- **The record of a turn**: what happened in it, which of its calls come after which, and what it
has executed if it was accepted. -/
structure TurnRecord (cfg : Config) (e : Event) (a : World C) (entries : Record)
    (out : Except Exn TurnResult) (b : World C) : Prop where
  path : Path (Happens cfg e.conversationRef) a entries b
  calls : Allowed (TurnCall e) [] (entries.map Entry.call)
  worked : ∀ tr, out = .ok tr → Worked e tr (entries.map Entry.call)

theorem Serves.turn_record {e : Event} {out : Except Exn TurnResult} {a b : World C × Record}
    (h : Serves cfg ref a (.turn e out) b) : e.conversationRef = ref ∧
      ∃ entries, b.2 = a.2 ++ entries ∧ TurnRecord cfg e a.1 entries out b.1 := by
  obtain ⟨rfl, hrun⟩ := h
  obtain ⟨entries, hrecord, hpath, hguard⟩ := hrun.record
  obtain ⟨hcalls, hworked⟩ := hguard (TurnCall e) (Worked e) [] handle_calls
  exact ⟨rfl, entries, hrecord, hpath, hcalls, hworked⟩

/-- A plain call that writes no rows, in a turn or in a sweep. -/
theorem apart_of_entry {x : Entry ports Exn} {a b : World C} (h : Happens cfg ref a x b)
    (hx : x.call.1.still = true) : Apart ref a b ∧ x.inner = [] := by
  obtain ⟨a₁, hmove, hcarries⟩ := h
  obtain ⟨hans, hinner⟩ := hcarries.answers (components_eq_none hx)
  exact ⟨hmove.trans ((hans.still hx).apart ref), hinner⟩

/-- A component all of whose calls write no rows writes none. -/
theorem apart_of_part {x : Entry ports Exn} {a b : World C} {p : Act x.call.1.Res}
    {P : Op → Prop} (h : Happens cfg ref a x b) (hp : components cfg x.call.1 = some p)
    (hcalls : p.GuardedTo (fun _ o => P o) (fun _ _ => True) [])
    (hstill : ∀ o, P o → o.still = true) : Apart ref a b ∧ ∀ c ∈ x.inner, P c.1 := by
  obtain ⟨a₁, hmove, hcarries⟩ := h
  obtain ⟨hpath, hguard⟩ := hcarries.record hp
  have hinner : ∀ c ∈ x.inner, P c.1 := fun c hc => by
    obtain ⟨_, hP⟩ := (hguard _ _ hcalls).1.of_mem hc
    exact hP
  refine ⟨hmove.trans ?_, hinner⟩
  exact hpath.invariant_of (I := Apart ref a₁) (Q := fun c => c.1.still = true) (Apart.refl ref a₁)
    (fun c hc => hstill _ (hinner c hc)) fun a c b ha hc hst => ha.trans (apart_of_call hst hc)

/-- Sending writes no rows. -/
theorem apart_of_send {x : Entry ports Exn} {a b : World C} {m : OutboundMessage}
    (h : Happens cfg ref a x b) (hx : x.call.1 = .send m) :
    Apart ref a b ∧ ∀ c ∈ x.inner, SendCall m c.1 := by
  obtain ⟨⟨o, r⟩, inner⟩ := x
  obtain rfl : o = .send m := hx
  exact apart_of_part h rfl (Prog.Within.guardedTo (send_within (X := fun _ => True)))
    fun o ho => ho.still

/-- Sending raises nothing that is retried. -/
theorem final_of_send {moves : World C → World C → Prop} {m : OutboundMessage}
    {r : Except Exn SendResult} {inner : History ports Exn} {a b : World C}
    (h : Setting.Carries ⟨Answers, moves⟩ (components cfg) a ⟨⟨.send m, r⟩, inner⟩ b) :
    ∀ exn, r = .error exn → exn.final := by
  cases h with
  | plain hnone => cases hnone
  | part hsome hrun =>
    obtain rfl := Option.some.inj hsome
    have hends := (Meets.of_within (G := fun _ _ => True) (I := fun _ => True)
      (send_within (X := Exn.final)) (fun _ _ _ _ => trivial) (fun o t r u ho _ hans => ?_)
      trivial).run hrun
    · intro exn hr
      rw [hr] at hends
      exact hends.2
    · obtain ⟨l, rfl, hans, -⟩ := hans
      refine ⟨trivial, trivial, Answers.final_of_ne hans fun result now facts heq => ?_⟩
      subst heq
      cases ho

/-- A call of a turn other than a command writes no rows. -/
theorem TurnCall.still {e : Event} {h : History ports Exn} {o : Op} (ho : TurnCall e h o) :
    o.still = true ∨ (∃ m, o = .send m) ∨ ∃ command ctx payload, o = .execute command ctx payload := by
  cases ho with
  | quiet ho =>
    cases o with
    | saveRequest | saveCandidates | saveDemo | slots | replaceForDemo | cancelForDemo
    | markReminder | execute | send => cases ho
    | _ => exact .inl rfl
  | load => exact .inl rfl
  | claim => exact .inl rfl
  | save => exact .inl rfl
  | command => exact .inr (.inr ⟨_, _, _, rfl⟩)
  | compensate => exact .inr (.inr ⟨_, _, _, rfl⟩)
  | send m => exact .inr (.inl ⟨m, rfl⟩)

/-- A turn executes commands for the conversation of its event. -/
theorem TurnCall.execute_ref {e : Event} {h : History ports Exn} {command : Command}
    {ctx : TurnContext} {payload : Facts} (ho : TurnCall e h (.execute command ctx payload)) :
    ctx.conversationRef = e.conversationRef := by
  cases ho with
  | quiet ho => cases ho
  | command hcmd hne =>
    obtain ⟨_, _, _, hholding⟩ := hcmd.saved
    exact hholding.ref
  | @compensate result ctx past r hcmd hlast hfailed hne =>
    obtain ⟨_, _, _, hholding⟩ := hcmd.saved
    cases r <;> exact hholding.ref

/-- **The record of a sweep.** -/
structure SweepRecord (cfg : Config) (ref : String) (a : World C) (entries : Record)
    (b : World C) : Prop where
  path : Path (Happens cfg ref) a entries b
  calls : Allowed (SweepCall cfg) [] (entries.map Entry.call)

theorem Serves.sweep_record {out : Except Exn SweepResult} {a b : World C × Record}
    (h : Serves cfg ref a (.sweep out) b) :
    ∃ entries, b.2 = a.2 ++ entries ∧ SweepRecord cfg ref a.1 entries b.1 := by
  obtain ⟨entries, hrecord, hpath, hguard⟩ := Run.record h
  exact ⟨entries, hrecord, hpath, (hguard _ _ [] sweep_calls).1⟩

/-- **Whatever a run has on its record was carried out.** -/
theorem served_entry {deeds : List Deed} {s t : World C × Record}
    (h : Path (Serves cfg ref) s deeds t) (hs : s.2 = []) {x : Entry ports Exn} (hx : x ∈ t.2) :
    ∃ a b : World C, Setting.Carries ⟨Answers, Apart ref⟩ (components cfg) a x b := by
  induction h with
  | nil =>
    rw [hs] at hx
    cases hx
  | @snoc deeds deed t u hpath hserves ih =>
    cases deed with
    | turn e out =>
      obtain ⟨rfl, entries, hrecord, hturn⟩ := hserves.turn_record
      rw [hrecord] at hx
      rcases List.mem_append.mp hx with hx | hx
      · exact ih hx
      · obtain ⟨a, b, a₁, _, hcarries⟩ := hturn.path.mem hx
        exact ⟨a₁, b, hcarries⟩
    | sweep out =>
      obtain ⟨entries, hrecord, hsweep⟩ := hserves.sweep_record
      rw [hrecord] at hx
      rcases List.mem_append.mp hx with hx | hx
      · exact ih hx
      · obtain ⟨a, b, a₁, _, hcarries⟩ := hsweep.path.mem hx
        exact ⟨a₁, b, hcarries⟩
    | rest =>
      rw [hserves.2] at hx
      exact ih hx

/-- An entry is the execution of a command. -/
def Executes (x : Entry ports Exn) (command : Command) (ctx : TurnContext) (payload : Facts)
    (r : Except Exn CommandEffect) : Prop := x.call = ⟨.execute command ctx payload, r⟩

/-- **What a run executes** it executes for its conversation, by carrying the command out. -/
theorem served_execution {deeds : List Deed} {s t : World C × Record}
    (h : Path (Serves cfg ref) s deeds t) (hs : s.2 = []) {x : Entry ports Exn} (hx : x ∈ t.2)
    {command : Command} {ctx : TurnContext} {payload : Facts} {r : Except Exn CommandEffect}
    (hexec : Executes x command ctx payload r) :
    ctx.conversationRef = ref ∧
      ∃ a b : World C, Setting.Carries ⟨Answers, Apart ref⟩ (components cfg) a x b := by
  refine ⟨?_, served_entry h hs hx⟩
  induction h with
  | nil =>
    rw [hs] at hx
    cases hx
  | @snoc deeds deed t u hpath hserves ih =>
    cases deed with
    | turn e out =>
      obtain ⟨rfl, entries, hrecord, hturn⟩ := hserves.turn_record
      rw [hrecord] at hx
      rcases List.mem_append.mp hx with hx | hx
      · exact ih hx
      · obtain ⟨past, hcall⟩ := hturn.calls.of_mem (List.mem_map_of_mem hx)
        rw [show x.call = _ from hexec] at hcall
        exact hcall.execute_ref
    | sweep out =>
      obtain ⟨entries, hrecord, hsweep⟩ := hserves.sweep_record
      rw [hrecord] at hx
      rcases List.mem_append.mp hx with hx | hx
      · exact ih hx
      · obtain ⟨past, hcall⟩ := hsweep.calls.of_mem (List.mem_map_of_mem hx)
        rw [show x.call = _ from hexec] at hcall
        cases hcall
    | rest =>
      rw [hserves.2] at hx
      exact ih hx

end Deeds

/-! ## Playing deeds -/

/-- What there is to do. -/
inductive Task
  | handle (e : Event)
  | sweep
  /-- wait until a moment -/
  | wait (moment : Time)

/-- It is about a conversation, or about none. -/
def Task.Of (ref : String) : Task → Prop
  | handle e => e.conversationRef = ref
  | _ => True

instance (ref : String) (task : Task) : Decidable (task.Of ref) := by
  cases task with
  | handle e => exact inferInstanceAs (Decidable (_ = _))
  | sweep => exact isTrue trivial
  | wait moment => exact isTrue trivial

section Playing

variable {C : Type} [ConversationRepository C]

/-- A task is done, calls being answered by a script. -/
def attend (cfg : Config) (f : (o : Op) → World C → Except Exn o.Res × World C)
    (a : World C × Record) : Task → Deed × (World C × Record)
  | .handle e =>
    let ending := play (S := ports) (fun _ => enact (components cfg) f) 0
      (DemoAgent.handle cfg e) a
    (.turn e ending.1, ending.2)
  | .sweep =>
    let ending := play (S := ports) (fun _ => enact (components cfg) f) 0
      (DemoAgent.sweep cfg) a
    (.sweep ending.1, ending.2)
  | .wait moment => (.rest, ({ a.1 with clock := max a.1.clock moment }, a.2))

/-- Tasks are done, one after another. -/
def attendAll (cfg : Config) (f : (o : Op) → World C → Except Exn o.Res × World C) :
    World C × Record → List Task → List Deed × (World C × Record)
  | a, [] => ([], a)
  | a, task :: tasks =>
    let done := attend cfg f a task
    let rest := attendAll cfg f done.2 tasks
    (done.1 :: rest.1, rest.2)

variable {cfg : Config} {ref : String} {f : (o : Op) → World C → Except Exn o.Res × World C}

theorem attend_serves (hf : ∀ o w, Answers o w (f o w).1 (f o w).2) {task : Task}
    (htask : task.Of ref) (a : World C × Record) :
    Serves cfg ref a (attend cfg f a task).1 (attend cfg f a task).2 := by
  cases task with
  | handle e => exact ⟨htask, run_enact (Apart.refl ref) hf _ a⟩
  | sweep => exact run_enact (Apart.refl ref) hf _ a
  | wait moment => exact ⟨⟨le_max_left _ _, rfl, fun _ _ h _ => h, rfl, rfl, rfl, rfl⟩, rfl⟩

omit [ConversationRepository C] in
/-- To handle an event is to take its turn. -/
theorem attend_handle (e : Event) (a : World C × Record) :
    ∃ out, (attend cfg f a (.handle e)).1 = .turn e out := ⟨_, rfl⟩

omit [ConversationRepository C] in
/-- To sweep is to finish one way or another. -/
theorem attend_sweep (a : World C × Record) :
    ∃ out, (attend cfg f a .sweep).1 = .sweep out := ⟨_, rfl⟩

/-- **Played deeds are a run.** -/
theorem attendAll_path (hf : ∀ o w, Answers o w (f o w).1 (f o w).2) {tasks : List Task}
    (htasks : ∀ task ∈ tasks, task.Of ref) (a : World C × Record) :
    Path (Serves cfg ref) a (attendAll cfg f a tasks).1 (attendAll cfg f a tasks).2 := by
  induction tasks generalizing a with
  | nil => exact .nil
  | cons task tasks ih =>
    have hfirst : Serves cfg ref a (attend cfg f a task).1 (attend cfg f a task).2 :=
      attend_serves hf (htasks task List.mem_cons_self) a
    exact .cons hfirst (ih (fun t ht => htasks t (List.mem_cons_of_mem _ ht)) _)

end Playing

/-- Something occurs in the conversation `cv_c`. It is traced under its own identifier. -/
def occurs (eventId : String) (trigger : Trigger) (actor : Actor)
    (payload : Facts := Facts.empty) : Event :=
  { conversationRef := "cv_c", trigger, actor, eventId, payload, traceId := eventId }

def tuesday : TimeSlot := { startsAt := 3 * day }

def wednesday : TimeSlot := { startsAt := 4 * day }

/-- What a call is answered when everything works, another tutor is found each time, and tutors are
free on both days. -/
def World.obliging {C : Type} [ConversationRepository C] (o : Op) (w : World C) :
    Except Exn o.Res × World C :=
  match o with
  | .matchTutors request =>
    let tutor : TutorCandidate :=
      { rank := 1, tutorRef := "tut_" ++ request.traceId, name := "Tutor " ++ request.traceId,
        freshness := .fresh }
    (.ok (.ok { matchSessionId := request.traceId, candidates := [tutor],
                generatedAt := w.clock }), w)
  | .tutorAvailability .. => (.ok (.ok [tuesday, wednesday]), w)
  | .createEvent _ _ _ _ _ requestId _ =>
    (.ok (.ok { eventId := requestId, meetUrl := "meet" }), w)
  | o => w.smooth o

theorem answers_obliging {C : Type} [ConversationRepository C] (o : Op) (w : World C) :
    Answers o w (World.obliging o w).1 (World.obliging o w).2 := by
  cases o with
  | matchTutors => exact .outside _ rfl
  | tutorAvailability => exact .outside _ rfl
  | createEvent => exact .outside _ rfl
  | _ => exact answers_smooth _ w

/-- A parent has written, and has told everything that was to be told. -/
def introduced : World InMemoryConversations :=
  let requirement : Requirement :=
    { service := some "school", board := some "CBSE", studentClass := some "10",
      subject := some "maths", mode := some .online }
  { conversations := ConversationRepository.touchInbound ({} : InMemoryConversations) "cv_c" 0,
    requests := [{ requestId := "r", conversationRef := "cv_c", requirement }] }

/-- Where some tasks lead, then. -/
def reached (cfg : Config) (tasks : List Task) : World InMemoryConversations × Record :=
  (attendAll cfg World.obliging (introduced, []) tasks).2

theorem reached_path {cfg : Config} {tasks : List Task}
    (htasks : ∀ task ∈ tasks, task.Of "cv_c") :
    ∃ deeds, Path (Serves cfg "cv_c") (introduced, []) deeds (reached cfg tasks) :=
  ⟨_, attendAll_path answers_obliging htasks _⟩

/-- A conversation is taken over. Nothing has been booked. -/
def introducing : List Task :=
  [.handle (occurs "1" .handoffReceived .agent), .handle (occurs "2" .ownershipAcquired .system),
    .handle (occurs "3" .identityUnresolved .system)]

/-- The parent has agreed to a time, which is held. -/
def agreeing : List Task := introducing ++
  [.handle (occurs "4" .requirementsComplete .system),
    .handle (occurs "5" .matchSucceeded .system), .handle (occurs "6" .optionsPresented .system),
    .handle (occurs "7" .tutorChosen .user (Facts.ofList [("button_id", .str "tutor:1")])),
    .handle (occurs "8" .slotAgreed .user (Facts.ofList [("slot", .slot tuesday "")]))]

end NxTutors.DemoAgent
