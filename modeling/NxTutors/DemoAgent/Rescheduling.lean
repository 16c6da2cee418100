import NxTutors.DemoAgent.Serving

/-!
# Reminders of a time that was given up

A parent who asks for another time gives up the one there is. The demo keeps it until it is booked
again, and so do the reminders that were planned for it: what the row of the table has against them
is its compensation, which runs only if the search for another time fails. A sweep asks each
reminder whether its demo has made it obsolete, and the revision by which the demo would is counted
when the demo is moved, not when that is asked for. So as long as every sweep finds the reminders
that were given up obsolete, none of them goes out; and a sweep before that sends them.
-/

namespace NxTutors.DemoAgent

open Effect

/-! ## What a sweep passes on -/

/-- A reminder that was computed from a time that a demo had: it is of the conversation and of the
demo, of no later revision, and remembers the start. -/
structure GivenUp (ref : String) (d : Demo) (slot : TimeSlot) (r : ScheduledReminder) : Prop where
  ref : r.conversationRef = ref
  demo : r.demoId = d.demoId
  revision : r.demoRevision ≤ d.revision
  start : r.demoStartsAt = slot.startsAt

instance (ref : String) (d : Demo) (slot : TimeSlot) (r : ScheduledReminder) :
    Decidable (GivenUp ref d slot r) :=
  decidable_of_iff (r.conversationRef = ref ∧ r.demoId = d.demoId ∧ r.demoRevision ≤ d.revision ∧
    r.demoStartsAt = slot.startsAt)
    ⟨fun ⟨h₁, h₂, h₃, h₄⟩ => ⟨h₁, h₂, h₃, h₄⟩, fun ⟨h₁, h₂, h₃, h₄⟩ => ⟨h₁, h₂, h₃, h₄⟩⟩

/-- A call passes a message to the boundary. -/
def isSend : Call ports Exn → Bool
  | ⟨.send _, _⟩ => true
  | _ => false

/-- **The reminders that are passed to the boundary**, `past` being what was called before. -/
def passed : History ports Exn → History ports Exn → List ScheduledReminder
  | _, [] => []
  | past, c :: rest =>
    (if isSend c then (atHand past).toList else []) ++ passed (past ++ [c]) rest

/-- A reminder that is passed on is at hand when something is sent. -/
theorem mem_passed {past calls : History ports Exn} {r : ScheduledReminder}
    (h : r ∈ passed past calls) : ∃ before c after, calls = before ++ c :: after ∧
      isSend c = true ∧ atHand (past ++ before) = some r := by
  induction calls generalizing past with
  | nil => cases h
  | cons c rest ih =>
    rw [passed, List.mem_append] at h
    rcases h with h | h
    · split at h
      · rename_i hsend
        refine ⟨[], c, rest, rfl, hsend, ?_⟩
        rw [List.append_nil]
        exact Option.mem_toList.mp h
      · cases h
    · obtain ⟨before, c', after, rfl, hsend, hhand⟩ := ih h
      refine ⟨c :: before, c', after, rfl, hsend, ?_⟩
      rwa [List.append_assoc, List.singleton_append] at hhand

/-! ## What a sweep sees -/

section Seeing

variable {C : Type} {ref : String}

/-- What a sweep has seen of the conversation is what there was when it began. -/
structure Seen (ref : String) (a : World C) (past : Record) (t : World C) : Prop where
  /-- the demos of the conversation are found as they were -/
  demos : ∀ id d, a.demos.find? (·.demoId = id) = some d → d.conversationRef = ref →
    t.demos.find? (·.demoId = id) = some d
  /-- nothing is marked before something is found to be due -/
  reminders : latest dueFound (past.map Entry.call) = none →
    t.reminders.filter (·.conversationRef = ref) = a.reminders.filter (·.conversationRef = ref)
  /-- what was found to be due was there, and was due -/
  due : ∀ now rows, latest dueFound (past.map Entry.call) = some (now, rows) → ∀ r ∈ rows,
    r.conversationRef = ref → r ∈ a.reminders ∧ r.due now = true
  /-- what was loaded was there -/
  loaded : ∀ id demo, latest demoLoaded (past.map Entry.call) = some (id, demo) → ∀ d,
    a.demos.find? (·.demoId = id) = some d → d.conversationRef = ref → demo = some d

theorem seen_start {a : World C} : Seen ref a [] a where
  demos _ _ h _ := h
  reminders _ := rfl
  due _ _ h := absurd (show none = some _ from h) (Option.some_ne_none _).symm
  loaded _ _ h := absurd (show none = some _ from h) (Option.some_ne_none _).symm

/-- A call that finds nothing, and leaves the demos of the conversation, and its reminders until
something is due. -/
theorem Seen.snoc {a t u : World C} {past : Record} {x : Entry ports Exn} (hs : Seen ref a past t)
    (hdue : dueFound x.call = none) (hload : demoLoaded x.call = none)
    (hdemos : ∀ id d, t.demos.find? (·.demoId = id) = some d → d.conversationRef = ref →
      u.demos.find? (·.demoId = id) = some d)
    (hreminders : latest dueFound (past.map Entry.call) = none →
      u.reminders.filter (·.conversationRef = ref) =
        t.reminders.filter (·.conversationRef = ref)) : Seen ref a (past ++ [x]) u := by
  have hfound : latest dueFound ((past ++ [x]).map Entry.call) =
      latest dueFound (past.map Entry.call) := by
    rw [latest_entries, hdue, Option.none_or]
  have hloaded : latest demoLoaded ((past ++ [x]).map Entry.call) =
      latest demoLoaded (past.map Entry.call) := by
    rw [latest_entries, hload, Option.none_or]
  refine ⟨fun id d hd href => hdemos id d (hs.demos id d hd href) href, fun hnone => ?_, ?_, ?_⟩
  · rw [hfound] at hnone
    exact (hreminders hnone).trans (hs.reminders hnone)
  · rw [hfound]
    exact hs.due
  · rw [hloaded]
    exact hs.loaded

/-- A call that does not touch the conversation. -/
theorem Seen.apart {a t u : World C} {past : Record} {x : Entry ports Exn} (hs : Seen ref a past t)
    (hdue : dueFound x.call = none) (hload : demoLoaded x.call = none) (h : Apart ref t u) :
    Seen ref a (past ++ [x]) u :=
  hs.snoc hdue hload (fun id d hd href => h.found id d hd href) fun _ => h.reminders

/-- Some reminders are found to be due. -/
theorem Seen.finds {a t u : World C} {past : Record} {x : Entry ports Exn} {now : Time}
    {rows : List ScheduledReminder} (hs : Seen ref a past t)
    (hdue : dueFound x.call = some (now, rows)) (hload : demoLoaded x.call = none)
    (hmove : Apart ref t u)
    (hrows : ∀ r ∈ rows, r.conversationRef = ref → r ∈ a.reminders ∧ r.due now = true) :
    Seen ref a (past ++ [x]) u := by
  refine ⟨fun id d hd href => hmove.found id d (hs.demos id d hd href) href, fun hnone => ?_, ?_, ?_⟩
  · rw [latest_entries, hdue] at hnone
    cases hnone
  · intro now' rows' heq
    rw [latest_entries, hdue, Option.some_or] at heq
    cases heq
    exact hrows
  · rw [latest_entries, hload, Option.none_or]
    exact hs.loaded

/-- A demo is loaded. -/
theorem Seen.loads {a t u : World C} {past : Record} {x : Entry ports Exn} {demoId : String}
    {demo : Option Demo} (hs : Seen ref a past t) (hdue : dueFound x.call = none)
    (hload : demoLoaded x.call = some (demoId, demo)) (hmove : Apart ref t u)
    (hdemo : ∀ d, a.demos.find? (·.demoId = demoId) = some d → d.conversationRef = ref →
      demo = some d) : Seen ref a (past ++ [x]) u := by
  refine ⟨fun id d hd href => hmove.found id d (hs.demos id d hd href) href, fun hnone => ?_, ?_, ?_⟩
  · rw [latest_entries, hdue, Option.none_or] at hnone
    exact hmove.reminders.trans (hs.reminders hnone)
  · rw [latest_entries, hdue, Option.none_or]
    exact hs.due
  · intro id demo' heq
    rw [latest_entries, hload, Option.some_or] at heq
    cases heq
    exact hdemo

end Seeing

section Sweeps

variable {C : Type} [ConversationRepository C] {cfg : Config} {ref : String}

/-- A call that answers leaves its row of the past. -/
theorem Seen.step {a t u : World C} {past : Record} {x : Entry ports Exn} (hs : Seen ref a past t)
    (hx : SweepCall cfg (past.map Entry.call) x.call.1) (hhappens : Happens cfg ref t x u) :
    Seen ref a (past ++ [x]) u := by
  obtain ⟨⟨o, r⟩, inner⟩ := x
  have hplain : ∀ {o : Op} {r : Except Exn o.Res} {inner : History ports Exn},
      components cfg o = none → Happens cfg ref t ⟨⟨o, r⟩, inner⟩ u →
      ∃ t₁, Apart ref t t₁ ∧ Answers o t₁ r u := by
    intro o r inner hnone ⟨t₁, hmove, hcarries⟩
    exact ⟨t₁, hmove, (hcarries.answers hnone).1⟩
  cases hx with
  | now => exact hs.apart rfl rfl (apart_of_entry hhappens rfl).1
  | expire now =>
    obtain ⟨t₁, hmove, hans⟩ := hplain rfl hhappens
    obtain ⟨hdemos, hreminders⟩ : u.demos = t₁.demos ∧ u.reminders = t₁.reminders :=
      hans.keeps (I := fun w => w.demos = t₁.demos ∧ w.reminders = t₁.reminders) ⟨rfl, rfl⟩
        ⟨rfl, rfl⟩ nofun
    refine hs.snoc rfl rfl (fun id d hd href => ?_) fun _ => ?_
    · rw [hdemos]
      exact hmove.found id d hd href
    · rw [hreminders]
      exact hmove.reminders
  | due now hfirst =>
    obtain ⟨t₁, hmove, hans⟩ := hplain rfl hhappens
    have hread : u = t₁ ∧ (r = .ok (t₁.reminders.due now 100) ∨ ∃ name, r = .error (.other name)) :=
      hans.read rfl rfl
    obtain ⟨rfl, rfl | ⟨name, rfl⟩⟩ := hread
    · have hrows : u.reminders.filter (·.conversationRef = ref) =
          a.reminders.filter (·.conversationRef = ref) :=
        hmove.reminders.trans (hs.reminders hfirst)
      exact hs.finds rfl rfl hmove fun r hr href =>
        have hdue := List.mem_filter.mp (List.mem_of_mem_take hr)
        have hmem : r ∈ u.reminders.filter (·.conversationRef = ref) :=
          List.mem_filter.mpr ⟨hdue.1, by simpa using href⟩
        ⟨(List.mem_filter.mp (hrows ▸ hmem)).1, hdue.2⟩
    · exact hs.apart rfl rfl hmove
  | load demoId =>
    obtain ⟨t₁, hmove, hans⟩ := hplain rfl hhappens
    have hread : u = t₁ ∧ (r = .ok (t₁.demos.find? fun d => d.demoId = demoId) ∨
        ∃ name, r = .error (.other name)) := hans.read rfl rfl
    obtain ⟨rfl, rfl | ⟨name, rfl⟩⟩ := hread
    · exact hs.loads rfl rfl hmove fun d hd href => hmove.found demoId d (hs.demos demoId d hd href) href
    · exact hs.apart rfl rfl hmove
  | mark reminderId status now detail hdue =>
    obtain ⟨t₁, hmove, hans⟩ := hplain rfl hhappens
    have hdemos : u.demos = t₁.demos :=
      hans.keeps (I := fun w => w.demos = t₁.demos) rfl rfl nofun
    refine hs.snoc rfl rfl (fun id d hd href => ?_) fun hnone => absurd hnone hdue
    rw [hdemos]
    exact hmove.found id d hd href
  | send hgoes => exact hs.apart rfl rfl (apart_of_send hhappens rfl).1

/-! ## Sweeps after a move was asked for -/

/-- **What was given up is out of use** at a time: the demo that is stored makes each of the
reminders that are due obsolete. -/
def OutOfUse (ref : String) (d : Demo) (slot : TimeSlot) (w : World C) (now : Time) : Prop :=
  ∀ r ∈ w.reminders, GivenUp ref d slot r → r.due now = true →
    ∃ demo ∈ w.demos.find? (·.demoId = d.demoId), demo.conversationRef = ref ∧
      (r.obsolete demo now).isSome = true

instance (ref : String) (d : Demo) (slot : TimeSlot) (w : World C) (now : Time) :
    Decidable (OutOfUse ref d slot w now) :=
  inferInstanceAs (Decidable (∀ r ∈ w.reminders, _ → _ → _))

/-- A sweep that finds out of use what was given up passes none of it on. -/
theorem SweepRecord.spares {a b : World C} {entries : Record} {d : Demo} {slot : TimeSlot}
    (h : SweepRecord cfg ref a entries b)
    (hout : ∀ x ∈ entries, ∀ found ∈ dueFound x.call, OutOfUse ref d slot a found.1) :
    ∀ r ∈ passed [] (entries.map Entry.call), ¬ GivenUp ref d slot r := by
  intro r hr hgiven
  obtain ⟨before, ⟨o, answer⟩, after, hsplit, hsend, hhand⟩ := mem_passed hr
  rw [List.nil_append] at hhand
  -- the call that sends was permitted, so the reminder at hand is due and of use
  have hcall := h.calls before ⟨o, answer⟩ after hsplit
  rw [List.nil_append] at hcall
  cases hcall with
  | @send now createdAt r' demo hgoes =>
    obtain rfl : r' = r := Option.some.inj (hgoes.hand.symm.trans hhand)
    obtain ⟨rows, hfound, hmem⟩ := hgoes.due
    obtain ⟨past, rest, rfl, rfl, -⟩ := List.map_eq_append_iff.mp hsplit
    obtain ⟨t, hpath, -⟩ := Path.append_iff.mp h.path
    have hallowed : Allowed (SweepCall cfg) [] (past.map Entry.call) := by
      intro before c after heq
      exact h.calls before c (after ++ rest.map Entry.call)
        (by rw [List.map_append, heq, List.append_assoc, List.cons_append])
    have hseen : Seen ref a past t :=
      Path.invariant_allowed (I := fun past t => Seen ref a past t) hpath hallowed seen_start
        fun past x t u hs hx hhappens => hs.step hx hhappens
    obtain ⟨hstored, hdue⟩ := hseen.due now rows hfound r' hmem hgiven.ref
    obtain ⟨c, hc, hcfound⟩ := exists_of_latest hfound
    obtain ⟨x, hx, rfl⟩ := List.mem_map.mp hc
    obtain ⟨demo', hfind, href, hobsolete⟩ :=
      hout x (List.mem_append_left _ hx) (now, rows) hcfound r' hstored hgiven hdue
    have hdemo := hseen.loaded r'.demoId (some demo) hgoes.loaded demo' (hgiven.demo ▸ hfind) href
    obtain rfl := Option.some.inj hdemo
    rw [hgoes.useful] at hobsolete
    cases hobsolete
  | _ => cases hsend

/-- A deed is mindful of what was given up: a sweep finds it out of use when it looks. -/
def Mindful (ref : String) (d : Demo) (slot : TimeSlot) (a b : World C × Record) : Deed → Prop
  | .sweep _ => ∀ x ∈ b.2.drop a.2.length, ∀ found ∈ dueFound x.call,
    OutOfUse ref d slot a.1 found.1
  | _ => True

/-- A deed spares the parent what was given up: a sweep passes none of it to the boundary. -/
def Spares (ref : String) (d : Demo) (slot : TimeSlot) (a b : World C × Record) : Deed → Prop
  | .sweep _ => ∀ r ∈ passed [] ((b.2.drop a.2.length).map Entry.call), ¬ GivenUp ref d slot r
  | _ => True

/-- **A run with a move**: in a state that a run has reached, another time is asked for, for a demo
that has one, and is accepted, and every sweep that follows is mindful of the time given up. -/
structure MovedRun (cfg : Config) (ref : String) (d : Demo) (slot : TimeSlot) (after : List Deed)
    (b s : World C × Record) : Prop where
  moved : ∃ w before a e tr, Path (Serves cfg ref) (w, []) before a ∧
    Serves cfg ref a (.turn e (.ok tr)) b ∧ e.trigger = .rescheduleRequested ∧
    tr.accepted = true ∧ tr.duplicate = false ∧ a.1.demoOf ref = some d ∧ d.slot = some slot
  later : Path (fun a deed b => Serves cfg ref a deed b ∧ Mindful ref d slot a b deed) b after s

/-- **Nobody is reminded of a time that was given up**, in a run whose sweeps find it out of use. -/
theorem moved_not_reminded {d : Demo} {slot : TimeSlot} {after : List Deed}
    {b s : World C × Record} (h : MovedRun cfg ref d slot after b s) :
    Path (fun a deed b => Serves cfg ref a deed b ∧ Spares ref d slot a b deed) b after s := by
  refine h.later.mono fun a deed b ⟨hserves, hmindful⟩ => ⟨hserves, ?_⟩
  cases deed with
  | turn e out => trivial
  | rest => trivial
  | sweep out =>
    obtain ⟨entries, hrecord, hsweep⟩ := hserves.sweep_record
    simp only [Mindful, Spares, hrecord, List.drop_left] at hmindful ⊢
    exact hsweep.spares hmindful

end Sweeps

/-! ## A parent who is reminded of the old time -/

/-- One reminder for each demo. -/
def oneReminder : Config :=
  { plainConfig with reminderPolicy := { REMINDER_POLICY with maxRemindersPerDemo := 1 } }

/-- A demo is booked, and its reminder is planned. -/
def booking : List Task := agreeing ++
  [.handle (occurs "9" .holdPlaced .system), .handle (occurs "10" .tutorAccepted .tutor),
    .handle (occurs "11" .calendarCreated .system),
    .handle (occurs "12" .remindersScheduled .system)]

def booked : World InMemoryConversations × Record := reached oneReminder booking

/-- Then another time is asked for. -/
def askedToMove : Deed × (World InMemoryConversations × Record) :=
  attend oneReminder World.obliging booked (.handle (occurs "13" .rescheduleRequested .user))

/-- A while later. -/
def awaited (moment : Time) : Deed × (World InMemoryConversations × Record) :=
  attend oneReminder World.obliging askedToMove.2 (.wait moment)

/-- A sweep then. -/
def sweptAt (moment : Time) : Deed × (World InMemoryConversations × Record) :=
  attend oneReminder World.obliging (awaited moment).2 .sweep

/-- The demo that is to be moved. -/
def demoToMove : Demo := (booked.1.demoOf "cv_c").getD { demoId := "", conversationRef := "" }

theorem demoToMove_booked : booked.1.demoOf "cv_c" = some demoToMove ∧
    demoToMove.slot = some tuesday ∧
    (match askedToMove.1 with
      | .turn _ (.ok tr) => tr.accepted && !tr.duplicate
      | _ => false) = true ∧
    (∃ r ∈ passed [] (((sweptAt (2 * day + 8 * hour)).2.2.drop
      (awaited (2 * day + 8 * hour)).2.2.length).map Entry.call),
      GivenUp "cv_c" demoToMove tuesday r) ∧
    (∀ x ∈ (sweptAt (2 * day + 9 * hour)).2.2.drop (awaited (2 * day + 9 * hour)).2.2.length,
      ∀ found ∈ dueFound x.call,
        found.2 ≠ [] ∧ OutOfUse "cv_c" demoToMove tuesday (awaited (2 * day + 9 * hour)).2.1
          found.1) := by
  decide +kernel

theorem asked_to_move : ∃ w before e tr, Path (Serves oneReminder "cv_c") (w, []) before booked ∧
    Serves oneReminder "cv_c" booked (.turn e (.ok tr)) askedToMove.2 ∧
    e.trigger = .rescheduleRequested ∧ tr.accepted = true ∧ tr.duplicate = false := by
  have hbooking : ∀ task ∈ booking, task.Of "cv_c" := by decide
  obtain ⟨before, hrun⟩ : ∃ before,
      Path (Serves oneReminder "cv_c") (introduced, []) before booked := reached_path hbooking
  have htask : Task.Of "cv_c" (.handle (occurs "13" .rescheduleRequested .user)) := by decide
  have hserves : Serves oneReminder "cv_c" booked askedToMove.1 askedToMove.2 :=
    attend_serves answers_obliging htask _
  obtain ⟨out, hout⟩ : ∃ out,
      askedToMove.1 = .turn (occurs "13" .rescheduleRequested .user) out :=
    attend_handle _ booked
  obtain ⟨-, -, haccepted, -⟩ := demoToMove_booked
  rw [hout] at haccepted hserves
  cases out with
  | error exn => cases haccepted
  | ok tr =>
    rw [Bool.and_eq_true, Bool.not_eq_true'] at haccepted
    exact ⟨introduced, before, _, tr, hrun, hserves, rfl, haccepted.1, haccepted.2⟩

theorem awaited_serves (moment : Time) :
    Serves oneReminder "cv_c" askedToMove.2 .rest (awaited moment).2 ∧
      Serves oneReminder "cv_c" (awaited moment).2 (sweptAt moment).1 (sweptAt moment).2 := by
  have hwait : Task.Of "cv_c" (.wait moment) := trivial
  have hsweep : Task.Of "cv_c" .sweep := trivial
  constructor
  · exact attend_serves answers_obliging hwait askedToMove.2
  · exact attend_serves answers_obliging hsweep (awaited moment).2

/-- An hour after the reminder was to go out it is overdue, and a sweep suppresses it. -/
theorem overdue_not_reminded : ∃ (d : Demo) (slot : TimeSlot) (after : List Deed)
    (b s : World InMemoryConversations × Record), MovedRun oneReminder "cv_c" d slot after b s ∧
      Path (fun a deed b => Serves oneReminder "cv_c" a deed b ∧ Spares "cv_c" d slot a b deed)
        b after s := by
  obtain ⟨hdemo, hslot, -, -, hoverdue⟩ := demoToMove_booked
  obtain ⟨w, before, e, tr, hrun, hserves, htrigger, haccepted, hfresh⟩ := asked_to_move
  obtain ⟨hrest, hsweep⟩ := awaited_serves (2 * day + 9 * hour)
  obtain ⟨out, hout⟩ : ∃ out, (sweptAt (2 * day + 9 * hour)).1 = .sweep out := attend_sweep _
  rw [hout] at hsweep
  have hmoved : MovedRun oneReminder "cv_c" demoToMove tuesday
      [.rest, .sweep out] askedToMove.2 (sweptAt (2 * day + 9 * hour)).2 := by
    refine ⟨⟨w, before, booked, e, tr, hrun, hserves, htrigger, haccepted, hfresh, hdemo, hslot⟩, ?_⟩
    refine .cons ⟨hrest, trivial⟩ (.cons ⟨hsweep, ?_⟩ .nil)
    exact fun x hx found hfound => (hoverdue x hx found hfound).2
  exact ⟨_, _, _, _, _, hmoved, moved_not_reminded hmoved⟩

/-- **Before that, the parent is reminded of the time he gave up**: the demo is not moved yet, its
revision is that of the reminder, and the sweep passes it to the boundary. -/
theorem moved_is_reminded : ∃ (d : Demo) (slot : TimeSlot)
    (w : World InMemoryConversations) (before : List Deed) (e : Event) (tr : TurnResult)
    (out : Except Exn SweepResult) (a b c s : World InMemoryConversations × Record),
    Path (Serves oneReminder "cv_c") (w, []) before a ∧
    Serves oneReminder "cv_c" a (.turn e (.ok tr)) b ∧ e.trigger = .rescheduleRequested ∧
    tr.accepted = true ∧ tr.duplicate = false ∧ a.1.demoOf "cv_c" = some d ∧ d.slot = some slot ∧
    Path (Serves oneReminder "cv_c") b [.rest] c ∧ Serves oneReminder "cv_c" c (.sweep out) s ∧
    ∃ r ∈ passed [] ((s.2.drop c.2.length).map Entry.call), GivenUp "cv_c" d slot r := by
  obtain ⟨hdemo, hslot, -, hreminded, -⟩ := demoToMove_booked
  obtain ⟨w, before, e, tr, hrun, hserves, htrigger, haccepted, hfresh⟩ := asked_to_move
  obtain ⟨hrest, hsweep⟩ := awaited_serves (2 * day + 8 * hour)
  obtain ⟨out, hout⟩ : ∃ out, (sweptAt (2 * day + 8 * hour)).1 = .sweep out := attend_sweep _
  rw [hout] at hsweep
  exact ⟨_, _, w, before, e, tr, _, _, _, _, _, hrun, hserves, htrigger, haccepted, hfresh, hdemo,
    hslot, .cons hrest .nil, hsweep, hreminded⟩

end NxTutors.DemoAgent
