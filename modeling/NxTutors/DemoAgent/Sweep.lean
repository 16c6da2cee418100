import NxTutors.DemoAgent.Composer
import NxTutors.Effect.Guarded

/-!
# The sweep

Every so often holds whose time is up are marked, and the reminders that are due are sent. A
reminder is checked against its demo as it is then: one that has become obsolete is suppressed, and
one whose demo is missing is cancelled. What is sent goes through the one boundary, which may still
refuse it, and the row says what became of it.
-/

namespace NxTutors.DemoAgent

open Effect

/-- What a sweep reports. -/
structure SweepResult where
  expiredHolds : Nat
  remindersDue : Nat
  remindersSent : Nat
  deriving DecidableEq, Repr

/-- The value of a variable of a reminder's template. -/
def reminderValue (cfg : Config) (demo : Demo) (field : String) : String :=
  let displayName (party : Party) : String :=
    ((demo.attendee party).map DemoAttendee.displayName).getD ""
  match field with
  | "student_name" => if displayName .student = "" then "there" else displayName .student
  | "tutor_name" => if displayName .tutor = "" then "-" else displayName .tutor
  | _ => templateValue cfg (some demo) field

/-- The variables of a reminder's template, in the order in which it declares them. They are read
off the demo as it is. -/
def reminderVariables (cfg : Config) (r : ScheduledReminder) (demo : Demo) : List String :=
  match Template.get r.template with
  | .error _ => []
  | .ok template => template.positionalVariables.map (reminderValue cfg demo)

/-- The message of a reminder. It always carries a template. -/
def ScheduledReminder.message (r : ScheduledReminder) (demo : Demo) (values : List String)
    (now : Time) : OutboundMessage :=
  { conversationRef := r.conversationRef, recipientRef := r.recipientRef, audience := r.audience,
    kind := .reminder, language := demo.language,
    template := some ⟨r.template, demo.language.value, values⟩,
    idempotencyKey := r.idempotencyKey, demoId := .str demo.demoId,
    expiresAt := demo.slot.map fun slot => min (r.fireAt + 20 * minute) slot.startsAt,
    createdAt := now }

/-- `to_message`, which reads the clock. -/
def toMessage (cfg : Config) (r : ScheduledReminder) (demo : Demo) (values : List String) :
    Act OutboundMessage := do
  let now : Time ← ask .now
  let message := r.message demo values now
  if message.deliverable cfg then pure message else throw (.other "ValidationError")

/-- One reminder that is due: whether it was delivered. -/
def sweepOne (cfg : Config) (now : Time) (r : ScheduledReminder) : Act Bool := do
  let demo : Option Demo ← ask (.loadDemo r.demoId)
  match demo with
  | none =>
    ask (.markReminder r.reminderId .cancelled now "demo_missing")
    pure false
  | some demo =>
    match r.obsolete demo now with
    | some reason =>
      ask (.markReminder r.reminderId .suppressed now reason)
      pure false
    | none =>
      let message ← toMessage cfg r demo (reminderVariables cfg r demo)
      let outcome : SendResult ← ask (.send message)
      ask (.markReminder r.reminderId (if outcome.delivered then .sent else .suppressed) now
        (if outcome.detail = "" then outcome.outcome.value else outcome.detail))
      pure outcome.delivered

/-- The reminders that are due, one after another. -/
def sweepAll (cfg : Config) (now : Time) : List ScheduledReminder → Nat → Act Nat
  | [], sent => pure sent
  | r :: rest, sent => do
    let delivered ← sweepOne cfg now r
    sweepAll cfg now rest (if delivered then sent + 1 else sent)

/-- The holds a sweep has marked. -/
def SlotAnswer.holds : SlotAnswer → List SlotHold
  | .expired holds => holds
  | _ => []

def sweep (cfg : Config) : Act SweepResult := do
  let now : Time ← ask .now
  let expired : SlotAnswer ← ask (.slots ⟨now, .expireDue⟩)
  let due : List ScheduledReminder ← ask (.dueReminders now 100)
  let sent ← sweepAll cfg now due 0
  pure { expiredHolds := expired.holds.length, remindersDue := due.length, remindersSent := sent }

/-! ## What a sweep calls -/

/-- The reminders a call finds to be due, and when. -/
def dueFound : Call ports Exn → Option (Time × List ScheduledReminder)
  | ⟨.dueReminders now _, .ok rows⟩ => some (now, rows)
  | _ => none

/-- The demo a call loads, under its identifier. -/
def demoLoaded : Call ports Exn → Option (String × Option Demo)
  | ⟨.loadDemo demoId, .ok demo⟩ => some (demoId, demo)
  | _ => none

/-- How many demos have been loaded. -/
def loads (h : History ports Exn) : Nat := (h.filterMap demoLoaded).length

/-- **The reminder at hand**: dealing with one begins with loading its demo. -/
def atHand (h : History ports Exn) : Option ScheduledReminder :=
  (latest dueFound h).bind fun found => found.2[loads h - 1]?

/-- The reminder at hand goes out: its demo was loaded, and does not make it obsolete. -/
structure GoesOut (h : History ports Exn) (now : Time) (r : ScheduledReminder) (demo : Demo) :
    Prop where
  due : ∃ rows, latest dueFound h = some (now, rows) ∧ r ∈ rows
  hand : atHand h = some r
  loaded : latest demoLoaded h = some (r.demoId, some demo)
  useful : r.obsolete demo now = none

/-- What a sweep may call after `h`. -/
inductive SweepCall (cfg : Config) (h : History ports Exn) : Op → Prop
  | now : SweepCall cfg h .now
  | expire (now : Time) : SweepCall cfg h (.slots ⟨now, .expireDue⟩)
  | due (now : Time) (hfirst : latest dueFound h = none) : SweepCall cfg h (.dueReminders now 100)
  | load (demoId : String) : SweepCall cfg h (.loadDemo demoId)
  | mark (reminderId : String) (status : ReminderStatus) (now : Time) (detail : String)
      (hdue : latest dueFound h ≠ none) : SweepCall cfg h (.markReminder reminderId status now detail)
  | send {now createdAt : Time} {r : ScheduledReminder} {demo : Demo}
      (hgoes : GoesOut h now r demo) :
    SweepCall cfg h (.send (r.message demo (reminderVariables cfg r demo) createdAt))

section Walk

variable {cfg : Config} {h : History ports Exn} {now : Time} {rows : List ScheduledReminder}

/-- A sweep has got somewhere: it has found the reminders that are due, and has loaded the demos of
the first `n` of them. -/
structure Swept (h : History ports Exn) (now : Time) (rows : List ScheduledReminder) (n : Nat) :
    Prop where
  found : latest dueFound h = some (now, rows)
  count : loads h = n

theorem loads_concat (h : History ports Exn) (c : Call ports Exn) :
    loads (h ++ [c]) = loads h + if (demoLoaded c).isSome then 1 else 0 := by
  rw [loads, List.filterMap_append, List.length_append, loads]
  cases hc : demoLoaded c with
  | none => simp [hc]
  | some x => simp [hc]

/-- A call that neither finds reminders nor loads a demo leaves a sweep where it is. -/
theorem Swept.snoc {n : Nat} (hs : Swept h now rows n) {c : Call ports Exn}
    (hdue : dueFound c = none) (hload : demoLoaded c = none) : Swept (h ++ [c]) now rows n := by
  refine ⟨(latest_concat_none hdue).trans hs.found, ?_⟩
  rw [loads_concat, hload]
  exact hs.count

/-- The next demo is loaded. -/
theorem Swept.load {n : Nat} (hs : Swept h now rows n) (demoId : String) (demo : Option Demo) :
    Swept (h ++ [⟨.loadDemo demoId, .ok demo⟩]) now rows (n + 1) := by
  refine ⟨(latest_concat_none rfl).trans hs.found, ?_⟩
  rw [loads_concat, hs.count]
  rfl

/-- The reminder at hand is the one whose demo was loaded last. -/
theorem Swept.hand {n : Nat} (hs : Swept h now rows (n + 1)) {r : ScheduledReminder}
    (hr : rows[n]? = some r) : atHand h = some r := by
  rw [atHand, hs.found, hs.count]
  exact hr

theorem sweepOne_calls {n : Nat} {r : ScheduledReminder} (hs : Swept h now rows n)
    (hr : rows[n]? = some r) :
    (sweepOne cfg now r).GuardedTo (SweepCall cfg) (fun _ h' => Swept h' now rows (n + 1)) h := by
  refine Prog.guardedTo_perform_bind (S := ports) (.load _) fun (demo : Option Demo) => ?_
  have hloaded := hs.load r.demoId demo
  have hdue : latest dueFound (h ++ [⟨.loadDemo r.demoId, .ok demo⟩]) ≠ none := by
    rw [hloaded.found]
    exact Option.some_ne_none _
  cases demo with
  | none =>
    exact Prog.guardedTo_perform_bind (S := ports) (.mark _ _ _ _ hdue)
      fun _ => hloaded.snoc rfl rfl
  | some demo =>
    cases hobsolete : r.obsolete demo now with
    | some reason =>
      simp only [hobsolete]
      exact Prog.guardedTo_perform_bind (S := ports) (.mark _ _ _ _ hdue)
        fun _ => hloaded.snoc rfl rfl
    | none =>
      simp only [hobsolete]
      refine Prog.GuardedTo.bind (R := fun message h' => ∃ createdAt,
        message = r.message demo (reminderVariables cfg r demo) createdAt ∧
          h' = h ++ [⟨.loadDemo r.demoId, .ok (some demo)⟩] ++ [⟨.now, .ok createdAt⟩]) ?_
        fun message h' hx => ?_
      · refine Prog.guardedTo_perform_bind (S := ports) .now fun (createdAt : Time) => ?_
        dsimp only
        split
        · exact ⟨createdAt, rfl, rfl⟩
        · trivial
      · obtain ⟨createdAt, rfl, rfl⟩ := hx
        have hread := hloaded.snoc (c := ⟨.now, .ok createdAt⟩) rfl rfl
        have hgoes : GoesOut (h ++ [⟨.loadDemo r.demoId, .ok (some demo)⟩] ++
            [⟨.now, .ok createdAt⟩]) now r demo :=
          ⟨⟨rows, hread.found, List.mem_of_getElem? hr⟩, hread.hand hr,
            (latest_concat_none rfl).trans (latest_concat_some rfl), hobsolete⟩
        refine Prog.guardedTo_perform_bind (S := ports) (.send hgoes) fun (outcome : SendResult) => ?_
        have hsent := hread.snoc (c := ⟨.send (r.message demo (reminderVariables cfg r demo)
          createdAt), .ok outcome⟩) rfl rfl
        refine Prog.guardedTo_perform_bind (S := ports) (.mark _ _ _ _ ?_) fun _ => hsent.snoc rfl rfl
        rw [hsent.found]
        exact Option.some_ne_none _

theorem sweepAll_calls {n : Nat} {due : List ScheduledReminder} (hs : Swept h now rows n)
    (hdue : rows.drop n = due) (sent : Nat) :
    (sweepAll cfg now due sent).GuardedTo (SweepCall cfg) (fun _ _ => True) h := by
  induction due generalizing h n sent with
  | nil => trivial
  | cons r rest ih =>
    have hr : rows[n]? = some r := by
      rw [← List.head?_drop, hdue, List.head?_cons]
    have hrest : rows.drop (n + 1) = rest := by
      rw [← List.tail_drop, hdue, List.tail_cons]
    exact (sweepOne_calls hs hr).bind fun delivered h' hs' => ih hs' hrest _

/-- **A sweep sends only reminders that are due and not obsolete**, for the demo it has loaded. -/
theorem sweep_calls : (sweep cfg).GuardedTo (SweepCall cfg) (fun _ _ => True) [] := by
  refine Prog.guardedTo_perform_bind (S := ports) .now fun (now : Time) => ?_
  refine Prog.guardedTo_perform_bind (S := ports) (.expire now) fun (expired : SlotAnswer) => ?_
  refine Prog.guardedTo_perform_bind (S := ports) (.due now rfl)
    fun (due : List ScheduledReminder) => ?_
  exact (sweepAll_calls ⟨rfl, rfl⟩ rfl 0).bind fun _ _ _ => trivial

end Walk

end NxTutors.DemoAgent
