import NxTutors.DemoAgent.ReminderStores
import NxTutors.DemoAgent.Sweep
import NxTutors.Effect.Answering
import Mathlib.Data.List.Sort

/-!
# The ceiling of reminders

A policy says how many reminders a demo may have, *across reschedules*. What is checked is how many
a plan has, and every reschedule plans again: the reminders of the revisions before that have gone
out are not counted. So a demo that is moved after some of its reminders have gone out may get more
of them than the policy allows.

`handed_le_ceiling` says when it does not: each plan has to leave room for what has gone out
already. Then the reminders that have gone out, and those that are pending, are never more than the
ceiling.
-/

namespace NxTutors.DemoAgent

open Effect
open Store

/-! ## What is due -/

/-- `due`: in memory by age, in PostgreSQL by time. -/
def ReminderStore.due (store : ReminderStore) (rows : ReminderRows) (now : Time) (limit : Nat) :
    List ScheduledReminder :=
  match store with
  | .memory => rows.due now limit
  | .postgres =>
    ((rows.filter fun r => r.due now).insertionSort fun r r' => r.fireAt ≤ r'.fireAt).take limit

/-- Rows have different identifiers. -/
def Distinct (rows : List ScheduledReminder) : Prop :=
  (rows.map ScheduledReminder.reminderId).Nodup

section Rows

variable {store : ReminderStore} {rows rows' : ReminderRows} {now : Time} {limit : Nat}
  {demoId : String} {r : ScheduledReminder} {planned : List ScheduledReminder}

/-- What is due is among the rows, and pending. -/
theorem mem_due (hr : r ∈ store.due rows now limit) : r ∈ rows ∧ r.status = .pending := by
  have hdue : r ∈ rows.filter fun r => r.due now := by
    cases store with
    | memory => exact List.mem_of_mem_take hr
    | postgres => exact (List.perm_insertionSort _ _).mem_iff.mp (List.mem_of_mem_take hr)
  obtain ⟨hmem, hdue⟩ := List.mem_filter.mp hdue
  exact ⟨hmem, of_decide_eq_true (Bool.and_eq_true_iff.mp hdue).1⟩

theorem distinct_due (h : Distinct rows) : Distinct (store.due rows now limit) := by
  have hfilter : Distinct (rows.filter fun r => r.due now) := h.sublist (List.filter_sublist.map _)
  cases store with
  | memory => exact hfilter.sublist ((List.take_sublist _ _).map _)
  | postgres =>
    exact (((List.perm_insertionSort _ _).map _).nodup_iff.mpr hfilter).sublist
      ((List.take_sublist _ _).map _)

/-- How many reminders of the demo are pending. -/
def ReminderRows.pending (demoId : String) (rows : ReminderRows) : Nat :=
  rows.countP (·.pendingFor demoId)

/-- Changing rows so that fewer count, one that counted among them. -/
theorem countP_map_add_le {p : ScheduledReminder → Bool} {f : ScheduledReminder → ScheduledReminder}
    (hless : ∀ x, p (f x) = true → p x = true) (hr : r ∈ rows) (hnot : p (f r) = false) :
    (rows.map f).countP p + (if p r = true then 1 else 0) ≤ rows.countP p := by
  induction rows with
  | nil => cases hr
  | cons x rest ih =>
    rw [List.map_cons, List.countP_cons, List.countP_cons]
    have hrest : (rest.map f).countP p ≤ rest.countP p := by
      rw [List.countP_map]
      exact List.countP_mono_left fun y _ => hless y
    rcases List.mem_cons.mp hr with rfl | hr
    · rw [if_neg (by rw [hnot]; exact Bool.false_ne_true)]
      omega
    · have hfirst : (if p (f x) = true then 1 else 0) ≤ if p x = true then 1 else 0 := by
        split
        · rename_i hx
          rw [if_pos (hless x hx)]
        · exact Nat.zero_le _
      have hih := ih hr
      omega

/-- Marking a reminder that is pending takes it out of what is pending. -/
theorem pending_mark {status : ReminderStatus} {detail : String} (hstatus : status ≠ .pending)
    (hr : r ∈ rows) (hpending : r.status = .pending) :
    (rows.mark r.reminderId status now detail).pending demoId +
      (if r.demoId = demoId then 1 else 0) ≤ rows.pending demoId := by
  have hself : (if r.demoId = demoId then 1 else 0) =
      if r.pendingFor demoId = true then 1 else 0 := by
    simp [ScheduledReminder.pendingFor, hpending]
  rw [hself]
  refine countP_map_add_le (fun x hx => ?_) hr ?_
  · split at hx
    · simp [ScheduledReminder.pendingFor, hstatus] at hx
    · exact hx
  · rw [if_pos rfl]
    simp [ScheduledReminder.pendingFor, hstatus]

/-- A row that is stored in memory adds at most itself. -/
theorem pending_upsert :
    (Table.upsert ScheduledReminder.reminderId r rows).countP (·.pendingFor demoId) ≤
      rows.countP (·.pendingFor demoId) + 1 := by
  induction rows with
  | nil =>
    rw [Table.upsert, List.countP_cons]
    split <;> omega
  | cons x rest ih =>
    rw [Table.upsert]
    split
    · rw [List.countP_cons, List.countP_cons]
      split <;> omega
    · rw [List.countP_cons, List.countP_cons]
      omega

/-- Nor does one that is inserted in PostgreSQL add more. -/
theorem pending_insert (h : PgReminders.insert rows r = some rows') :
    rows'.countP (·.pendingFor demoId) ≤ rows.countP (·.pendingFor demoId) + 1 := by
  rw [PgReminders.insert] at h
  split at h
  · obtain rfl := Option.some.inj h
    exact Nat.le_succ _
  · split at h
    · cases h
    · obtain rfl := Option.some.inj h
      rw [List.countP_append]
      exact Nat.add_le_add_left List.countP_le_length _

/-- A row that is inserted has an identifier that no other row has. -/
theorem distinct_insert (hdistinct : Distinct rows) (h : PgReminders.insert rows r = some rows') :
    Distinct rows' := by
  rw [PgReminders.insert] at h
  split at h
  · obtain rfl := Option.some.inj h
    exact hdistinct
  · split at h
    · cases h
    · rename_i hnew
      obtain rfl := Option.some.inj h
      rw [Distinct, List.map_append, List.map_singleton]
      refine List.Nodup.append hdistinct (List.nodup_singleton _) ?_
      intro id hmem hid
      obtain ⟨x, hx, rfl⟩ := List.mem_map.mp hmem
      exact hnew (List.any_eq_true.mpr ⟨x, hx, decide_eq_true (List.mem_singleton.mp hid)⟩)

/-- **What is pending afterwards is no more than was planned**, and the rows keep different
identifiers. -/
theorem replaceForDemo_spec (hdistinct : Distinct rows)
    (h : store.replaceForDemo rows demoId planned = some rows') :
    rows'.pending demoId ≤ planned.length ∧ Distinct rows' := by
  have hnone : (rows.map (ReminderRows.cancelled demoId)).countP (·.pendingFor demoId) = 0 := by
    rw [List.countP_eq_length_filter, filter_cancelled, List.length_nil]
  have hcancelled : Distinct (rows.map (ReminderRows.cancelled demoId)) := by
    rw [Distinct, map_cancelled_reminderId]
    exact hdistinct
  suffices hadd : rows'.pending demoId ≤
      (rows.map (ReminderRows.cancelled demoId)).countP (·.pendingFor demoId) + planned.length ∧
        Distinct rows' by
    rwa [hnone, Nat.zero_add] at hadd
  cases store with
  | memory =>
    obtain rfl := Option.some.inj h
    rw [ReminderRows.replaceForDemo]
    clear h hnone hdistinct
    generalize rows.map (ReminderRows.cancelled demoId) = start at hcancelled ⊢
    induction planned generalizing start with
    | nil => exact ⟨le_rfl, hcancelled⟩
    | cons r rest ih =>
      obtain ⟨hrest, hkept⟩ := ih _ (Table.nodup_upsert r hcancelled)
      have hone : (Table.upsert ScheduledReminder.reminderId r start).countP (·.pendingFor demoId) ≤
          start.countP (·.pendingFor demoId) + 1 := pending_upsert
      exact ⟨by rw [List.foldl_cons, List.length_cons]; omega, hkept⟩
  | postgres =>
    rw [ReminderStore.replaceForDemo, PgReminders.replaceForDemo] at h
    clear hnone hdistinct
    generalize rows.map (ReminderRows.cancelled demoId) = start at hcancelled h ⊢
    induction planned generalizing start with
    | nil =>
      obtain rfl := Option.some.inj h
      exact ⟨le_rfl, hcancelled⟩
    | cons r rest ih =>
      rw [List.foldlM_cons] at h
      obtain ⟨next, hnext, h⟩ := Option.bind_eq_some_iff.mp h
      obtain ⟨hrest, hkept⟩ := ih _ (distinct_insert hcancelled hnext) h
      have hone : next.countP (·.pendingFor demoId) ≤ start.countP (·.pendingFor demoId) + 1 :=
        pending_insert hnext
      exact ⟨by rw [List.length_cons]; omega, hkept⟩

theorem distinct_mark {id detail : String} {status : ReminderStatus} (h : Distinct rows) :
    Distinct (rows.mark id status now detail) := by
  rw [Distinct, mark_reminderId]
  exact h

end Rows

/-! ## Planning -/

/-- The setting of the command at a moment, for the demo as it is then. Any call may raise, and the
rows may have been replaced then. -/
def planning (store : ReminderStore) (demo : Demo) (now : Time) :
    Setting ports Exn ReminderRows where
  answers o a r b := match o, r with
    | .demoForConversation _, r => (∀ found, r = .ok (some found) → found = demo) ∧ b = a
    | .now, r => (∀ moment, r = .ok moment → moment = now) ∧ b = a
    | .replaceForDemo demoId _ reminders, _ =>
      b = a ∨ store.replaceForDemo a demoId reminders = some b
    | _, _ => b = a
  moves := Eq

section Planning

variable {cfg : Config} {store : ReminderStore} {demo : Demo} {now : Time} {rows : ReminderRows}

/-- Naming the reminders of a ladder leaves the rows alone, and makes as many. -/
theorem named_count (ladder : List (String → ScheduledReminder)) :
    Meets (planning store demo now) (fun _ _ => True)
      (fun out b => b = rows ∧ ∀ planned, out = .ok planned → planned.length = ladder.length)
      (named ladder) rows := by
  induction ladder with
  | nil => exact ⟨rfl, fun planned h => Except.ok.inj h ▸ rfl⟩
  | cons f rest ih =>
    refine Meets.perform_bind fun a hmove r b hans => ⟨trivial, fun id _ => ?_, fun exn _ => ?_⟩
    · obtain rfl : b = rows := hans.trans hmove.symm
      refine ih.bind (fun planned b h => ?_) fun exn b h => ⟨h.1, fun _ heq => by cases heq⟩
      refine ⟨h.1, fun planned' heq => ?_⟩
      obtain rfl := Except.ok.inj heq
      rw [List.length_cons, List.length_cons, h.2 planned rfl]
    · exact ⟨hans.trans hmove.symm, fun _ heq => by cases heq⟩

/-- How many reminders a plan has. -/
def Config.planned (cfg : Config) (demo : Demo) (now : Time) : Nat :=
  min cfg.reminderPolicy.maxRemindersPerDemo
    (cfg.reminderPolicy.ladder cfg.zones demo now).length

theorem plan_count : Meets (planning store demo now) (fun _ _ => True)
    (fun out b => b = rows ∧ ∀ planned, out = .ok planned → planned.length = cfg.planned demo now)
    (plan cfg demo) rows := by
  refine Meets.perform_bind fun a hmove r b hans => ⟨trivial, fun moment hr => ?_, fun exn _ => ?_⟩
  · obtain rfl : b = rows := hans.2.trans hmove.symm
    obtain rfl := hans.1 moment hr
    refine (named_count _).bind (fun planned b h => ?_) fun exn b h => ⟨h.1, fun _ heq => by cases heq⟩
    refine ⟨h.1, fun planned' heq => ?_⟩
    rw [← Except.ok.inj heq, List.length_take, h.2 planned rfl]
    rfl
  · exact ⟨hans.2.trans hmove.symm, fun _ heq => by cases heq⟩

theorem scheduleAll_count {demoId : String} {reminders : List ScheduledReminder} :
    Meets (planning store demo now) (fun _ _ => True) (fun _ b => b = rows)
      (scheduleAll demoId reminders) rows := by
  induction reminders with
  | nil => exact rfl
  | cons r rest ih =>
    refine Meets.perform_bind fun a hmove r b hans => ?_
    obtain rfl : b = rows := hans.trans hmove.symm
    exact ⟨trivial, fun _ _ => ih, fun _ _ => rfl⟩

/-- **A run of the command plans as many reminders as the ladder of the demo has then**, or
nothing. -/
theorem scheduleReminders_count {ctx : TurnContext} :
    Meets (planning store demo now) (fun _ _ => True)
      (fun _ b => b = rows ∨ ∃ planned, planned.length = cfg.planned demo now ∧
        store.replaceForDemo rows demo.demoId planned = some b) (scheduleReminders cfg ctx) rows := by
  refine Cmd.meets_context_bind ?_
  split
  · exact .inl rfl
  · refine Cmd.meets_call_bind fun a hmove r b hans => ⟨trivial, fun found hr => ?_, fun exn _ => ?_⟩
    · obtain rfl : b = rows := hans.2.trans hmove.symm
      cases found with
      | none => exact .inl rfl
      | some found =>
        obtain rfl := hans.1 found hr
        refine Cmd.meets_lift_bind plan_count (fun planned b' h => ?_) fun exn b' h => .inl h.1
        obtain ⟨rfl, hlength⟩ := h
        refine Cmd.meets_call_bind fun a hmove' r c hreplace => ?_
        obtain rfl : a = b' := hmove'.symm
        have hdone : c = a ∨ ∃ planned, planned.length = cfg.planned found now ∧
            store.replaceForDemo a found.demoId planned = some c := by
          rcases hreplace with rfl | hreplaced
          · exact .inl rfl
          · exact .inr ⟨planned, hlength planned rfl, hreplaced⟩
        refine ⟨trivial, fun _ _ => ?_, fun _ _ => hdone⟩
        refine Cmd.meets_lift_bind scheduleAll_count (fun _ c' hsame => ?_) fun _ c' hsame => ?_
        · exact hsame ▸ hdone
        · exact hsame ▸ hdone
    · exact .inl (hans.2.trans hmove.symm)

end Planning

/-! ## Sweeping -/

/-- The rows of a store, and how many reminders of a demo were handed to the boundary. -/
structure Watch where
  rows : ReminderRows
  handed : Nat

/-- The rows, with a reminder marked. -/
def Watch.mark (a : Watch) (reminderId : String) (status : ReminderStatus) (now : Time)
    (detail : String) : Watch := { a with rows := a.rows.mark reminderId status now detail }

/-- One message more was handed over, if it is about the demo. -/
def Watch.hand (a : Watch) (demoId : String) (message : OutboundMessage) : Watch :=
  { a with handed := a.handed + if message.demoId = .str demoId then 1 else 0 }

/-- The setting of a sweep. A demo is loaded as it is then; any call may raise. -/
def watching (store : ReminderStore) (demoId : String) : Setting ports Exn Watch where
  answers o a r b := match o, r with
    | .dueReminders now limit, r =>
      (∀ due, r = .ok due → due = store.due a.rows now limit) ∧ b = a
    | .loadDemo demoId, r => (∀ demo, r = .ok (some demo) → demo.demoId = demoId) ∧ b = a
    | .markReminder reminderId status now detail, r =>
      b = a.mark reminderId status now detail ∨ (∃ exn, r = .error exn) ∧ b = a
    | .send message, _ => b = a.hand demoId message
    | _, _ => b = a
  moves := Eq

/-- The call hands a reminder over, or marks one, and raises. -/
def Interrupted : Call ports Exn → Prop
  | ⟨.send _, .error _⟩ => True
  | ⟨.markReminder .., .error _⟩ => True
  | _ => False

/-- No call that hands a reminder over, or marks one, has raised. -/
def Completed (calls : History ports Exn) : Prop := ∀ c ∈ calls, ¬ Interrupted c

/-- There is room for what is pending: with what has gone out, it is not more than `n`. -/
structure Room (demoId : String) (n : Nat) (a : Watch) : Prop where
  distinct : Distinct a.rows
  bound : a.handed + a.rows.pending demoId ≤ n

section Sweeping

variable {cfg : Config} {store : ReminderStore} {demoId : String} {n : Nat} {a b : Watch}
  {now : Time} {r : ScheduledReminder} {log : History ports Exn}

theorem not_completed {c : Call ports Exn} (hc : Interrupted c) :
    ¬ Completed (log ++ [c]) := fun h => h c (List.mem_append_right _ List.mem_cons_self) hc

/-- Marking a reminder leaves the others. -/
theorem mem_mark_of_ne {rows : ReminderRows} {other : ScheduledReminder} {id detail : String}
    {status : ReminderStatus} (hother : other ∈ rows) (hne : other.reminderId ≠ id) :
    other ∈ rows.mark id status now detail :=
  List.mem_map.mpr ⟨other, hother, if_neg hne⟩

/-- What is left of the rows when a reminder has been dealt with. -/
structure Dealt (demoId : String) (n : Nat) (a : Watch) (r : ScheduledReminder) (b : Watch) :
    Prop where
  room : Room demoId n b
  others : ∀ other ∈ a.rows, other.reminderId ≠ r.reminderId → other ∈ b.rows

theorem Room.dealt (h : Room demoId n a) : Dealt demoId n a r a := ⟨h, fun _ hother _ => hother⟩

/-- A reminder that is pending is marked. -/
theorem Room.mark (h : Room demoId n a) (hr : r ∈ a.rows) (hpending : r.status = .pending)
    {status : ReminderStatus} (hstatus : status ≠ .pending) {detail : String} :
    Dealt demoId n a r (a.mark r.reminderId status now detail) := by
  refine ⟨⟨distinct_mark h.distinct, ?_⟩, fun other hother hne => mem_mark_of_ne hother hne⟩
  have hmarked : (a.rows.mark r.reminderId status now detail).pending demoId +
      (if r.demoId = demoId then 1 else 0) ≤ a.rows.pending demoId :=
    pending_mark hstatus hr hpending
  have hbound := h.bound
  dsimp only [Watch.mark]
  omega

/-- A reminder that is pending is handed over, and marked. -/
theorem Room.hand (h : Room demoId n a) (hr : r ∈ a.rows) (hpending : r.status = .pending)
    {status : ReminderStatus} (hstatus : status ≠ .pending) {detail : String}
    {message : OutboundMessage} (hmessage : message.demoId = .str r.demoId) :
    Dealt demoId n a r ((a.hand demoId message).mark r.reminderId status now detail) := by
  refine ⟨⟨distinct_mark h.distinct, ?_⟩, fun other hother hne => mem_mark_of_ne hother hne⟩
  have hmarked : (a.rows.mark r.reminderId status now detail).pending demoId +
      (if r.demoId = demoId then 1 else 0) ≤ a.rows.pending demoId :=
    pending_mark hstatus hr hpending
  have hbound := h.bound
  have hsame : (if message.demoId = .str demoId then 1 else 0) =
      if r.demoId = demoId then 1 else 0 := by
    rw [hmessage]
    simp only [Value.str.injEq]
  dsimp only [Watch.mark, Watch.hand]
  rw [hsame]
  omega

/-- The same, where marking it may have raised, and done nothing. -/
theorem Room.marked (h : Room demoId n a) (hr : r ∈ a.rows) (hpending : r.status = .pending)
    {status : ReminderStatus} (hstatus : status ≠ .pending) {detail : String}
    {res : Except Exn Unit} (hmark : b = a.mark r.reminderId status now detail ∨
      (∃ exn, res = .error exn) ∧ b = a) : Dealt demoId n a r b := by
  rcases hmark with rfl | ⟨-, rfl⟩
  · exact h.mark hr hpending hstatus
  · exact h.dealt

/-- A message is built from the demo as it was loaded. -/
theorem toMessage_meets {demo : Demo} {values : List String} :
    Meets (watching store demoId).logged (fun _ _ => True)
      (fun out b => b.1 = a ∧ ∀ message, out = .ok message → message.demoId = .str demo.demoId)
      (toMessage cfg r demo values) (a, log) := by
  refine meets_still_bind (fun _ _ h => h) (fun (moment : Time) b hans => ?_) fun exn b hans => ?_
  · obtain rfl : b = a := hans
    dsimp only
    split
    · exact ⟨rfl, fun message heq => Except.ok.inj heq ▸ rfl⟩
    · exact ⟨rfl, fun message heq => by cases heq⟩
  · obtain rfl : b = a := hans
    exact ⟨rfl, fun message heq => by cases heq⟩

/-- **Dealing with one reminder that is pending keeps the room**, unless it is interrupted. -/
theorem sweepOne_room (hroom : Room demoId n a) (hr : r ∈ a.rows) (hpending : r.status = .pending) :
    Meets (watching store demoId).logged (fun _ _ => True)
      (fun out b => (Completed b.2 ∨ ∃ x, out = .ok x) → Dealt demoId n a r b.1)
      (sweepOne cfg now r) (a, log) := by
  have hmoves : ∀ a b, (watching store demoId).moves a b → a = b := fun _ _ h => h
  refine meets_still_bind hmoves (fun (found : Option Demo) b hans => ?_) fun exn b hans _ => ?_
  · obtain ⟨hfound, rfl⟩ := hans
    cases found with
    | none =>
      have hcancelled : ReminderStatus.cancelled ≠ .pending := by decide
      exact meets_still_bind hmoves (fun _ c hmark _ => hroom.marked hr hpending hcancelled hmark)
        fun exn c hmark _ => hroom.marked hr hpending hcancelled hmark
    | some demo =>
      have hdemo := hfound demo rfl
      cases hobsolete : r.obsolete demo now with
      | some reason =>
        simp only [hobsolete]
        have hsuppressed : ReminderStatus.suppressed ≠ .pending := by decide
        exact meets_still_bind hmoves
          (fun _ c hmark _ => hroom.marked hr hpending hsuppressed hmark)
          fun exn c hmark _ => hroom.marked hr hpending hsuppressed hmark
      | none =>
        simp only [hobsolete]
        refine toMessage_meets.bind (fun message c h => ?_) fun exn c h _ => h.1 ▸ hroom.dealt
        obtain ⟨c, log'⟩ := c
        obtain ⟨rfl, hmessage⟩ := h
        have habout : message.demoId = .str r.demoId := by
          rw [hmessage message rfl, hdemo]
        refine meets_still_bind hmoves (fun (outcome : SendResult) d hsend => ?_) fun exn d _ h => ?_
        · obtain rfl := hsend
          refine meets_still_bind hmoves (fun _ e hmark _ => ?_) fun exn e _ h => ?_
          · obtain rfl := hmark.resolve_right fun ⟨⟨exn, heq⟩, _⟩ => nomatch heq
            refine hroom.hand hr hpending ?_ habout
            split <;> decide
          · rcases h with hcompleted | ⟨x, heq⟩
            · exact absurd hcompleted (not_completed trivial)
            · cases heq
        · rcases h with hcompleted | ⟨x, heq⟩
          · exact absurd hcompleted (not_completed trivial)
          · cases heq
  · obtain ⟨-, rfl⟩ := hans
    exact hroom.dealt

/-- The reminders that are due are dealt with, one after another. -/
theorem sweepAll_room {due : List ScheduledReminder} (hdistinct : Distinct due)
    (hdue : ∀ r ∈ due, r ∈ a.rows ∧ r.status = .pending) (hroom : Room demoId n a) (sent : Nat) :
    Meets (watching store demoId).logged (fun _ _ => True)
      (fun out b => (Completed b.2 ∨ ∃ x, out = .ok x) → Room demoId n b.1)
      (sweepAll cfg now due sent) (a, log) := by
  induction due generalizing a log sent with
  | nil => exact fun _ => hroom
  | cons r rest ih =>
    obtain ⟨hfirst, hrest⟩ := List.nodup_cons.mp hdistinct
    obtain ⟨hr, hpending⟩ := hdue r List.mem_cons_self
    refine (sweepOne_room hroom hr hpending).bind (fun delivered b h => ?_) fun exn b h hcompleted => ?_
    · obtain ⟨b, log'⟩ := b
      have hdealt := h (.inr ⟨delivered, rfl⟩)
      refine ih hrest (fun other hother => ?_) hdealt.room _
      obtain ⟨hmem, hstatus⟩ := hdue other (List.mem_cons_of_mem _ hother)
      refine ⟨hdealt.others other hmem fun heq => hfirst ?_, hstatus⟩
      exact heq ▸ List.mem_map_of_mem hother
    · rcases hcompleted with hcompleted | ⟨x, heq⟩
      · exact (h (.inl hcompleted)).room
      · cases heq

/-- **A sweep that is not interrupted keeps the room.** -/
theorem sweep_room (hroom : Room demoId n a) : Meets (watching store demoId).logged (fun _ _ => True)
    (fun _ b => Completed b.2 → Room demoId n b.1) (sweep cfg) (a, log) := by
  have hmoves : ∀ a b, (watching store demoId).moves a b → a = b := fun _ _ h => h
  refine meets_still_bind hmoves (fun (now : Time) b hans => ?_) fun _ b hans _ => ?_
  · obtain rfl : b = a := hans
    refine meets_still_bind hmoves (fun (expired : SlotAnswer) c hans => ?_) fun _ c hans _ => ?_
    · obtain rfl : c = b := hans
      refine meets_still_bind hmoves (fun (due : List ScheduledReminder) d hans => ?_)
        fun _ d hans _ => ?_
      · obtain ⟨hdue, rfl⟩ := hans
        obtain rfl := hdue due rfl
        refine (sweepAll_room (distinct_due hroom.distinct) (fun r hr => mem_due hr) hroom 0).bind
          (fun sent b h _ => h (.inr ⟨sent, rfl⟩)) fun exn b h hcompleted => h (.inl hcompleted)
      · exact hans.2 ▸ hroom
    · obtain rfl : c = b := hans
      exact hroom
  · obtain rfl : b = a := hans
    exact hroom

end Sweeping

/-! ## Runs of one demo -/

/-- What happens to the reminders of a demo: they are planned for the demo as it is at a moment,
whatever bookings and reschedules have made of it; a sweep, with its calls; what is pending is
cancelled. -/
inductive Episode
  | plan (demo : Demo) (now : Time)
  | sweep (calls : History ports Exn)
  | cancel

def Episode.step (cfg : Config) (store : ReminderStore) (demoId : String) (a : Watch) (l : Episode)
    (b : Watch) : Prop :=
  match l with
  | .plan demo now => demo.demoId = demoId ∧ b.handed = a.handed ∧
    ∃ ctx out, Run (planning store demo now) (scheduleReminders cfg ctx) a.rows out b.rows
  | .sweep calls =>
    ∃ out, Run (watching store demoId).logged (DemoAgent.sweep cfg) (a, []) out (b, calls)
  | .cancel => b = { a with rows := (a.rows.cancelForDemo demoId).2 }

/-- **A plan leaves room for the reminders that have gone out**, and a sweep is not interrupted. -/
def Episode.Heeds (cfg : Config) (a : Watch) : Episode → Prop
  | .plan demo now => a.handed = 0 ∨
    a.handed + (cfg.reminderPolicy.ladder cfg.zones demo now).length ≤
      cfg.reminderPolicy.maxRemindersPerDemo
  | .sweep calls => Completed calls
  | .cancel => True

section Episodes

variable {cfg : Config} {store : ReminderStore} {demoId : String} {a b : Watch} {ls : List Episode}

/-- **What an episode does**: it keeps the room that the ceiling leaves. -/
theorem Room.step {l : Episode} (hroom : Room demoId cfg.reminderPolicy.maxRemindersPerDemo a)
    (hstep : l.step cfg store demoId a b) (hheeds : l.Heeds cfg a) :
    Room demoId cfg.reminderPolicy.maxRemindersPerDemo b := by
  cases l with
  | plan demo now =>
    obtain ⟨rfl, hhanded, ctx, out, hrun⟩ := hstep
    rcases scheduleReminders_count.run hrun with hsame | ⟨planned, hlength, hreplaced⟩
    · exact ⟨hsame ▸ hroom.distinct, by rw [hsame, hhanded]; exact hroom.bound⟩
    · obtain ⟨hpending, hdistinct⟩ := replaceForDemo_spec hroom.distinct hreplaced
      refine ⟨hdistinct, ?_⟩
      have hceiling := Nat.min_le_left cfg.reminderPolicy.maxRemindersPerDemo
        (cfg.reminderPolicy.ladder cfg.zones demo now).length
      have hladder := Nat.min_le_right cfg.reminderPolicy.maxRemindersPerDemo
        (cfg.reminderPolicy.ladder cfg.zones demo now).length
      rw [hlength, Config.planned] at hpending
      rw [hhanded]
      rcases hheeds with hnone | hroom'
      · omega
      · omega
  | sweep calls =>
    obtain ⟨out, hrun⟩ := hstep
    exact (sweep_room hroom).run hrun hheeds
  | cancel =>
    obtain rfl := hstep
    have hnone : ((a.rows.cancelForDemo demoId).2).pending demoId = 0 := by
      rw [ReminderRows.cancelForDemo, ReminderRows.pending, List.countP_eq_length_filter,
        filter_cancelled, List.length_nil]
    refine ⟨?_, ?_⟩
    · rw [Distinct, ReminderRows.cancelForDemo, map_cancelled_reminderId]
      exact hroom.distinct
    · have hbound := hroom.bound
      dsimp only
      omega

/-- **The ceiling survives reschedules if every plan leaves room for what has gone out.** -/
theorem handed_le_ceiling (hdistinct : Distinct a.rows) (hnone : ∀ r ∈ a.rows, r.demoId ≠ demoId)
    (hhanded : a.handed = 0)
    (hpath : Path (fun a l b => Episode.step cfg store demoId a l b ∧ l.Heeds cfg a) a ls b) :
    b.handed ≤ cfg.reminderPolicy.maxRemindersPerDemo := by
  have hpending : a.rows.pending demoId = 0 := by
    refine List.countP_eq_zero.mpr fun r hr => ?_
    simp [ScheduledReminder.pendingFor, hnone r hr]
  have hroom : Room demoId cfg.reminderPolicy.maxRemindersPerDemo a := ⟨hdistinct, by omega⟩
  have hend := hpath.invariant hroom fun _ _ _ h hstep => h.step hstep.1 hstep.2
  exact (Nat.le_add_right _ _).trans hend.bound

end Episodes

/-! ## A demo that is moved once -/

/-- A policy with one reminder for the student, and room for no other. -/
def singleConfig : Config :=
  { plainConfig with
    reminderPolicy := { REMINDER_POLICY with
      offsets := [{ label := "t15m", minutesBefore := 15, audience := "student",
                    template := "demo_reminder_t15m" }]
      maxRemindersPerDemo := 1 } }

section Concrete

variable {cfg : Config} {store : ReminderStore} {a : Watch} {r : ScheduledReminder} {demo : Demo}
  {now : Time}

/-- The calls that send a reminder. -/
def sendingCalls (cfg : Config) (r : ScheduledReminder) (demo : Demo) (now : Time) :
    History ports Exn :=
  [⟨.loadDemo r.demoId, .ok (some demo)⟩, ⟨.now, .ok now⟩,
    ⟨.send (r.message demo (reminderVariables cfg r demo) now), .ok ⟨.sent, "", ""⟩⟩,
    ⟨.markReminder r.reminderId .sent now "sent", .ok ()⟩]

/-- A reminder that is not obsolete is sent. -/
theorem run_sweepOne (hdemo : demo.demoId = r.demoId) (hobsolete : r.obsolete demo now = none)
    (hdeliverable : (r.message demo (reminderVariables cfg r demo) now).deliverable cfg = true)
    {log : History ports Exn} : Run (watching store r.demoId).logged (sweepOne cfg now r) (a, log)
      (.ok true) (⟨a.rows.mark r.reminderId .sent now "sent", a.handed + 1⟩,
        log ++ sendingCalls cfg r demo now) := by
  have hmoves : ∀ w, (watching store r.demoId).moves w w := fun _ => rfl
  refine run_still (S := ports) hmoves (o := Op.loadDemo r.demoId) (r := .ok (some demo))
    ⟨fun found heq => by cases heq; exact hdemo, rfl⟩ ?_
  dsimp only [Prog.bind]
  rw [hobsolete]
  refine run_still (S := ports) hmoves (o := Op.now) (r := .ok now) rfl ?_
  change Run _ ((if (r.message demo (reminderVariables cfg r demo) now).deliverable cfg = true then
    pure (r.message demo (reminderVariables cfg r demo) now) else throw _) >>= _) _ _ _
  rw [if_pos hdeliverable]
  have hhanded : a.hand r.demoId (r.message demo (reminderVariables cfg r demo) now) =
      ⟨a.rows, a.handed + 1⟩ := by
    have habout : (r.message demo (reminderVariables cfg r demo) now).demoId = .str r.demoId :=
      congrArg Value.str hdemo
    rw [Watch.hand, if_pos habout]
  refine run_still (S := ports) hmoves
    (o := Op.send (r.message demo (reminderVariables cfg r demo) now)) (r := .ok ⟨.sent, "", ""⟩)
    hhanded.symm ?_
  refine run_still (S := ports) hmoves (o := Op.markReminder r.reminderId .sent now "sent")
    (r := .ok ()) (.inl rfl) ?_
  rw [List.append_assoc, List.append_assoc, List.append_assoc]
  exact .ret

/-- A sweep that finds one reminder sends it. -/
theorem run_sweep (hdue : store.due a.rows now 100 = [r]) (hdemo : demo.demoId = r.demoId)
    (hobsolete : r.obsolete demo now = none)
    (hdeliverable : (r.message demo (reminderVariables cfg r demo) now).deliverable cfg = true) :
    ∃ calls, Completed calls ∧ Episode.step cfg store r.demoId a (.sweep calls)
      ⟨a.rows.mark r.reminderId .sent now "sent", a.handed + 1⟩ := by
  have hmoves : ∀ w, (watching store r.demoId).moves w w := fun _ => rfl
  refine ⟨[⟨.now, .ok now⟩, ⟨.slots ⟨now, .expireDue⟩, .ok (.expired [])⟩,
    ⟨.dueReminders now 100, .ok [r]⟩] ++ sendingCalls cfg r demo now, ?_, .ok ⟨0, 1, 1⟩, ?_⟩
  · simp [Completed, Interrupted, sendingCalls]
  · refine run_still (S := ports) hmoves (o := Op.now) (r := .ok now) rfl ?_
    refine run_still (S := ports) hmoves (o := Op.slots ⟨now, .expireDue⟩)
      (r := .ok (.expired [])) rfl ?_
    refine run_still (S := ports) hmoves (o := Op.dueReminders now 100) (r := .ok [r])
      ⟨fun due heq => by rw [hdue]; cases heq; rfl, rfl⟩ ?_
    have hall : Run (watching store r.demoId).logged (sweepAll cfg now [r] 0) (a,
        [⟨.now, .ok now⟩, ⟨.slots ⟨now, .expireDue⟩, .ok (.expired [])⟩,
          ⟨.dueReminders now 100, .ok [r]⟩]) (.ok 1) _ :=
      run_bind_iff.mpr (.inl ⟨true, _, run_sweepOne hdemo hobsolete hdeliverable, .ret⟩)
    exact (run_bind_iff (p := sweepAll cfg now [r] 0)).mpr (.inl ⟨1, _, hall, .ret⟩)

/-- A call of the command is answered. -/
theorem run_planning {α : Type} {o : Op} {k : Except Exn o.Res → Act α} {rows b c : ReminderRows}
    {r : Except Exn o.Res} {out : Except Exn α} (hans : (planning store demo now).answers o rows r b)
    (hrest : Run (planning store demo now) (k r) b out c) :
    Run (planning store demo now) (.call o k) rows out c :=
  have hmoved : (planning store demo now).moves rows rows := rfl
  .call hmoved hans hrest

end Concrete

/-- The demo, moved by an hour. -/
def movedDemo : Demo := soonDemo.withSlot { startsAt := 13 * hour + 20 * minute }

/-- What is planned for it then. -/
def movedReminder (reminderId : String) : ScheduledReminder :=
  { soonReminder reminderId with
    demoRevision := 2
    fireAt := 13 * hour + 5 * minute
    demoStartsAt := 13 * hour + 20 * minute }

/-- At noon, a reminder is planned. -/
theorem planned_soon : Episode.step singleConfig .memory "d" ⟨[], 0⟩ (.plan soonDemo (12 * hour))
    ⟨[soonReminder "1"], 0⟩ := by
  refine ⟨rfl, rfl, noContext, .ok (.ok {}, noContext), ?_⟩
  refine run_planning (o := .demoForConversation "c") (r := .ok (some soonDemo))
    ⟨fun found heq => by cases heq; rfl, rfl⟩ ?_
  refine run_planning (o := .now) (r := .ok (12 * hour : Time))
    ⟨fun moment heq => by cases heq; rfl, rfl⟩ ?_
  refine run_planning (o := .newId "rmd") (r := .ok "1") rfl ?_
  refine run_planning (o := .replaceForDemo "d" 1 [soonReminder "1"]) (r := .ok ()) (.inr rfl) ?_
  exact run_planning (o := .schedule ..) (r := .ok ()) rfl .ret

/-- Five minutes later it is sent. -/
theorem swept_soon : ∃ calls, Completed calls ∧ Episode.step singleConfig .memory "d"
    ⟨[soonReminder "1"], 0⟩ (.sweep calls)
    ⟨ReminderRows.mark [soonReminder "1"] "1" .sent (12 * hour + 5 * minute) "sent", 1⟩ :=
  @run_sweep singleConfig .memory ⟨[soonReminder "1"], 0⟩ (soonReminder "1") soonDemo
    (12 * hour + 5 * minute) rfl rfl rfl (by decide)

/-- After it has been moved, another one is. -/
theorem planned_moved : Episode.step singleConfig .memory "d"
    ⟨ReminderRows.mark [soonReminder "1"] "1" .sent (12 * hour + 5 * minute) "sent", 1⟩
    (.plan movedDemo (12 * hour + 10 * minute))
    ⟨ReminderRows.mark [soonReminder "1"] "1" .sent (12 * hour + 5 * minute) "sent" ++
      [movedReminder "2"], 1⟩ := by
  refine ⟨rfl, rfl, noContext, .ok (.ok {}, noContext), ?_⟩
  refine run_planning (o := .demoForConversation "c") (r := .ok (some movedDemo))
    ⟨fun found heq => by cases heq; rfl, rfl⟩ ?_
  refine run_planning (o := .now) (r := .ok (12 * hour + 10 * minute : Time))
    ⟨fun moment heq => by cases heq; rfl, rfl⟩ ?_
  refine run_planning (o := .newId "rmd") (r := .ok "2") rfl ?_
  refine run_planning (o := .replaceForDemo "d" 2 [movedReminder "2"]) (r := .ok ()) (.inr rfl) ?_
  exact run_planning (o := .schedule ..) (r := .ok ()) rfl .ret

/-- A demo that is not moved gets its reminder. -/
theorem soon_heeds : ∃ (ls : List Episode) (b : Watch),
    Path (fun a l b => Episode.step singleConfig .memory "d" a l b ∧ l.Heeds singleConfig a)
      ⟨[], 0⟩ ls b ∧
    b.handed = 1 ∧ b.handed ≤ singleConfig.reminderPolicy.maxRemindersPerDemo := by
  obtain ⟨calls, hcompleted, hsweep⟩ := swept_soon
  have hplan : Path (fun a l b => Episode.step singleConfig .memory "d" a l b ∧
      l.Heeds singleConfig a) ⟨[], 0⟩ [.plan soonDemo (12 * hour)] ⟨[soonReminder "1"], 0⟩ :=
    .snoc .nil ⟨planned_soon, .inl rfl⟩
  have hpath : Path (fun a l b => Episode.step singleConfig .memory "d" a l b ∧
      l.Heeds singleConfig a) ⟨[], 0⟩ [.plan soonDemo (12 * hour), .sweep calls] _ :=
    hplan.snoc ⟨hsweep, hcompleted⟩
  exact ⟨_, _, hpath, rfl, handed_le_ceiling (a := ⟨[], 0⟩) List.nodup_nil
    (fun _ h => absurd h List.not_mem_nil) rfl hpath⟩

/-- **A demo that is moved once gets two reminders, where the policy allows one.** -/
theorem moved_exceeds : ∃ (ls : List Episode) (b : Watch),
    Path (Episode.step singleConfig .memory "d") ⟨[], 0⟩ ls b ∧
      singleConfig.reminderPolicy.maxRemindersPerDemo < b.handed := by
  obtain ⟨calls, -, hsweep⟩ := swept_soon
  obtain ⟨calls', -, hsweep'⟩ := @run_sweep singleConfig .memory
    ⟨ReminderRows.mark [soonReminder "1"] "1" .sent (12 * hour + 5 * minute) "sent" ++
      [movedReminder "2"], 1⟩ (movedReminder "2") movedDemo (13 * hour + 5 * minute)
    rfl rfl rfl (by decide)
  refine ⟨_, _, .snoc (.snoc (.snoc (.snoc .nil planned_soon) hsweep) planned_moved) hsweep', ?_⟩
  decide

end NxTutors.DemoAgent
