import NxTutors.DemoAgent.Commands
import NxTutors.DemoAgent.World
import NxTutors.Effect.Guarded
import NxTutors.Effect.Path

/-!
# The reminder stores

Planning the reminders of a demo replaces what is pending of it: the rows of the old plan are
cancelled, and the new ones are stored. A command that is run again plans again, and what is pending
afterwards is meant to be the plan, once.

In memory the rows are a dictionary, and a plan always has new identifiers. PostgreSQL has a unique
index on the demo, the revision, the label and the audience, which counts the cancelled rows as
well, and a row that is in conflict with it is left out. So a plan that is made again for a revision
leaves nothing pending (`reruns_pending_iff`).
-/

namespace NxTutors.DemoAgent

open Effect
open Store

/-! ## PostgreSQL -/

namespace ScheduledReminder

/-- What the unique index is built on. -/
def indexKey (r : ScheduledReminder) : String × Nat × String × Party :=
  (r.demoId, r.demoRevision, r.label, r.audience)

/-- The row as it is inserted. -/
def inserted (r : ScheduledReminder) : ScheduledReminder :=
  { r with status := .pending, attempts := 0, sentAt := none, suppressionReason := "" }

/-- The reminder is pending, for this demo. -/
def pendingFor (demoId : String) (r : ScheduledReminder) : Bool :=
  r.demoId = demoId && r.status = .pending

end ScheduledReminder

namespace PgReminders

/-- `INSERT … ON CONFLICT (demo_id, demo_revision, label, audience) DO NOTHING`. What has the
identifier of another row is an error. -/
def insert (rows : ReminderRows) (r : ScheduledReminder) : Option ReminderRows :=
  if rows.any fun x => x.indexKey = r.indexKey then some rows
  else if rows.any fun x => x.reminderId = r.reminderId then none
  else some (rows ++ [r.inserted])

/-- The pending rows of a demo are cancelled, and new ones are inserted, in one transaction. -/
def replaceForDemo (rows : ReminderRows) (demoId : String) (reminders : List ScheduledReminder) :
    Option ReminderRows :=
  reminders.foldlM insert (rows.map (ReminderRows.cancelled demoId))

end PgReminders

open ScheduledReminder (indexKey)

/-- The two stores. -/
inductive ReminderStore
  | memory | postgres
  deriving DecidableEq

/-- `replace_for_demo`. There are no rows if it raises. -/
def ReminderStore.replaceForDemo (store : ReminderStore) (rows : ReminderRows) (demoId : String)
    (reminders : List ScheduledReminder) : Option ReminderRows :=
  match store with
  | .memory => some (rows.replaceForDemo demoId reminders)
  | .postgres => PgReminders.replaceForDemo rows demoId reminders

/-! ## Rows -/

section Rows

variable {rows rows' : ReminderRows} {planned : List ScheduledReminder} {demoId : String}
  {r : ScheduledReminder}

theorem cancelled_indexKey : (ReminderRows.cancelled demoId r).indexKey = r.indexKey := by
  rw [ReminderRows.cancelled]
  split <;> rfl

theorem cancelled_reminderId : (ReminderRows.cancelled demoId r).reminderId = r.reminderId := by
  rw [ReminderRows.cancelled]
  split <;> rfl

/-- What has been cancelled is not pending. -/
theorem cancelled_pendingFor :
    (ReminderRows.cancelled demoId r).pendingFor demoId = false := by
  rw [ReminderRows.cancelled]
  split
  · simp [ScheduledReminder.pendingFor]
  · rename_i h
    simpa [ScheduledReminder.pendingFor] using h

theorem filter_cancelled :
    (rows.map (ReminderRows.cancelled demoId)).filter (·.pendingFor demoId) = [] := by
  refine List.filter_eq_nil_iff.mpr fun x hx => ?_
  obtain ⟨r, -, rfl⟩ := List.mem_map.mp hx
  rw [cancelled_pendingFor]
  exact Bool.false_ne_true

theorem map_cancelled_indexKey : (rows.map (ReminderRows.cancelled demoId)).map
    indexKey = rows.map indexKey := by
  rw [List.map_map]
  exact List.map_congr_left fun r _ => cancelled_indexKey

theorem map_cancelled_reminderId : (rows.map (ReminderRows.cancelled demoId)).map
    ScheduledReminder.reminderId = rows.map ScheduledReminder.reminderId := by
  rw [List.map_map]
  exact List.map_congr_left fun r _ => cancelled_reminderId

/-- Rows with new identifiers are stored after the others. -/
theorem foldl_upsert_of_new (hnodup : (planned.map ScheduledReminder.reminderId).Nodup)
    (hnew : ∀ r ∈ planned, r.reminderId ∉ rows.map ScheduledReminder.reminderId) :
    planned.foldl (fun rows r => Table.upsert ScheduledReminder.reminderId r rows) rows =
      rows ++ planned := by
  induction planned generalizing rows with
  | nil => rw [List.foldl_nil, List.append_nil]
  | cons r rest ih =>
    obtain ⟨hfirst, hrest⟩ := List.nodup_cons.mp hnodup
    have hr : ∀ x ∈ rows, x.reminderId ≠ r.reminderId := fun x hx heq =>
      hnew r List.mem_cons_self (heq ▸ List.mem_map_of_mem hx)
    rw [List.foldl_cons, Table.upsert_of_new hr, ih hrest, List.append_assoc, List.singleton_append]
    intro x hx hmem
    rw [List.map_append, List.mem_append] at hmem
    rcases hmem with hmem | hmem
    · exact hnew x (List.mem_cons_of_mem _ hx) hmem
    · have hsame := List.mem_singleton.mp hmem
      exact hfirst (hsame ▸ List.mem_map_of_mem hx)

/-- **In memory, what is pending afterwards is the plan.** -/
theorem memory_pending (hnodup : (planned.map ScheduledReminder.reminderId).Nodup)
    (hnew : ∀ r ∈ planned, r.reminderId ∉ rows.map ScheduledReminder.reminderId)
    (hplanned : ∀ r ∈ planned, r.pendingFor demoId = true) :
    (rows.replaceForDemo demoId planned).filter (·.pendingFor demoId) = planned := by
  rw [ReminderRows.replaceForDemo, foldl_upsert_of_new hnodup, List.filter_append, filter_cancelled,
    List.nil_append, List.filter_eq_self.mpr hplanned]
  rwa [map_cancelled_reminderId]

/-- **In PostgreSQL a row is inserted if its key is not there.** -/
theorem insertAll_eq (hnodup : (planned.map indexKey).Nodup)
    (h : planned.foldlM PgReminders.insert rows = some rows') :
    rows' = rows ++ (planned.filter fun r => r.indexKey ∉ rows.map indexKey).map
      ScheduledReminder.inserted := by
  induction planned generalizing rows with
  | nil =>
    obtain rfl := Option.some.inj h
    rw [List.filter_nil, List.map_nil, List.append_nil]
  | cons r rest ih =>
    obtain ⟨hfirst, hrest⟩ := List.nodup_cons.mp hnodup
    rw [List.foldlM_cons] at h
    obtain ⟨next, hnext, h⟩ := Option.bind_eq_some_iff.mp h
    rw [PgReminders.insert] at hnext
    by_cases hthere : r.indexKey ∈ rows.map indexKey
    · obtain ⟨x, hx, hkey⟩ := List.mem_map.mp hthere
      rw [if_pos (List.any_eq_true.mpr ⟨x, hx, decide_eq_true hkey⟩)] at hnext
      obtain rfl := Option.some.inj hnext
      rw [ih hrest h, List.filter_cons_of_neg (by simpa using ⟨x, hx, hkey⟩)]
    · have hnone : ¬ (rows.any fun x => x.indexKey = r.indexKey) = true := by
        rw [List.any_eq_true]
        rintro ⟨x, hx, hkey⟩
        exact hthere (of_decide_eq_true hkey ▸ List.mem_map_of_mem hx)
      rw [if_neg hnone] at hnext
      split at hnext
      · cases hnext
      · obtain rfl := Option.some.inj hnext
        have hothers : rest.filter (fun x => x.indexKey ∉
              (rows ++ [r.inserted]).map indexKey) =
            rest.filter fun x => x.indexKey ∉ rows.map indexKey := by
          refine List.filter_congr fun x hx => ?_
          have hne : x.indexKey ≠ r.inserted.indexKey := fun heq =>
            hfirst (List.mem_map.mpr ⟨x, hx, heq⟩)
          rw [List.map_append, List.map_singleton, decide_eq_decide, List.mem_append,
            List.mem_singleton, or_iff_left hne]
        rw [ih hrest h, hothers, List.filter_cons_of_pos (by simpa using hthere), List.map_cons,
          List.append_assoc, List.singleton_append]

/-- **In PostgreSQL, what is pending afterwards is what was never planned before.** -/
theorem postgres_pending (hnodup : (planned.map indexKey).Nodup)
    (hplanned : ∀ r ∈ planned, r.demoId = demoId)
    (h : PgReminders.replaceForDemo rows demoId planned = some rows') :
    (rows'.filter (·.pendingFor demoId)).map indexKey =
      (planned.map indexKey).filter
        fun k => k ∉ rows.map indexKey := by
  have hrows := insertAll_eq hnodup h
  rw [map_cancelled_indexKey] at hrows
  rw [hrows, List.filter_append, filter_cancelled, List.nil_append, List.filter_eq_self.mpr,
    List.map_map, List.filter_map]
  · rfl
  · intro x hx
    obtain ⟨r, hr, rfl⟩ := List.mem_map.mp hx
    have hdemo := hplanned r (List.mem_of_mem_filter hr)
    simp [ScheduledReminder.pendingFor, ScheduledReminder.inserted, hdemo]

/-- A key that has been planned is there from then on. -/
theorem mem_replaceForDemo_postgres (hnodup : (planned.map indexKey).Nodup)
    (h : PgReminders.replaceForDemo rows demoId planned = some rows')
    {k : String × Nat × String × Party} : k ∈ rows'.map indexKey ↔
      k ∈ rows.map indexKey ∨ k ∈ planned.map indexKey := by
  have hrows := insertAll_eq hnodup h
  rw [map_cancelled_indexKey] at hrows
  rw [hrows, List.map_append, List.mem_append, map_cancelled_indexKey]
  by_cases hthere : k ∈ rows.map indexKey
  · simp only [hthere, true_or]
  · rw [or_iff_right hthere, or_iff_right hthere, List.map_map]
    constructor
    · intro hk
      obtain ⟨r, hr, rfl⟩ := List.mem_map.mp hk
      exact List.mem_map.mpr ⟨r, List.mem_of_mem_filter hr, rfl⟩
    · intro hk
      obtain ⟨r, hr, rfl⟩ := List.mem_map.mp hk
      exact List.mem_map.mpr ⟨r, List.mem_filter.mpr ⟨hr, decide_eq_true hthere⟩, rfl⟩

end Rows

/-! ## Ladders -/

/-- What `ReminderPolicy` is checked for: it has rungs, no two with one label, and not more than may
be planned. -/
structure ReminderPolicy.Sane (policy : ReminderPolicy) : Prop where
  nonempty : policy.offsets ≠ []
  labels : (policy.offsets.map ReminderOffset.label).Nodup
  ceiling : policy.offsets.length ≤ policy.maxRemindersPerDemo

section Ladders

variable {zones : Zones} {policy : ReminderPolicy} {demo : Demo} {now : Time}

/-- The keys a plan has, whatever the identifiers are. -/
def ReminderPolicy.planKeys (zones : Zones) (policy : ReminderPolicy) (demo : Demo) (now : Time) :
    List (String × Nat × String × Party) :=
  ((policy.ladder zones demo now).map fun f => (f "").indexKey).take policy.maxRemindersPerDemo

/-- A reminder of a rung. -/
theorem mem_rung {slot : TimeSlot} {offset : ReminderOffset} {f : String → ScheduledReminder}
    (hf : f ∈ policy.rung zones demo slot now offset) : ∃ party ∈ audiences offset.audience,
      ∀ id, (f id).reminderId = id ∧ (f id).status = .pending ∧ (f id).demoId = demo.demoId ∧
        (f id).indexKey = (demo.demoId, demo.revision, offset.label, party) := by
  rw [ReminderPolicy.rung] at hf
  split at hf
  · cases hf
  · split at hf
    · cases hf
    · obtain ⟨party, hparty, hsome⟩ := List.mem_filterMap.mp hf
      obtain ⟨recipient, -, rfl⟩ := Option.map_eq_some_iff.mp hsome
      exact ⟨party, hparty, fun id => ⟨rfl, rfl, rfl, rfl⟩⟩

/-- A reminder of a ladder is pending, and belongs to the demo as it is. -/
theorem mem_ladder {f : String → ScheduledReminder} (hf : f ∈ policy.ladder zones demo now) :
    ∀ id, (f id).reminderId = id ∧ (f id).pendingFor demo.demoId = true ∧
      (f id).demoId = demo.demoId ∧ (f id).indexKey = (f "").indexKey := by
  rw [ReminderPolicy.ladder] at hf
  split at hf
  · cases hf
  · split at hf
    · cases hf
    · obtain ⟨offset, -, hf⟩ := List.mem_flatMap.mp hf
      obtain ⟨party, -, h⟩ := mem_rung hf
      intro id
      obtain ⟨hid, hstatus, hdemo, hkey⟩ := h id
      refine ⟨hid, ?_, hdemo, hkey.trans (h "").2.2.2.symm⟩
      simp [ScheduledReminder.pendingFor, hstatus, hdemo]

theorem nodup_audiences (audience : String) : (audiences audience).Nodup := by
  rw [audiences]
  split
  · decide
  · split <;> decide

/-- The reminders of a rung have different keys. -/
theorem nodup_rung {slot : TimeSlot} {offset : ReminderOffset} :
    ((policy.rung zones demo slot now offset).map fun f => (f "").indexKey).Nodup := by
  rw [ReminderPolicy.rung]
  split
  · exact List.nodup_nil
  · split
    · exact List.nodup_nil
    · rw [List.map_filterMap]
      refine (nodup_audiences _).filterMap fun party party' key hkey hkey' => ?_
      obtain ⟨_, hf, rfl⟩ := Option.map_eq_some_iff.mp hkey
      obtain ⟨_, -, rfl⟩ := Option.map_eq_some_iff.mp hf
      obtain ⟨_, hf', hsame⟩ := Option.map_eq_some_iff.mp hkey'
      obtain ⟨_, -, rfl⟩ := Option.map_eq_some_iff.mp hf'
      have hparty := congrArg (fun key : String × Nat × String × Party => key.2.2.2) hsame
      exact hparty.symm

/-- **The reminders of a plan have different keys.** -/
theorem ReminderPolicy.Sane.nodup_planKeys (h : policy.Sane) :
    (policy.planKeys zones demo now).Nodup := by
  refine List.Nodup.sublist (List.take_sublist _ _) ?_
  rw [ReminderPolicy.ladder]
  split
  · exact List.nodup_nil
  · split
    · exact List.nodup_nil
    · rw [List.map_flatMap, List.nodup_flatMap]
      refine ⟨fun offset _ => nodup_rung, ?_⟩
      refine (List.pairwise_map.mp h.labels).imp fun hne key hkey hkey' => hne ?_
      obtain ⟨f, hf, rfl⟩ := List.mem_map.mp hkey
      obtain ⟨f', hf', hsame⟩ := List.mem_map.mp hkey'
      obtain ⟨_, -, hrung⟩ := mem_rung hf
      obtain ⟨_, -, hother⟩ := mem_rung hf'
      rw [(hrung "").2.2.2, (hother "").2.2.2] at hsame
      exact (congrArg (fun key : String × Nat × String × Party => key.2.2.1) hsame).symm

end Ladders

/-! ## Runs -/

/-- The rows of a store, and the identifiers that have been given. -/
structure Shelf where
  rows : ReminderRows
  issued : List String

/-- The rows have identifiers that were given. -/
def Shelf.Registered (a : Shelf) : Prop := ∀ r ∈ a.rows, r.reminderId ∈ a.issued

/-- What the calls of the command are answered, while the demo is as it is. No identifier is given
twice. -/
def Shelf.answers (store : ReminderStore) (demo : Demo) (o : Op) (a : Shelf) (r : Except Exn o.Res)
    (b : Shelf) : Prop :=
  match o, r with
  | .demoForConversation _, r => r = .ok (some demo) ∧ b = a
  | .now, r => (∃ now, r = .ok now) ∧ b = a
  | .newId _, r => ∃ id, id ∉ a.issued ∧ r = .ok id ∧ b = { a with issued := id :: a.issued }
  | .replaceForDemo demoId _ reminders, r =>
    ∃ rows, store.replaceForDemo a.rows demoId reminders = some rows ∧ r = .ok () ∧
      b = { a with rows }
  | _, _ => b = a

/-- The setting of the command: a store that nobody else uses meanwhile. -/
def shelving (store : ReminderStore) (demo : Demo) : Setting ports Exn Shelf :=
  ⟨Shelf.answers store demo, Eq⟩

section Planning

variable {cfg : Config} {store : ReminderStore} {demo : Demo}
  {a b : Shelf} {log : History ports Exn}

/-- What is planned from a ladder, when the identifiers in `before` have been given, and those in
`issued` afterwards. -/
structure Named (ladder : List (String → ScheduledReminder)) (before : List String)
    (planned : List ScheduledReminder) (issued : List String) : Prop where
  rungs : List.Forall₂ (fun f r => r = f r.reminderId) ladder planned
  nodup : (planned.map ScheduledReminder.reminderId).Nodup
  fresh : ∀ r ∈ planned, r.reminderId ∉ before ∧ r.reminderId ∈ issued
  grows : ∀ id ∈ before, id ∈ issued

/-- A reminder is named before the others. -/
theorem Named.cons {f : String → ScheduledReminder} {ladder : List (String → ScheduledReminder)}
    {before issued : List String} {planned : List ScheduledReminder} {id : String}
    (h : Named ladder (id :: before) planned issued) (hf : ∀ id, (f id).reminderId = id)
    (hnew : id ∉ before) : Named (f :: ladder) before (f id :: planned) issued := by
  refine ⟨.cons (by rw [hf]) h.rungs, ?_, fun r hr => ?_, fun other hother => ?_⟩
  · rw [List.map_cons, hf, List.nodup_cons]
    refine ⟨fun hmem => ?_, h.nodup⟩
    obtain ⟨r, hr, hsame⟩ := List.mem_map.mp hmem
    exact (h.fresh r hr).1 (hsame ▸ List.mem_cons_self)
  · rcases List.mem_cons.mp hr with rfl | hr
    · rw [hf]
      exact ⟨hnew, h.grows id List.mem_cons_self⟩
    · obtain ⟨hbefore, hissued⟩ := h.fresh r hr
      exact ⟨fun hmem => hbefore (List.mem_cons_of_mem _ hmem), hissued⟩
  · exact h.grows other (List.mem_cons_of_mem _ hother)

/-- The reminders of a ladder are named, one after another. -/
theorem named_meets (ladder : List (String → ScheduledReminder))
    (hladder : ∀ f ∈ ladder, ∀ id, (f id).reminderId = id) :
    Meets (shelving store demo).logged (fun _ _ => True)
      (fun out b => ∃ planned calls, out = .ok planned ∧ b.1.rows = a.rows ∧
        Named ladder a.issued planned b.1.issued ∧ b.2 = log ++ calls ∧
          ∀ c ∈ calls, ∃ kind, c.1 = .newId kind) (named ladder) (a, log) := by
  induction ladder generalizing a log with
  | nil =>
    refine ⟨[], [], rfl, rfl, ⟨.nil, List.nodup_nil, ?_, fun _ h => h⟩, ?_, ?_⟩
    · exact fun _ h => absurd h List.not_mem_nil
    · rw [List.append_nil]
    · exact fun _ h => absurd h List.not_mem_nil
  | cons f rest ih =>
    refine Meets.perform_bind fun a₁ hmove r b hans => ⟨trivial, ?_⟩
    obtain ⟨hsame, hlog⟩ := hmove
    obtain ⟨⟨id, hnew, rfl, hb⟩, hlog'⟩ := hans
    obtain ⟨b, log'⟩ := b
    obtain ⟨a₁, log₁⟩ := a₁
    dsimp only at hsame hlog hnew hb hlog'
    subst hsame hlog hb hlog'
    refine ⟨fun x hx => ?_, fun exn hexn => by cases hexn⟩
    obtain rfl : id = x := by cases hx; rfl
    refine (ih (fun g hg => hladder g (List.mem_cons_of_mem _ hg))).bind
      (fun planned b h => ?_) fun exn b h => ?_
    · obtain ⟨planned', calls, heq, hrows, hnamed, hcalls, hkinds⟩ := h
      obtain rfl : planned = planned' := Except.ok.inj heq
      have hnamed' := hnamed.cons (hladder f List.mem_cons_self) hnew
      refine ⟨f id :: planned, ⟨.newId "rmd", .ok id⟩ :: calls, rfl, hrows, hnamed', ?_, ?_⟩
      · rw [hcalls, List.append_assoc, List.singleton_append]
      · intro c hc
        rcases List.mem_cons.mp hc with rfl | hc
        · exact ⟨"rmd", rfl⟩
        · exact hkinds c hc
    · obtain ⟨_, _, heq, -⟩ := h
      cases heq

/-- What a run of the command does to the store: a plan of the demo, made at a moment, replaces what
was pending. -/
structure Replans (cfg : Config) (store : ReminderStore) (demo : Demo) (a : Shelf) (now : Time)
    (planned : List ScheduledReminder) (b : Shelf) : Prop where
  keys : planned.map indexKey =
    cfg.reminderPolicy.planKeys cfg.zones demo now
  pending : ∀ r ∈ planned, r.pendingFor demo.demoId = true
  nodup : (planned.map ScheduledReminder.reminderId).Nodup
  fresh : ∀ r ∈ planned, r.reminderId ∉ a.issued ∧ r.reminderId ∈ b.issued
  grows : ∀ id ∈ a.issued, id ∈ b.issued
  rows : store.replaceForDemo a.rows demo.demoId planned = some b.rows

/-- What is named has the keys of the ladder. -/
theorem Named.keys {ladder : List (String → ScheduledReminder)} {before issued : List String}
    {planned : List ScheduledReminder} (h : Named ladder before planned issued)
    (hladder : ∀ f ∈ ladder, ∀ id, (f id).indexKey = (f "").indexKey) :
    planned.map indexKey = ladder.map fun f => (f "").indexKey := by
  have hrungs := h.rungs
  clear h
  induction hrungs with
  | nil => rfl
  | cons hr hrest ih =>
    rw [List.map_cons, List.map_cons, ih fun g hg => hladder g (List.mem_cons_of_mem _ hg), hr]
    congr 1
    exact hladder _ List.mem_cons_self _

/-- What is named comes from the ladder. -/
theorem Named.mem {ladder : List (String → ScheduledReminder)} {before issued : List String}
    {planned : List ScheduledReminder} (h : Named ladder before planned issued)
    {r : ScheduledReminder} (hr : r ∈ planned) : ∃ f ∈ ladder, r = f r.reminderId := by
  have hrungs := h.rungs
  clear h
  induction hrungs with
  | nil => cases hr
  | cons hfirst hrest ih =>
    rcases List.mem_cons.mp hr with rfl | hr
    · exact ⟨_, List.mem_cons_self, hfirst⟩
    · obtain ⟨f, hf, heq⟩ := ih hr
      exact ⟨f, List.mem_cons_of_mem _ hf, heq⟩

/-- Planning names the ladder, and takes as much of it as may be planned. -/
theorem plan_meets : Meets (shelving store demo).logged (fun _ _ => True)
    (fun out b => ∃ (now : Time) (planned : List ScheduledReminder) (calls : History ports Exn),
      out = .ok (planned.take cfg.reminderPolicy.maxRemindersPerDemo) ∧ b.1.rows = a.rows ∧
      Named (cfg.reminderPolicy.ladder cfg.zones demo now) a.issued planned b.1.issued ∧
      b.2 = log ++ ⟨.now, .ok now⟩ :: calls ∧ ∀ c ∈ calls, ∃ kind, c.1 = .newId kind)
    (plan cfg demo) (a, log) := by
  refine Meets.perform_bind fun a₁ hmove r b hans => ⟨trivial, ?_⟩
  obtain ⟨hsame, hlog⟩ := hmove
  obtain ⟨⟨⟨now, rfl⟩, hb⟩, hlog'⟩ := hans
  obtain ⟨b, log'⟩ := b
  obtain ⟨a₁, log₁⟩ := a₁
  dsimp only at hsame hlog hb hlog'
  subst hsame hlog hb hlog'
  refine ⟨fun x hx => ?_, fun exn hexn => by cases hexn⟩
  obtain rfl : now = x := by cases hx; rfl
  refine (named_meets _ fun f hf id => (mem_ladder hf id).1).bind (fun planned b h => ?_)
    fun exn b h => ?_
  · obtain ⟨planned', calls, heq, hrows, hnamed, hcalls, hkinds⟩ := h
    obtain rfl : planned = planned' := Except.ok.inj heq
    refine ⟨now, planned, calls, rfl, hrows, hnamed, ?_, hkinds⟩
    rw [hcalls, List.append_assoc, List.singleton_append]
  · obtain ⟨_, _, heq, -⟩ := h
    cases heq

/-- Callbacks are scheduled, and nothing else happens. -/
theorem scheduleAll_meets {demoId : String} {reminders : List ScheduledReminder} :
    Meets (shelving store demo).logged (fun _ _ => True)
      (fun _ b => b.1 = a ∧ ∃ calls, b.2 = log ++ calls ∧
        ∀ c ∈ calls, ∃ name fireAt payload, c.1 = .schedule name fireAt payload)
      (scheduleAll demoId reminders) (a, log) := by
  induction reminders generalizing log with
  | nil => exact ⟨rfl, [], (List.append_nil _).symm, fun _ h => absurd h List.not_mem_nil⟩
  | cons r rest ih =>
    refine Meets.perform_bind fun a₁ hmove r b hans => ⟨trivial, ?_⟩
    obtain ⟨hsame, hlog⟩ := hmove
    obtain ⟨hb, hlog'⟩ := hans
    obtain ⟨b, log'⟩ := b
    obtain ⟨a₁, log₁⟩ := a₁
    dsimp only at hsame hlog hb hlog'
    subst hsame hlog hb hlog'
    refine ⟨fun _ _ => ih.post fun out b h => ?_, fun exn _ => ?_⟩
    · obtain ⟨hsame, calls, hcalls, hkinds⟩ := h
      refine ⟨hsame, _ :: calls, by rw [hcalls, List.append_assoc, List.singleton_append], ?_⟩
      intro c hc
      rcases List.mem_cons.mp hc with rfl | hc
      · exact ⟨_, _, _, rfl⟩
      · exact hkinds c hc
    · refine ⟨rfl, _, rfl, fun c hc => ?_⟩
      obtain rfl := List.mem_singleton.mp hc
      exact ⟨_, _, _, rfl⟩

/-- What was named, as far as it may be planned, replaces what was pending. -/
theorem Named.replans {now : Time} {full : List ScheduledReminder} {issued : List String}
    {rows : ReminderRows}
    (h : Named (cfg.reminderPolicy.ladder cfg.zones demo now) a.issued full issued)
    (hrows : store.replaceForDemo a.rows demo.demoId
      (full.take cfg.reminderPolicy.maxRemindersPerDemo) = some rows) :
    Replans cfg store demo a now (full.take cfg.reminderPolicy.maxRemindersPerDemo)
      { rows, issued } where
  keys := by
    rw [List.map_take, h.keys fun f hf id => (mem_ladder hf id).2.2.2, ReminderPolicy.planKeys]
  pending r hr := by
    obtain ⟨f, hf, heq⟩ := h.mem (List.mem_of_mem_take hr)
    rw [heq]
    exact (mem_ladder hf _).2.1
  nodup := h.nodup.sublist ((List.take_sublist _ _).map _)
  fresh r hr := h.fresh r (List.mem_of_mem_take hr)
  grows := h.grows
  rows := hrows

/-- The clock is read once, and the plan is stored once. -/
theorem scheduled_calls {ref demoId : String} {revision : Nat} {now : Time}
    {found : Except Exn (Option Demo)} {planned : List ScheduledReminder}
    {calls calls' : History ports Exn} (hkinds : ∀ c ∈ calls, ∃ kind, c.1 = .newId kind)
    (hkinds' : ∀ c ∈ calls', ∃ name fireAt payload, c.1 = .schedule name fireAt payload) :
    (∀ now', ⟨.now, .ok now'⟩ ∈ [] ++ [⟨.demoForConversation ref, found⟩] ++
        ⟨.now, .ok now⟩ :: calls ++ [⟨.replaceForDemo demoId revision planned, .ok ()⟩] ++ calls' →
      now' = now) ∧
    ∀ planned', ⟨.replaceForDemo demoId revision planned', .ok ()⟩ ∈
        [] ++ [⟨.demoForConversation ref, found⟩] ++ ⟨.now, .ok now⟩ :: calls ++
          [⟨.replaceForDemo demoId revision planned, .ok ()⟩] ++ calls' →
      planned' = planned := by
  refine ⟨fun now' hmem => ?_, fun planned' hmem => ?_⟩
  · simp only [List.nil_append, List.mem_append, List.mem_cons, List.not_mem_nil, or_false] at hmem
    rcases hmem with ((heq | heq | hmem) | heq) | hmem
    · cases heq
    · cases heq
      rfl
    · obtain ⟨_, heq⟩ := hkinds _ hmem
      cases heq
    · cases heq
    · obtain ⟨_, _, _, heq⟩ := hkinds' _ hmem
      cases heq
  · simp only [List.nil_append, List.mem_append, List.mem_cons, List.not_mem_nil, or_false] at hmem
    rcases hmem with ((heq | heq | hmem) | heq) | hmem
    · cases heq
    · cases heq
    · obtain ⟨_, heq⟩ := hkinds _ hmem
      cases heq
    · cases heq
      rfl
    · obtain ⟨_, _, _, heq⟩ := hkinds' _ hmem
      cases heq

/-- **A run of the command replaces what is pending by a plan.** -/
theorem scheduleReminders_meets (henabled : cfg.remindersEnabled = true) {ctx : TurnContext} :
    Meets (shelving store demo).logged (fun _ _ => True)
      (fun _ b => ∃ (now : Time) (planned : List ScheduledReminder),
        Replans cfg store demo a now planned b.1 ∧
        (∀ now', ⟨.now, .ok now'⟩ ∈ b.2 → now' = now) ∧
        ∀ planned', ⟨.replaceForDemo demo.demoId demo.revision planned', .ok ()⟩ ∈ b.2 →
          planned' = planned)
      (scheduleReminders cfg ctx) (a, []) := by
  refine Cmd.meets_context_bind ?_
  dsimp only
  rw [henabled]
  refine Cmd.meets_call_bind fun a₁ hmove r b hans => ⟨trivial, ?_⟩
  obtain ⟨hsame, hlog⟩ := hmove
  obtain ⟨⟨rfl, hb⟩, hlog'⟩ := hans
  obtain ⟨b, log'⟩ := b
  obtain ⟨a₁, log₁⟩ := a₁
  dsimp only at hsame hlog hb hlog'
  subst hsame hlog hb hlog'
  refine ⟨fun x hx => ?_, fun exn hexn => by cases hexn⟩
  obtain rfl : some demo = x := by cases hx; rfl
  refine Cmd.meets_lift_bind plan_meets (fun planned b h => ?_) fun exn b h => ?_
  · obtain ⟨now, full, calls, heq, hrows, hnamed, hcalls, hkinds⟩ := h
    obtain rfl : planned = full.take cfg.reminderPolicy.maxRemindersPerDemo := Except.ok.inj heq
    refine Cmd.meets_call_bind fun a₁ hmove r c hans => ⟨trivial, ?_⟩
    obtain ⟨hsame, hlog⟩ := hmove
    obtain ⟨⟨rows, hreplaced, rfl, hc⟩, hlog'⟩ := hans
    obtain ⟨b, log⟩ := b
    obtain ⟨c, log'⟩ := c
    obtain ⟨a₁, log₁⟩ := a₁
    dsimp only at hsame hlog hreplaced hc hlog' hrows hnamed hcalls
    subst hsame hlog hc hlog' hcalls
    refine ⟨fun _ _ => ?_, fun exn hexn => by cases hexn⟩
    rw [hrows] at hreplaced
    have hreplans := hnamed.replans hreplaced
    refine Cmd.meets_lift_bind scheduleAll_meets (fun _ b h => ?_) fun _ b h => ?_
    · obtain ⟨hshelf, calls', hlog, hkinds'⟩ := h
      obtain ⟨hnow, hplanned⟩ := scheduled_calls hkinds hkinds'
      exact ⟨now, _, hshelf ▸ hreplans, fun _ hmem => hnow _ (hlog ▸ hmem),
        fun _ hmem => hplanned _ (hlog ▸ hmem)⟩
    · obtain ⟨hshelf, calls', hlog, hkinds'⟩ := h
      obtain ⟨hnow, hplanned⟩ := scheduled_calls hkinds hkinds'
      exact ⟨now, _, hshelf ▸ hreplans, fun _ hmem => hnow _ (hlog ▸ hmem),
        fun _ hmem => hplanned _ (hlog ▸ hmem)⟩
  · obtain ⟨_, _, _, heq, -⟩ := h
    cases heq

end Planning

/-! ## Runs that follow each other -/

/-- What happens to the reminders of a store: the command is run for a demo, and plans; a reminder
is marked; what is pending of a demo is cancelled. -/
inductive Rerun
  | run (demo : Demo) (now : Time) (planned : List ScheduledReminder)
  | mark (reminderId : String) (status : ReminderStatus) (now : Time) (detail : String)
  | cancel (demoId : String)

/-- The command is run for a demo: it reads the clock, and stores a plan. -/
def Reran (cfg : Config) (store : ReminderStore) (demo : Demo) (a : Shelf) (now : Time)
    (planned : List ScheduledReminder) (b : Shelf) : Prop :=
  ∃ ctx out log, Run (shelving store demo).logged (scheduleReminders cfg ctx) (a, []) out (b, log) ∧
    ⟨.now, .ok now⟩ ∈ log ∧
    ⟨.replaceForDemo demo.demoId demo.revision planned, .ok ()⟩ ∈ log

def Rerun.step (cfg : Config) (store : ReminderStore) (a : Shelf) (l : Rerun) (b : Shelf) : Prop :=
  match l with
  | .run demo now planned => Reran cfg store demo a now planned b
  | .mark reminderId status now detail =>
    b = { a with rows := a.rows.mark reminderId status now detail }
  | .cancel demoId => b = { a with rows := (a.rows.cancelForDemo demoId).2 }

/-- **What is pending of the demo is one reminder for each of its plan.** -/
structure OnePer (cfg : Config) (demo : Demo) (now : Time) (rows : ReminderRows) : Prop where
  nodup : ((rows.filter (·.pendingFor demo.demoId)).map indexKey).Nodup
  keys : ∀ k, k ∈ (rows.filter (·.pendingFor demo.demoId)).map indexKey ↔
    k ∈ cfg.reminderPolicy.planKeys cfg.zones demo now

section Reruns

variable {cfg : Config} {store : ReminderStore} {demo : Demo} {a b c : Shelf} {now : Time}
  {planned : List ScheduledReminder} {ls : List Rerun}

theorem Reran.replans (henabled : cfg.remindersEnabled = true)
    (h : Reran cfg store demo a now planned b) : Replans cfg store demo a now planned b := by
  obtain ⟨ctx, out, log, hrun, hnow, hplanned⟩ := h
  obtain ⟨now', planned', hreplans, hnows, hplans⟩ := (scheduleReminders_meets henabled).run hrun
  obtain rfl := hnows now hnow
  obtain rfl := hplans planned hplanned
  exact hreplans

/-- The plans of a demo have different keys. -/
theorem Replans.nodup_keys (hsane : cfg.reminderPolicy.Sane)
    (h : Replans cfg store demo a now planned b) :
    (planned.map indexKey).Nodup := h.keys ▸ hsane.nodup_planKeys

theorem mark_reminderId {rows : ReminderRows} {id detail : String} {status : ReminderStatus} :
    (rows.mark id status now detail).map ScheduledReminder.reminderId =
      rows.map ScheduledReminder.reminderId := by
  rw [ReminderRows.mark, List.map_map]
  refine List.map_congr_left fun r _ => ?_
  dsimp only [Function.comp_apply]
  split <;> rfl

theorem mark_indexKey {rows : ReminderRows} {id detail : String} {status : ReminderStatus} :
    (rows.mark id status now detail).map indexKey =
      rows.map indexKey := by
  rw [ReminderRows.mark, List.map_map]
  refine List.map_congr_left fun r _ => ?_
  dsimp only [Function.comp_apply]
  split <;> rfl

/-- Rows that are stored in memory keep to the identifiers that were given. -/
theorem Shelf.Registered.step (henabled : cfg.remindersEnabled = true) (h : a.Registered)
    {l : Rerun} (hstep : l.step cfg .memory a b) : b.Registered := by
  have hids : ∀ {rows : ReminderRows}, rows.map ScheduledReminder.reminderId =
      a.rows.map ScheduledReminder.reminderId → Shelf.Registered { a with rows } := by
    intro rows heq r hr
    obtain ⟨x, hx, hsame⟩ := List.mem_map.mp (heq ▸ List.mem_map_of_mem hr)
    exact hsame ▸ h x hx
  cases l with
  | run demo now planned =>
    have hreplans := Reran.replans henabled hstep
    intro r hr
    rw [← Option.some.inj hreplans.rows, ReminderRows.replaceForDemo,
      foldl_upsert_of_new hreplans.nodup] at hr
    · rcases List.mem_append.mp hr with hr | hr
      · obtain ⟨x, hx, rfl⟩ := List.mem_map.mp hr
        rw [cancelled_reminderId]
        exact hreplans.grows _ (h x hx)
      · exact (hreplans.fresh r hr).2
    · intro x hx hmem
      rw [map_cancelled_reminderId] at hmem
      obtain ⟨y, hy, hsame⟩ := List.mem_map.mp hmem
      exact (hreplans.fresh x hx).1 (hsame ▸ h y hy)
  | mark id status now detail =>
    obtain rfl := hstep
    exact hids mark_reminderId
  | cancel demoId =>
    obtain rfl := hstep
    exact hids map_cancelled_reminderId

/-- The keys that have been planned in a run. -/
def Rerun.keys (cfg : Config) : Rerun → List (String × Nat × String × Party)
  | .run demo now _ => cfg.reminderPolicy.planKeys cfg.zones demo now
  | _ => []

/-- **In PostgreSQL the keys that are there are those that were, and those that were planned
since.** -/
theorem mem_keys_iff (hsane : cfg.reminderPolicy.Sane) (henabled : cfg.remindersEnabled = true)
    (hpath : Path (Rerun.step cfg .postgres) a ls b) {k : String × Nat × String × Party} :
    k ∈ b.rows.map indexKey ↔
      k ∈ a.rows.map indexKey ∨ ∃ l ∈ ls, k ∈ l.keys cfg := by
  induction hpath with
  | nil => simp
  | @snoc ls l b c _ hstep ih =>
    have hkeys : k ∈ c.rows.map indexKey ↔
        k ∈ b.rows.map indexKey ∨ k ∈ l.keys cfg := by
      cases l with
      | run demo now planned =>
        have hreplans := Reran.replans henabled hstep
        rw [mem_replaceForDemo_postgres (hreplans.nodup_keys hsane) hreplans.rows, hreplans.keys]
        rfl
      | mark id status now detail =>
        obtain rfl := hstep
        rw [mark_indexKey]
        exact (or_iff_left List.not_mem_nil).symm
      | cancel demoId =>
        obtain rfl := hstep
        rw [ReminderRows.cancelForDemo, map_cancelled_indexKey]
        exact (or_iff_left List.not_mem_nil).symm
    rw [hkeys, ih, or_assoc]
    refine or_congr_right ⟨?_, ?_⟩
    · rintro (⟨l', hl', hk⟩ | hk)
      · exact ⟨l', List.mem_append_left _ hl', hk⟩
      · exact ⟨l, List.mem_append_right _ List.mem_cons_self, hk⟩
    · rintro ⟨l', hl', hk⟩
      rcases List.mem_append.mp hl' with hl' | hl'
      · exact .inl ⟨l', hl', hk⟩
      · obtain rfl := List.mem_singleton.mp hl'
        exact .inr hk

/-- **Planning again leaves one reminder pending for each of the plan: in memory always, and in
PostgreSQL exactly if none of them was there before.** -/
theorem reruns_pending_iff (hsane : cfg.reminderPolicy.Sane)
    (henabled : cfg.remindersEnabled = true) :
    (a.Registered → Path (Rerun.step cfg .memory) a ls b → Reran cfg .memory demo b now planned c →
      OnePer cfg demo now c.rows) ∧
    (Path (Rerun.step cfg .postgres) a ls b → Reran cfg .postgres demo b now planned c →
      (OnePer cfg demo now c.rows ↔ ∀ k ∈ cfg.reminderPolicy.planKeys cfg.zones demo now,
        k ∉ a.rows.map ScheduledReminder.indexKey ∧ ∀ l ∈ ls, k ∉ l.keys cfg)) := by
  refine ⟨fun hregistered hpath hlast => ?_, fun hpath hlast => ?_⟩
  · have hreplans := hlast.replans henabled
    have hids := hpath.invariant hregistered fun _ _ _ h hstep => h.step henabled hstep
    have hnew : ∀ r ∈ planned, r.reminderId ∉ b.rows.map ScheduledReminder.reminderId := by
      intro r hr hmem
      obtain ⟨x, hx, hsame⟩ := List.mem_map.mp hmem
      exact (hreplans.fresh r hr).1 (hsame ▸ hids x hx)
    have hpending := memory_pending hreplans.nodup hnew hreplans.pending
    rw [Option.some.inj hreplans.rows] at hpending
    refine ⟨?_, fun k => ?_⟩
    · rw [hpending]
      exact hreplans.nodup_keys hsane
    · rw [hpending, hreplans.keys]
  · have hreplans := hlast.replans henabled
    have hpending := postgres_pending (hreplans.nodup_keys hsane)
      (fun r hr => by simpa using (Bool.and_eq_true_iff.mp (hreplans.pending r hr)).1) hreplans.rows
    rw [hreplans.keys] at hpending
    have hfree (k : String × Nat × String × Party) : k ∉ b.rows.map ScheduledReminder.indexKey ↔
        k ∉ a.rows.map ScheduledReminder.indexKey ∧ ∀ l ∈ ls, k ∉ l.keys cfg := by
      rw [mem_keys_iff hsane henabled hpath, not_or]
      refine and_congr_right fun _ => ?_
      simp only [not_exists, not_and]
    constructor
    · intro h k hk
      have hmem := (h.keys k).mpr hk
      rw [hpending] at hmem
      exact (hfree k).mp (of_decide_eq_true (List.mem_filter.mp hmem).2)
    · intro h
      have hall := List.filter_eq_self.mpr fun k hk => decide_eq_true ((hfree k).mpr (h k hk))
      rw [hall] at hpending
      exact ⟨hpending ▸ hsane.nodup_planKeys, fun k => by rw [hpending]⟩

end Reruns

/-- A demo that begins twenty minutes after noon. -/
def soonDemo : Demo where
  demoId := "d"
  conversationRef := "c"
  slot := some { startsAt := 12 * hour + 20 * minute }
  attendees := [{ party := .student, ref := "s" }]

/-- What is planned for it at noon. -/
def soonReminder (reminderId : String) : ScheduledReminder where
  reminderId := reminderId
  demoId := "d"
  conversationRef := "c"
  demoRevision := 1
  label := "t15m"
  audience := .student
  recipientRef := "s"
  template := "demo_reminder_t15m"
  fireAt := 12 * hour + 5 * minute
  demoStartsAt := 12 * hour + 20 * minute

def noContext : TurnContext where
  conversationRef := "c"
  traceId := ""
  now := 12 * hour
  snapshot := { conversationRef := "c" }
  ownership := { conversationRef := "c", owner := SELF, since := 0 }
  trigger := .handoffReceived

/-- A call is answered, and written down. -/
theorem run_shelving {α : Type} {store : ReminderStore} {demo : Demo} {o : Op}
    {k : Except Exn o.Res → Act α} {a b : Shelf} {c : Shelf × History ports Exn}
    {r : Except Exn o.Res} {log : History ports Exn} {out : Except Exn α}
    (hans : Shelf.answers store demo o a r b)
    (hrest : Run (shelving store demo).logged (k r) (b, log ++ [⟨o, r⟩]) out c) :
    Run (shelving store demo).logged (.call o k) (a, log) out c := by
  have hmove : (shelving store demo).logged.moves (a, log) (a, log) := ⟨rfl, rfl⟩
  have hlogged : (shelving store demo).logged.answers o (a, log) r (b, log ++ [⟨o, r⟩]) :=
    ⟨hans, rfl⟩
  exact .call hmove hlogged hrest

/-- The command is run at noon. -/
theorem reran_soonDemo {store : ReminderStore} {a : Shelf} {rows : ReminderRows} {id : String}
    (hid : id ∉ a.issued)
    (hrows : store.replaceForDemo a.rows "d" [soonReminder id] = some rows) :
    Reran plainConfig store soonDemo a (12 * hour) [soonReminder id]
      { rows, issued := id :: a.issued } := by
  refine ⟨noContext, .ok (.ok {}, noContext),
    [⟨.demoForConversation "c", .ok (some soonDemo)⟩, ⟨.now, .ok (12 * hour : Time)⟩,
      ⟨.newId "rmd", .ok id⟩, ⟨.replaceForDemo "d" 1 [soonReminder id], .ok ()⟩,
      ⟨.schedule ("reminder-" ++ id) (12 * hour + 5 * minute)
        (Facts.ofList [("reminder_id", .str id), ("demo_id", .str "d")]), .ok ()⟩], ?_, ?_, ?_⟩
  · refine run_shelving (o := .demoForConversation "c") (r := .ok (some soonDemo)) ⟨rfl, rfl⟩ ?_
    refine run_shelving (o := .now) (r := .ok (12 * hour : Time)) ⟨⟨_, rfl⟩, rfl⟩ ?_
    refine run_shelving (o := .newId "rmd") (r := .ok id) ⟨id, hid, rfl, rfl⟩ ?_
    refine run_shelving (o := .replaceForDemo "d" 1 [soonReminder id]) (r := .ok ())
      ⟨rows, hrows, rfl, rfl⟩ ?_
    exact run_shelving (o := .schedule ..) (r := .ok ()) rfl .ret
  · exact List.mem_cons_of_mem _ List.mem_cons_self
  · exact List.mem_cons_of_mem _ (List.mem_cons_of_mem _ (List.mem_cons_of_mem _ List.mem_cons_self))

/-- The policy is one that is accepted. -/
theorem sane_policy : plainConfig.reminderPolicy.Sane :=
  ⟨nofun, by decide, by decide⟩

/-- Planned once, the reminder is pending. -/
theorem planned_once : OnePer plainConfig soonDemo (12 * hour)
    ({ rows := [soonReminder "1"], issued := ["1"] } : Shelf).rows := by
  have hlast : Reran plainConfig .postgres soonDemo ⟨[], []⟩ (12 * hour) [soonReminder "1"]
      { rows := [soonReminder "1"], issued := ["1"] } := reran_soonDemo List.not_mem_nil rfl
  have hpath : Path (Rerun.step plainConfig .postgres) ⟨[], []⟩ [] ⟨[], []⟩ := .nil
  exact ((reruns_pending_iff sane_policy rfl).2 hpath hlast).mpr
    fun k _ => ⟨List.not_mem_nil, fun l hl => absurd hl List.not_mem_nil⟩

/-- **Planned twice, it is not**: its key is taken by the row that was cancelled. -/
theorem planned_twice : ∃ (planned planned' : List ScheduledReminder) (b c : Shelf),
    Reran plainConfig .postgres soonDemo ⟨[], []⟩ (12 * hour) planned b ∧
    Reran plainConfig .postgres soonDemo b (12 * hour) planned' c ∧
    ¬ OnePer plainConfig soonDemo (12 * hour) c.rows := by
  have hfirst : Reran plainConfig .postgres soonDemo ⟨[], []⟩ (12 * hour) [soonReminder "1"]
      { rows := [soonReminder "1"], issued := ["1"] } := reran_soonDemo List.not_mem_nil rfl
  have hsecond : Reran plainConfig .postgres soonDemo { rows := [soonReminder "1"], issued := ["1"] }
      (12 * hour) [soonReminder "2"]
      { rows := [{ soonReminder "1" with status := .cancelled }], issued := ["2", "1"] } :=
    reran_soonDemo (by decide) rfl
  refine ⟨_, _, _, _, hfirst, hsecond, fun h => ?_⟩
  have hkey := (h.keys ("d", 1, "t15m", .student)).mpr List.mem_cons_self
  cases hkey

end NxTutors.DemoAgent
