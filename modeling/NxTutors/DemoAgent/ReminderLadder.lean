import Mathlib.Algebra.Ring.Nat
import NxTutors.DemoAgent.ReminderStores
import NxTutors.Effect.Evaluate

/-!
# The ladder and its policy

The reminders of a plan lie between now and the demo, belong to the revision the demo has, are of
different labels or audiences, and are not more than the policy allows. They should be outside the
quiet hours as well. A send time that falls into these is moved to an hour of its own, which the
policy names apart from the quiet hours and which nothing checks against them; where it is one of
them, a reminder is moved from one quiet hour to another. `ladder_obeys_iff` says when that
happens.
-/

namespace NxTutors.DemoAgent

open Effect

/-! ## Policies and zones -/

/-- What a reminder policy is checked for, its fields and its offsets. -/
structure ReminderPolicy.Accepted (policy : ReminderPolicy) : Prop where
  sane : policy.Sane
  offsets : ∀ offset ∈ policy.offsets, 1 ≤ offset.minutesBefore ∧ offset.minutesBefore ≤ 20160 ∧
    offset.audience ∈ ["student", "tutor", "both"]
  ceiling : 1 ≤ policy.maxRemindersPerDemo ∧ policy.maxRemindersPerDemo ≤ 20
  hours : policy.quietHoursStart ≤ 23 ∧ policy.quietHoursEnd ≤ 23 ∧
    policy.quietHoursDeferToHour ≤ 23

/-- The clocks of a zone are ahead by a fixed offset. -/
def Zones.Fixed (zones : Zones) (timezone : String) (offset : Time) : Prop :=
  ∀ t, zones.wallClock timezone t = t + offset ∧ zones.moment timezone t = t - offset

/-- A wall clock shows a quiet hour of the policy. -/
def ReminderPolicy.quietAt (policy : ReminderPolicy) (wall : Time) : Bool :=
  inQuietHours wall policy.quietHoursStart policy.quietHoursEnd

/-- Only the hour matters. -/
theorem ReminderPolicy.quietAt_congr {policy : ReminderPolicy} {wall wall' : Time}
    (h : hourOf wall = hourOf wall') : policy.quietAt wall = policy.quietAt wall' := by
  rw [quietAt, quietAt, inQuietHours, inQuietHours, h]

/-- The day does not matter. -/
theorem hourOf_on_day (days : Int) (wall : Time) : hourOf (days * day + wall) = hourOf wall := by
  rw [hourOf, hourOf, Int.add_comm, Int.add_mul_emod_self_right]

/-! ## Where a reminder is moved -/

section Deferral

variable {zones : Zones} {timezone : String} {offset fireAt demoStartsAt deferred : Time}
  {policy : ReminderPolicy}

/-- Where a send time is moved by a policy. -/
def ReminderPolicy.deferral (policy : ReminderPolicy) (zones : Zones) (timezone : String)
    (fireAt demoStartsAt : Time) : Option Time :=
  deferPastQuietHours zones fireAt timezone policy.quietHoursStart policy.quietHoursEnd
    policy.quietHoursDeferToHour demoStartsAt

/-- A send time that is not quiet stays. -/
theorem deferral_of_awake (h : policy.quietAt (zones.wallClock timezone fireAt) = false) :
    policy.deferral zones timezone fireAt demoStartsAt = some fireAt := by
  rw [ReminderPolicy.quietAt] at h
  rw [ReminderPolicy.deferral, deferPastQuietHours]
  simp only [h, Bool.not_false, if_true]

/-- **A send time is moved forward, to the hour of the policy**, and not past the demo. -/
theorem deferral_of_quiet (hfixed : zones.Fixed timezone offset)
    (hquiet : policy.quietAt (zones.wallClock timezone fireAt) = true)
    (h : policy.deferral zones timezone fireAt demoStartsAt = some deferred) :
    fireAt < deferred ∧ deferred < demoStartsAt ∧
      hourOf (zones.wallClock timezone deferred) =
        hourOf (policy.quietHoursDeferToHour * hour) := by
  rw [ReminderPolicy.quietAt] at hquiet
  rw [ReminderPolicy.deferral, deferPastQuietHours] at h
  simp only [hquiet, Bool.not_true, Bool.false_eq_true, if_false] at h
  obtain ⟨days, hlater, hsome⟩ : ∃ days : Int,
      zones.wallClock timezone fireAt < days * day + policy.quietHoursDeferToHour * hour ∧
      (if demoStartsAt ≤ zones.moment timezone (days * day + policy.quietHoursDeferToHour * hour)
        then none
        else some (zones.moment timezone (days * day + policy.quietHoursDeferToHour * hour))) =
        some deferred := by
    by_cases hsame : zones.wallClock timezone fireAt / day * day +
        policy.quietHoursDeferToHour * hour ≤ zones.wallClock timezone fireAt
    · refine ⟨zones.wallClock timezone fireAt / day + 1, ?_, ?_⟩
      · have hnext := Int.lt_ediv_add_one_mul_self (zones.wallClock timezone fireAt)
          (show 0 < day by decide)
        have hnonneg : (0 : Int) ≤ policy.quietHoursDeferToHour * hour :=
          Int.mul_nonneg (Int.natCast_nonneg _) (by decide)
        exact Int.lt_of_lt_of_le hnext (Int.le_add_of_nonneg_right hnonneg)
      · rw [if_pos hsame] at h
        rwa [Int.add_mul, Int.one_mul, Int.add_right_comm]
    · rw [if_neg hsame] at h
      exact ⟨_, Int.not_le.mp hsame, h⟩
  split at hsome
  · cases hsome
  next hbefore =>
    obtain rfl := Option.some.inj hsome
    refine ⟨?_, Int.not_le.mp hbefore, ?_⟩
    · rw [(hfixed fireAt).1] at hlater
      rw [(hfixed _).2]
      exact Int.lt_sub_right_of_add_lt hlater
    · rw [(hfixed _).1, (hfixed _).2, Int.sub_add_cancel]
      exact hourOf_on_day _ _

/-- A reminder goes out no earlier than it was meant to, and before the demo. -/
theorem deferral_between (hfixed : zones.Fixed timezone offset) (hbefore : fireAt < demoStartsAt)
    (h : policy.deferral zones timezone fireAt demoStartsAt = some deferred) :
    fireAt ≤ deferred ∧ deferred < demoStartsAt := by
  cases hquiet : policy.quietAt (zones.wallClock timezone fireAt) with
  | false =>
    obtain rfl := Option.some.inj ((deferral_of_awake hquiet).symm.trans h)
    exact ⟨Int.le_refl _, hbefore⟩
  | true =>
    obtain ⟨hlater, hend, -⟩ := deferral_of_quiet hfixed hquiet h
    exact ⟨Int.le_of_lt hlater, hend⟩

end Deferral

/-! ## Rungs -/

section Rungs

variable {zones : Zones} {policy : ReminderPolicy} {demo : Demo} {slot : TimeSlot} {now : Time}
  {offset : ReminderOffset}

/-- When the reminders of a rung are meant to go out. -/
def ReminderOffset.sendAt (offset : ReminderOffset) (slot : TimeSlot) : Time :=
  slot.startsAt - offset.minutesBefore * minute

/-- The parties of an audience that attend. -/
def Demo.reminded (demo : Demo) (audience : String) : List Party :=
  (audiences audience).filter fun party => (demo.attendee party).isSome

/-- A rung that is neither past nor dropped. -/
def ReminderPolicy.keeps (policy : ReminderPolicy) (zones : Zones) (slot : TimeSlot) (now : Time)
    (offset : ReminderOffset) : Bool :=
  now < offset.sendAt slot &&
    (policy.deferral zones slot.timezone (offset.sendAt slot) slot.startsAt).isSome

/-- How many reminders the rungs of a list have. -/
def ReminderPolicy.room (policy : ReminderPolicy) (zones : Zones) (demo : Demo) (slot : TimeSlot)
    (now : Time) (offsets : List ReminderOffset) : Nat :=
  ((offsets.filter (policy.keeps zones slot now)).map fun offset =>
    (demo.reminded offset.audience).length).sum

/-- A reminder of a rung, in full. -/
theorem of_mem_rung {f : String → ScheduledReminder}
    (hf : f ∈ policy.rung zones demo slot now offset) : ∃ adjusted, now < offset.sendAt slot ∧
      policy.deferral zones slot.timezone (offset.sendAt slot) slot.startsAt = some adjusted ∧
      ∀ id, (f id).fireAt = adjusted ∧ (f id).demoStartsAt = slot.startsAt ∧
        (f id).demoRevision = demo.revision := by
  rw [ReminderPolicy.rung] at hf
  split at hf
  · cases hf
  next hlater =>
    split at hf
    · cases hf
    next adjusted hadjusted =>
      obtain ⟨party, -, hsome⟩ := List.mem_filterMap.mp hf
      obtain ⟨recipient, -, rfl⟩ := Option.map_eq_some_iff.mp hsome
      exact ⟨adjusted, Int.not_le.mp hlater, hadjusted, fun _ => ⟨rfl, rfl, rfl⟩⟩

/-- A rung has one reminder for each party it reminds, if it is kept. -/
theorem length_rung : (policy.rung zones demo slot now offset).length =
    if policy.keeps zones slot now offset then (demo.reminded offset.audience).length else 0 := by
  rw [ReminderPolicy.rung, ReminderPolicy.keeps]
  by_cases hpast : slot.startsAt - offset.minutesBefore * minute ≤ now
  · simp [ReminderOffset.sendAt, hpast, Int.not_lt.mpr hpast]
  · simp only [ReminderOffset.sendAt, if_neg hpast, Int.not_le.mp hpast, decide_true,
      Bool.true_and]
    cases hadjusted : policy.deferral zones slot.timezone
        (slot.startsAt - offset.minutesBefore * minute) slot.startsAt with
    | none =>
      rw [ReminderPolicy.deferral] at hadjusted
      simp [hadjusted]
    | some adjusted =>
      rw [ReminderPolicy.deferral] at hadjusted
      simp only [hadjusted, Option.isSome_some, if_true, Demo.reminded]
      rw [← List.countP_eq_length_filter, List.length_filterMap_eq_countP]
      exact List.countP_congr fun party _ => by simp

/-- Rungs have as many reminders as there is room for. -/
theorem length_rungs (offsets : List ReminderOffset) :
    (offsets.flatMap (policy.rung zones demo slot now)).length =
      policy.room zones demo slot now offsets := by
  induction offsets with
  | nil => rfl
  | cons offset rest ih =>
    rw [List.flatMap_cons, List.length_append, ih, length_rung, ReminderPolicy.room,
      ReminderPolicy.room]
    by_cases hkept : policy.keeps zones slot now offset = true
    · simp [hkept]
    · simp [hkept]

end Rungs

/-! ## Runs -/

/-- The clock stands still, and identifiers are given one after another. -/
def clockwork (now : Time) (ident : Nat → String) : (o : Op) → Nat → Except Exn o.Res × Nat
  | .now, n => (.ok now, n)
  | .newId _, n => (.ok (ident n), n + 1)
  | _, n => (.error (.other "Unavailable"), n)

/-- What is planned, with its identifiers. -/
def numbered (ident : Nat → String) :
    Nat → List (String → ScheduledReminder) → List ScheduledReminder
  | _, [] => []
  | n, f :: rest => f (ident n) :: numbered ident (n + 1) rest

section Runs

variable {ident : Nat → String} {n : Nat} {ladder : List (String → ScheduledReminder)}

theorem named_eval {now : Time} : (named ladder).eval (clockwork now ident) n =
    (.ok (numbered ident n ladder), n + ladder.length) := by
  induction ladder generalizing n with
  | nil => rfl
  | cons f rest ih =>
    have hrest : (named (f :: rest)).eval (clockwork now ident) n =
        (named rest >>= fun reminders => pure (f (ident n) :: reminders)).eval
          (clockwork now ident) (n + 1) := rfl
    rw [hrest, Prog.eval_bind_ok ih, List.length_cons, Nat.add_right_comm, Nat.add_assoc]
    rfl

/-- **Planning always gives a plan**: the ladder, as far as the policy allows. -/
theorem plan_eval (cfg : Config) (demo : Demo) (now : Time) (ident : Nat → String) (n : Nat) :
    ((plan cfg demo).eval (clockwork now ident) n).1 =
      .ok ((numbered ident n (cfg.reminderPolicy.ladder cfg.zones demo now)).take
        cfg.reminderPolicy.maxRemindersPerDemo) := by
  have hplan : (plan cfg demo).eval (clockwork now ident) n =
      (named (cfg.reminderPolicy.ladder cfg.zones demo now) >>= fun planned =>
        pure (planned.take cfg.reminderPolicy.maxRemindersPerDemo)).eval
          (clockwork now ident) n := rfl
  rw [hplan, Prog.eval_bind_ok named_eval]
  rfl

theorem take_numbered (limit : Nat) :
    (numbered ident n ladder).take limit = numbered ident n (ladder.take limit) := by
  induction ladder generalizing n limit with
  | nil => simp [numbered]
  | cons f rest ih =>
    cases limit with
    | zero => rfl
    | succ limit => simp [numbered, ih]

theorem mem_of_mem_numbered {r : ScheduledReminder} (hr : r ∈ numbered ident n ladder) :
    ∃ f ∈ ladder, ∃ id, r = f id := by
  induction ladder generalizing n with
  | nil => cases hr
  | cons f rest ih =>
    rcases List.mem_cons.mp hr with rfl | hr
    · exact ⟨f, List.mem_cons_self, _, rfl⟩
    · obtain ⟨g, hg, id, heq⟩ := ih hr
      exact ⟨g, List.mem_cons_of_mem _ hg, id, heq⟩

theorem numbered_of_mem {f : String → ScheduledReminder} (hf : f ∈ ladder) :
    ∃ id, f id ∈ numbered ident n ladder := by
  induction ladder generalizing n with
  | nil => cases hf
  | cons g rest ih =>
    rcases List.mem_cons.mp hf with rfl | hf
    · exact ⟨_, List.mem_cons_self⟩
    · obtain ⟨id, hid⟩ := @ih (n + 1) hf
      exact ⟨id, List.mem_cons_of_mem _ hid⟩

theorem map_numbered {α : Type} {key : ScheduledReminder → α}
    (hkey : ∀ f ∈ ladder, ∀ id, key (f id) = key (f "")) :
    (numbered ident n ladder).map key = ladder.map fun f => key (f "") := by
  induction ladder generalizing n with
  | nil => rfl
  | cons f rest ih =>
    rw [numbered, List.map_cons, List.map_cons, hkey f List.mem_cons_self,
      ih fun g hg => hkey g (List.mem_cons_of_mem _ hg)]

end Runs

/-! ## The first of what lists have -/

section Beginnings

variable {α β : Type} {g : α → List β}

/-- What is among the first comes from an element before which there is room. -/
theorem of_mem_take_flatMap {l : List α} {n : Nat} {b : β} (h : b ∈ (l.flatMap g).take n) :
    ∃ before a after, l = before ++ a :: after ∧ b ∈ g a ∧ (before.flatMap g).length < n := by
  induction l generalizing n with
  | nil => cases n <;> cases h
  | cons a rest ih =>
    rw [List.flatMap_cons, List.take_append, List.mem_append] at h
    rcases h with h | h
    · have hroom : n ≠ 0 := by
        rintro rfl
        cases h
      exact ⟨[], a, rest, rfl, List.mem_of_mem_take h, Nat.pos_of_ne_zero hroom⟩
    · obtain ⟨before, a', after, rfl, hb, hroom⟩ := ih h
      refine ⟨a :: before, a', after, rfl, hb, ?_⟩
      rw [List.flatMap_cons, List.length_append]
      omega

/-- Where there is room before an element that has something, some of it is among the first. -/
theorem mem_take_flatMap {before after : List α} {a : α} {n : Nat} (hsome : g a ≠ [])
    (hroom : (before.flatMap g).length < n) :
    ∃ b ∈ g a, b ∈ ((before ++ a :: after).flatMap g).take n := by
  obtain ⟨b, rest, hb⟩ := List.exists_cons_of_ne_nil hsome
  refine ⟨b, hb ▸ List.mem_cons_self, ?_⟩
  rw [List.flatMap_append, List.flatMap_cons, hb, List.take_append]
  refine List.mem_append_right _ ?_
  obtain ⟨k, hk⟩ := Nat.exists_eq_succ_of_ne_zero (Nat.sub_ne_zero_of_lt hroom)
  rw [hk]
  exact List.mem_cons_self

end Beginnings

/-! ## What a plan obeys -/

/-- **The policy is obeyed.** A reminder goes out between now and the demo, not in quiet hours, and
for the revision the demo has; no two are of one label and audience; and there are not more than
allowed. -/
structure ReminderPolicy.Obeyed (zones : Zones) (policy : ReminderPolicy) (demo : Demo)
    (now : Time) (planned : List ScheduledReminder) : Prop where
  timely : ∀ r ∈ planned, now < r.fireAt ∧ r.fireAt < r.demoStartsAt
  awake : ∀ slot ∈ demo.slot, ∀ r ∈ planned,
    policy.quietAt (zones.wallClock slot.timezone r.fireAt) = false
  current : ∀ r ∈ planned, r.demoRevision = demo.revision
  distinct : planned.Pairwise fun r s => ¬(r.label = s.label ∧ r.audience = s.audience)
  few : planned.length ≤ policy.maxRemindersPerDemo

/-- **No reminder is moved.** Of the rungs that are kept and remind somebody, those that there is
room for are not meant to go out in quiet hours. -/
def ReminderPolicy.NoneMoved (zones : Zones) (policy : ReminderPolicy) (demo : Demo)
    (slot : TimeSlot) (now : Time) : Prop :=
  ∀ before offset after, policy.offsets = before ++ offset :: after →
    policy.keeps zones slot now offset = true → demo.reminded offset.audience ≠ [] →
      policy.room zones demo slot now before < policy.maxRemindersPerDemo →
        policy.quietAt (zones.wallClock slot.timezone (offset.sendAt slot)) = false

section Obeyed

variable {zones : Zones} {policy : ReminderPolicy} {demo : Demo} {slot : TimeSlot} {now : Time}
  {ident : Nat → String} {n : Nat}

/-- The ladder of a demo that has a slot and is not cancelled. -/
theorem ladder_eq (hslot : demo.slot = some slot) (hcancelled : demo.cancelled = false) :
    policy.ladder zones demo now = policy.offsets.flatMap (policy.rung zones demo slot now) := by
  rw [ReminderPolicy.ladder, hslot]
  simp [hcancelled]

/-- A ladder that has a reminder belongs to such a demo. -/
theorem of_mem_ladder {f : String → ScheduledReminder} (hf : f ∈ policy.ladder zones demo now) :
    ∃ slot, demo.slot = some slot ∧ demo.cancelled = false := by
  rw [ReminderPolicy.ladder] at hf
  split at hf
  · cases hf
  next slot hslot =>
    split at hf
    · cases hf
    next hcancelled => exact ⟨slot, hslot, Bool.eq_false_iff.mpr hcancelled⟩

/-- What is planned is of a rung there is room for. -/
theorem of_mem_planned {r : ScheduledReminder}
    (hr : r ∈ (numbered ident n (policy.ladder zones demo now)).take
      policy.maxRemindersPerDemo) :
    ∃ slot before offset after f id, demo.slot = some slot ∧ demo.cancelled = false ∧
      policy.offsets = before ++ offset :: after ∧ f ∈ policy.rung zones demo slot now offset ∧
      policy.room zones demo slot now before < policy.maxRemindersPerDemo ∧ r = f id := by
  rw [take_numbered] at hr
  obtain ⟨f, hf, id, rfl⟩ := mem_of_mem_numbered hr
  obtain ⟨slot, hslot, hcancelled⟩ := of_mem_ladder (List.mem_of_mem_take hf)
  rw [ladder_eq hslot hcancelled] at hf
  obtain ⟨before, offset, after, hoffsets, hmem, hroom⟩ := of_mem_take_flatMap hf
  rw [length_rungs] at hroom
  exact ⟨slot, before, offset, after, f, id, hslot, hcancelled, hoffsets, hmem, hroom, rfl⟩

/-- A rung with a reminder is kept, and reminds somebody. -/
theorem kept_of_mem_rung {offset : ReminderOffset} {f : String → ScheduledReminder}
    (hf : f ∈ policy.rung zones demo slot now offset) :
    policy.keeps zones slot now offset = true ∧ demo.reminded offset.audience ≠ [] := by
  have hlength := List.length_pos_of_mem hf
  rw [length_rung] at hlength
  split at hlength
  next hkept => exact ⟨hkept, List.ne_nil_of_length_pos hlength⟩
  next => cases hlength

/-- What is planned is for the demo as it is. -/
theorem demo_of_mem_planned {r : ScheduledReminder}
    (hr : r ∈ (numbered ident n (policy.ladder zones demo now)).take
      policy.maxRemindersPerDemo) :
    r.demoId = demo.demoId ∧ r.demoRevision = demo.revision := by
  obtain ⟨slot, before, offset, after, f, id, -, -, -, hf, -, rfl⟩ := of_mem_planned hr
  obtain ⟨adjusted, -, -, hfields⟩ := of_mem_rung hf
  obtain ⟨party, -, hrung⟩ := mem_rung hf
  exact ⟨(hrung id).2.2.1, (hfields id).2.2⟩

/-- **All but the quiet hours is always obeyed.** -/
theorem obeyed_of_awake (haccepted : policy.Accepted)
    (hfixed : ∀ slot ∈ demo.slot, ∃ offset, zones.Fixed slot.timezone offset)
    (hawake : ∀ slot ∈ demo.slot, ∀ r ∈ (numbered ident n (policy.ladder zones demo now)).take
      policy.maxRemindersPerDemo,
        policy.quietAt (zones.wallClock slot.timezone r.fireAt) = false) :
    policy.Obeyed zones demo now ((numbered ident n (policy.ladder zones demo now)).take
      policy.maxRemindersPerDemo) where
  timely r hr := by
    obtain ⟨slot, before, offset, after, f, id, hslot, -, hoffsets, hf, -, rfl⟩ :=
      of_mem_planned hr
    obtain ⟨adjusted, hlater, hadjusted, hfields⟩ := of_mem_rung hf
    obtain ⟨zone, hzone⟩ := hfixed slot hslot
    have hahead := (haccepted.offsets offset (hoffsets ▸ List.mem_append_right _
      List.mem_cons_self)).1
    have hbefore : offset.sendAt slot < slot.startsAt := by
      refine Int.sub_lt_self _ (Int.mul_pos ?_ (by decide))
      exact Int.natCast_pos.mpr hahead
    obtain ⟨hfrom, hto⟩ := deferral_between hzone hbefore hadjusted
    rw [(hfields id).1, (hfields id).2.1]
    exact ⟨Int.lt_of_lt_of_le hlater hfrom, hto⟩
  awake := hawake
  current _ hr := (demo_of_mem_planned hr).2
  distinct := by
    have hkeys := @ReminderPolicy.Sane.nodup_planKeys zones policy demo now haccepted.sane
    rw [ReminderPolicy.planKeys, ← @map_numbered ident n (policy.ladder zones demo now) _
      ScheduledReminder.indexKey fun f hf id => (mem_ladder hf id).2.2.2, ← List.map_take] at hkeys
    refine (List.pairwise_map.mp hkeys).imp_of_mem fun {r s} hr hs hne hsame => hne ?_
    have hr := demo_of_mem_planned hr
    have hs := demo_of_mem_planned hs
    rw [ScheduledReminder.indexKey, ScheduledReminder.indexKey, hr.1, hr.2, hs.1, hs.2, hsame.1,
      hsame.2]
  few := List.length_take_le _ _

/-- **Where nothing is moved, no reminder is in quiet hours.** -/
theorem awake_of_noneMoved (hslot : demo.slot = some slot)
    (h : demo.cancelled = false → policy.NoneMoved zones demo slot now) {r : ScheduledReminder}
    (hr : r ∈ (numbered ident n (policy.ladder zones demo now)).take
      policy.maxRemindersPerDemo) :
    policy.quietAt (zones.wallClock slot.timezone r.fireAt) = false := by
  obtain ⟨slot', before, offset, after, f, id, hslot', hcancelled, hoffsets, hf, hroom, rfl⟩ :=
    of_mem_planned hr
  obtain rfl : slot = slot' := Option.some.inj (hslot.symm.trans hslot')
  obtain ⟨adjusted, -, hadjusted, hfields⟩ := of_mem_rung hf
  obtain ⟨hkept, hsomebody⟩ := kept_of_mem_rung hf
  have hawake := h hcancelled before offset after hoffsets hkept hsomebody hroom
  rw [deferral_of_awake hawake] at hadjusted
  rw [(hfields id).1, ← Option.some.inj hadjusted]
  exact hawake

/-- **Nor where they are moved out of the quiet hours.** -/
theorem awake_of_deferHour (hslot : demo.slot = some slot)
    (hfixed : ∃ offset, zones.Fixed slot.timezone offset)
    (h : policy.quietAt (policy.quietHoursDeferToHour * hour) = false) {r : ScheduledReminder}
    (hr : r ∈ (numbered ident n (policy.ladder zones demo now)).take
      policy.maxRemindersPerDemo) :
    policy.quietAt (zones.wallClock slot.timezone r.fireAt) = false := by
  obtain ⟨slot', before, offset, after, f, id, hslot', -, -, hf, -, rfl⟩ := of_mem_planned hr
  obtain rfl : slot = slot' := Option.some.inj (hslot.symm.trans hslot')
  obtain ⟨adjusted, -, hadjusted, hfields⟩ := of_mem_rung hf
  obtain ⟨zone, hzone⟩ := hfixed
  rw [(hfields id).1]
  cases hquiet : policy.quietAt (zones.wallClock slot.timezone (offset.sendAt slot)) with
  | false => rwa [← Option.some.inj ((deferral_of_awake hquiet).symm.trans hadjusted)]
  | true =>
    obtain ⟨-, -, hhour⟩ := deferral_of_quiet hzone hquiet hadjusted
    rw [ReminderPolicy.quietAt_congr hhour]
    exact h

/-- **If they are moved to a quiet hour, the first that is moved is in quiet hours.** -/
theorem noneMoved_of_awake (hslot : demo.slot = some slot) (hcancelled : demo.cancelled = false)
    (hfixed : ∃ offset, zones.Fixed slot.timezone offset)
    (hquiet : policy.quietAt (policy.quietHoursDeferToHour * hour) = true)
    (h : ∀ r ∈ (numbered ident n (policy.ladder zones demo now)).take policy.maxRemindersPerDemo,
      policy.quietAt (zones.wallClock slot.timezone r.fireAt) = false) :
    policy.NoneMoved zones demo slot now := by
  intro before offset after hoffsets hkept hsomebody hroom
  by_contra hmoved
  rw [Bool.not_eq_false] at hmoved
  obtain ⟨zone, hzone⟩ := hfixed
  have hrung : policy.rung zones demo slot now offset ≠ [] := by
    refine List.ne_nil_of_length_pos ?_
    rw [length_rung, if_pos hkept]
    exact List.length_pos_iff.mpr hsomebody
  rw [← length_rungs before] at hroom
  obtain ⟨f, hf, hmem⟩ := @mem_take_flatMap _ _ _ before after _ _ hrung hroom
  rw [← hoffsets, ← ladder_eq hslot hcancelled] at hmem
  obtain ⟨id, hid⟩ := @numbered_of_mem ident n _ f hmem
  rw [← take_numbered] at hid
  have hawake := h _ hid
  obtain ⟨adjusted, -, hadjusted, hfields⟩ := of_mem_rung hf
  obtain ⟨-, -, hhour⟩ := deferral_of_quiet hzone hmoved hadjusted
  rw [(hfields id).1, ReminderPolicy.quietAt_congr hhour, hquiet] at hawake
  cases hawake

end Obeyed

/-- **The ladder obeys its policy exactly if the hour reminders are moved to is not a quiet one, or
none is moved.** -/
theorem ladder_obeys_iff (cfg : Config) (demo : Demo) (now : Time)
    (haccepted : cfg.reminderPolicy.Accepted)
    (hfixed : ∀ slot ∈ demo.slot, ∃ offset, cfg.zones.Fixed slot.timezone offset) :
    (∀ ident n planned, ((plan cfg demo).eval (clockwork now ident) n).1 = .ok planned →
      cfg.reminderPolicy.Obeyed cfg.zones demo now planned) ↔
    cfg.reminderPolicy.quietAt (cfg.reminderPolicy.quietHoursDeferToHour * hour) = false ∨
      ∀ slot ∈ demo.slot, demo.cancelled = false →
        cfg.reminderPolicy.NoneMoved cfg.zones demo slot now := by
  constructor
  · intro h
    refine or_iff_not_imp_left.mpr fun hquiet slot hslot hcancelled => ?_
    rw [Bool.not_eq_false] at hquiet
    have hobeyed := h (fun _ => "") 0 _ (plan_eval cfg demo now _ 0)
    exact noneMoved_of_awake hslot hcancelled (hfixed slot hslot) hquiet (hobeyed.awake slot hslot)
  · intro h ident n planned hplanned
    rw [plan_eval] at hplanned
    obtain rfl := Except.ok.inj hplanned
    refine obeyed_of_awake haccepted hfixed fun slot hslot r hr => ?_
    rcases h with hhour | hnone
    · exact awake_of_deferHour hslot (hfixed slot hslot) hhour hr
    · exact awake_of_noneMoved hslot (hnone slot hslot) hr

/-! ## Seven in the morning -/

/-- Reminders are moved to an hour before the night is over. -/
def earlyConfig : Config :=
  { plainConfig with reminderPolicy := { REMINDER_POLICY with quietHoursDeferToHour := 7 } }

/-- Such a policy is accepted. -/
theorem early_accepted : earlyConfig.reminderPolicy.Accepted where
  sane := ⟨nofun, by decide, by decide⟩
  offsets := by decide
  ceiling := by decide
  hours := by decide

/-- A demo late in the evening. -/
def lateDemo : Demo where
  demoId := "d"
  conversationRef := "c"
  slot := some { startsAt := 2 * day + 22 * hour, timezone := "UTC" }
  attendees := [{ party := .student, ref := "s" }]

/-- **A reminder at seven in the morning, in the quiet hours.** -/
theorem early_reminder : ¬∀ ident n planned,
    ((plan earlyConfig lateDemo).eval (clockwork 0 ident) n).1 = .ok planned →
      earlyConfig.reminderPolicy.Obeyed earlyConfig.zones lateDemo 0 planned := by
  intro h
  have hobeyed := h (fun _ => "r") 0 _ (plan_eval earlyConfig lateDemo 0 _ 0)
  have hquiet : ∃ r ∈ (numbered (fun _ => "r") 0
      (earlyConfig.reminderPolicy.ladder earlyConfig.zones lateDemo 0)).take
        earlyConfig.reminderPolicy.maxRemindersPerDemo,
      earlyConfig.reminderPolicy.quietAt (earlyConfig.zones.wallClock "UTC" r.fireAt) = true := by
    decide
  obtain ⟨r, hr, hquiet⟩ := hquiet
  rw [hobeyed.awake _ rfl r hr] at hquiet
  cases hquiet

/-- A demo in the afternoon. -/
def afternoonDemo : Demo :=
  { lateDemo with slot := some { startsAt := 2 * day + 16 * hour, timezone := "UTC" } }

/-- Its reminders go out when people are up, whatever hour they would be moved to. -/
theorem afternoon_obeys : earlyConfig.reminderPolicy.Accepted ∧ ∀ ident n planned,
    ((plan earlyConfig afternoonDemo).eval (clockwork 0 ident) n).1 = .ok planned →
      earlyConfig.reminderPolicy.Obeyed earlyConfig.zones afternoonDemo 0 planned := by
  have hawake : ∀ slot ∈ afternoonDemo.slot, ∀ offset ∈ earlyConfig.reminderPolicy.offsets,
      earlyConfig.reminderPolicy.quietAt (offset.sendAt slot) = false := by
    decide
  refine ⟨early_accepted, (ladder_obeys_iff earlyConfig afternoonDemo 0 early_accepted fun _ _ =>
    ⟨0, fun t => ⟨(Int.add_zero t).symm, (Int.sub_zero t).symm⟩⟩).mpr (Or.inr ?_)⟩
  intro slot hslot _ before offset after hoffsets _ _ _
  exact hawake slot hslot offset (hoffsets ▸ List.mem_append_right _ List.mem_cons_self)

end NxTutors.DemoAgent
