import NxTutors.Scheduling.Zones
import NxTutors.MatchAgent.Machine

/-!
# Stored availability

A window of a tutor is a row, which has minutes of its day, a timezone, and the source it came from.
The sync replaces the rows that are its own. The reader makes a schedule of all rows of a tutor, and
a schedule has one timezone: that of the row that is read last.
-/

namespace NxTutors.Sync

open Scheduling
open MatchAgent (Time)

/-! ## The table -/

/-- A row of `tutor_availability`, with the checks that the table makes. -/
structure TutorAvailability where
  tutorId : String
  weekday : Weekday
  startMinute : Int
  endMinute : Int
  timezone : String := "Asia/Kolkata"
  source : String
  confirmedAt : Option Time := none
  order : startMinute < endMinute
  deriving DecidableEq, Repr

namespace TutorAvailability

/-- `uq_availability_slot`. -/
def slot (row : TutorAvailability) : String × Weekday × Int :=
  (row.tutorId, row.weekday, row.startMinute)

/-- The window is in its day, which the table does not check. -/
def InDay (row : TutorAvailability) : Prop :=
  0 ≤ row.startMinute ∧ row.endMinute ≤ MINUTES_PER_DAY

instance (row : TutorAvailability) : Decidable row.InDay := inferInstanceAs (Decidable (_ ∧ _))

/-- What the row says of an instant, if its minutes are those of a timezone. -/
def SaysIn (row : TutorAvailability) (offset t : Int) : Prop :=
  ∃ k : Int, row.weekday * MINUTES_PER_DAY + row.startMinute ≤ t + offset + k * MINUTES_PER_WEEK ∧
    t + offset + k * MINUTES_PER_WEEK < row.weekday * MINUTES_PER_DAY + row.endMinute

/-- **What the row says of an instant**, in its own timezone. -/
def Says (row : TutorAvailability) (offset : String → Int) (t : Int) : Prop :=
  row.SaysIn (offset row.timezone) t

end TutorAvailability

/-! ## Reading -/

/-- `time(hours, minutes)`, which raises out of range. -/
def time? (hours minutes : Int) : Option ClockTime :=
  if 0 ≤ hours ∧ hours < 24 ∧ 0 ≤ minutes ∧ minutes < 60 then
    some (.ofParts hours.toNat minutes.toNat)
  else none

/-- The end of the window of a row, where the end of the day is midnight. -/
def readEnd (row : TutorAvailability) : Option ClockTime :=
  if row.endMinute = MINUTES_PER_DAY then time? 0 0
  else time? (row.endMinute / 60) (row.endMinute % 60)

/-- The window of a row. -/
def readWindow (row : TutorAvailability) : Option TimeWindow := do
  let start ← time? (row.startMinute / 60) (row.startMinute % 60)
  let finish ← readEnd row
  TimeWindow.make? row.weekday start finish

/-- The two dictionaries of the loop. -/
structure Grouped where
  grouped : String → List TimeWindow
  zones : String → Option String

/-- One round of the loop. -/
def group (acc : Grouped) (row : TutorAvailability) : Option Grouped := do
  let window ← readWindow row
  return {
    grouped := Function.update acc.grouped row.tutorId (acc.grouped row.tutorId ++ [window])
    zones := Function.update acc.zones row.tutorId (some row.timezone) }

/-- `PostgresTutorRepository._availability`, of the rows in the order in which the query has them,
which is any. -/
def availability (rows : List TutorAvailability) : Option (String → Option WeeklySchedule) := do
  let acc ← rows.foldlM group ⟨fun _ => [], fun _ => none⟩
  return fun tutorId => (acc.zones tutorId).map fun zone => .make zone (acc.grouped tutorId)

/-! ## Writing -/

/-- Marks rows this sync owns. -/
def AVAILABILITY_SOURCE : String := "website_feed"

/-- The row of a window. -/
def rowOf (tutorId timezone : String) (now : Time) (window : TimeWindow) : TutorAvailability where
  tutorId := tutorId
  weekday := window.weekday
  startMinute := window.startMinute - window.weekday * MINUTES_PER_DAY
  endMinute := window.endMinute - window.weekday * MINUTES_PER_DAY
  timezone := timezone
  source := AVAILABILITY_SOURCE
  confirmedAt := some now
  order := by
    have h : window.startMinute < window.endMinute := TimeWindow.startMinute_lt_endMinute
    omega

/-- `add_all`, which raises when a slot is there already. -/
def addAll (table rows : List TutorAvailability) : Option (List TutorAvailability) :=
  if (table ++ rows).Pairwise (·.slot ≠ ·.slot) then some (table ++ rows) else none

/-- Replace this tutor's published windows, wholesale. -/
def replaceAvailability (tutorId : String) (schedule : Option WeeklySchedule) (now : Time)
    (table : List TutorAvailability) : Option (List TutorAvailability) :=
  let kept := table.filter fun row => !(row.tutorId = tutorId && row.source = AVAILABILITY_SOURCE)
  match schedule with
  | none => some kept
  | some schedule =>
    if schedule.truthy then
      addAll kept (schedule.windows.map (rowOf tutorId schedule.timezone now))
    else some kept

/-! ## One row -/

section OneRow

variable {row : TutorAvailability}

theorem time?_of_minutes {n : Int} (h0 : 0 ≤ n) (h : n < MINUTES_PER_DAY) :
    ∃ t, time? (n / 60) (n % 60) = some t ∧ t.WholeMinute ∧ (t.minutes : Int) = n := by
  unfold MINUTES_PER_DAY at h
  refine ⟨_, if_pos (by omega), ClockTime.wholeMinute_ofParts _ _, ?_⟩
  rw [ClockTime.minutes_ofParts (by omega) (by omega)]
  omega

theorem time?_eq_none {n : Int} (h : n < 0 ∨ MINUTES_PER_DAY ≤ n) :
    time? (n / 60) (n % 60) = none := by
  unfold MINUTES_PER_DAY at h
  exact if_neg (by omega)

/-- **A row of one day is a window**, with the minutes of the row. -/
theorem readWindow_of_inDay (h : row.InDay) :
    ∃ w, readWindow row = some w ∧ w.WholeMinutes ∧
      (w.startMinute : Int) = row.weekday * MINUTES_PER_DAY + row.startMinute ∧
      (w.endMinute : Int) = row.weekday * MINUTES_PER_DAY + row.endMinute := by
  have horder := row.order
  obtain ⟨hlow, hhigh⟩ := h
  obtain ⟨start, hstart, hswhole, hsmin⟩ := time?_of_minutes hlow (by omega)
  obtain ⟨finish, hfinish, hfwhole, hfmin⟩ : ∃ finish, readEnd row = some finish ∧
      finish.WholeMinute ∧ (endOfDay finish : Int) = row.endMinute := by
    unfold readEnd
    by_cases heq : row.endMinute = MINUTES_PER_DAY
    · exact ⟨.midnight, by rw [if_pos heq]; rfl, ⟨rfl, rfl⟩, by rw [heq]; rfl⟩
    · obtain ⟨finish, hfinish, hwhole, hmin⟩ := @time?_of_minutes row.endMinute (by omega) (by omega)
      refine ⟨finish, by rw [if_neg heq, hfinish], hwhole, ?_⟩
      rw [endOfDay, if_neg (by omega), hmin]
  have horder' : start.minutes < endOfDay finish := by omega
  refine ⟨⟨row.weekday, start, finish, horder'⟩, ?_, ⟨hswhole, hfwhole⟩, ?_, ?_⟩
  · rw [readWindow, hstart, hfinish]
    exact dif_pos horder'
  · rw [← hsmin]
    rfl
  · rw [← hfmin]
    rfl

/-- Any other row raises. -/
theorem readWindow_eq_none (h : ¬ row.InDay) : readWindow row = none := by
  have horder := row.order
  unfold TutorAvailability.InDay at h
  unfold readWindow
  by_cases hstart : 0 ≤ row.startMinute ∧ row.startMinute < MINUTES_PER_DAY
  · obtain ⟨start, heq, -, -⟩ := time?_of_minutes hstart.1 hstart.2
    have hend : readEnd row = none := by
      rw [readEnd, if_neg (by omega), time?_eq_none (by omega)]
    rw [heq, hend]
    rfl
  · rw [time?_eq_none (by omega)]
    rfl

/-- What the window of a row has is what the row says. -/
theorem has_readWindow {w : TimeWindow} (hw : readWindow row = some w) (h : row.InDay)
    {offset t : Int} : w.Has (weekMinute (t + offset)) ↔ row.SaysIn offset t := by
  obtain ⟨w', hw', -, hstart, hend⟩ := readWindow_of_inDay h
  obtain rfl : w' = w := Option.some.inj (hw'.symm.trans hw)
  rw [has_weekMinute, hstart, hend]
  rfl

variable {tutorId timezone : String} {now : Time} {w : TimeWindow}

theorem inDay_rowOf : (rowOf tutorId timezone now w).InDay := by
  have hstart : w.dayStart ≤ w.startMinute := TimeWindow.dayStart_le
  have hend := w.endMinute_le
  unfold TimeWindow.dayStart at hstart hend
  constructor
  · show (0 : Int) ≤ w.startMinute - w.weekday * MINUTES_PER_DAY
    omega
  · show (w.endMinute : Int) - w.weekday * MINUTES_PER_DAY ≤ MINUTES_PER_DAY
    omega

/-- **A window of whole minutes is what is read of its row.** -/
theorem readWindow_rowOf (h : w.WholeMinutes) : readWindow (rowOf tutorId timezone now w) = some w := by
  obtain ⟨w', hw', hwhole, hstart, hend⟩ :=
    readWindow_of_inDay (@inDay_rowOf tutorId timezone now w)
  rw [hw']
  refine congrArg some (TimeWindow.eq_of_minutes hwhole h ?_ ?_)
  · have hrow : (rowOf tutorId timezone now w).startMinute
        = w.startMinute - w.weekday * MINUTES_PER_DAY := rfl
    have hday : (rowOf tutorId timezone now w).weekday = w.weekday := rfl
    rw [hrow, hday] at hstart
    omega
  · have hrow : (rowOf tutorId timezone now w).endMinute
        = w.endMinute - w.weekday * MINUTES_PER_DAY := rfl
    have hday : (rowOf tutorId timezone now w).weekday = w.weekday := rfl
    rw [hrow, hday] at hend
    omega

end OneRow

/-! ## All rows of a tutor -/

section AllRows

variable {offset : String → Int} {rows : List TutorAvailability} {tutorId : String}

/-- The rows of a tutor, in their order. -/
def rowsOf (tutorId : String) (rows : List TutorAvailability) : List TutorAvailability :=
  rows.filter (·.tutorId = tutorId)

/-- By the rows: each adds a window to those of its tutor, and its timezone is the last. -/
theorem foldlM_group : ∀ {rows : List TutorAvailability} {acc : Grouped}, (∀ r ∈ rows, r.InDay) →
    ∃ g, rows.foldlM group acc = some g ∧ ∀ tutorId,
      g.grouped tutorId = acc.grouped tutorId ++ (rowsOf tutorId rows).filterMap readWindow ∧
      g.zones tutorId =
        ((rowsOf tutorId rows).getLast?.map (·.timezone)).or (acc.zones tutorId) := by
  intro rows
  induction rows with
  | nil => exact fun {acc} _ => ⟨acc, rfl, fun _ => ⟨(List.append_nil _).symm, rfl⟩⟩
  | cons row rows ih =>
    intro acc hin
    obtain ⟨hrow, hrows⟩ := List.forall_mem_cons.mp hin
    obtain ⟨w, hw, -⟩ := readWindow_of_inDay hrow
    obtain ⟨g, hfold, hg⟩ := @ih ⟨Function.update acc.grouped row.tutorId
      (acc.grouped row.tutorId ++ [w]), Function.update acc.zones row.tutorId (some row.timezone)⟩
      hrows
    refine ⟨g, ?_, fun tutorId => ?_⟩
    · rw [List.foldlM_cons, group, hw]
      exact hfold
    · obtain ⟨hgrouped, hzones⟩ := hg tutorId
      by_cases heq : row.tutorId = tutorId
      · have hcons : rowsOf tutorId (row :: rows) = row :: rowsOf tutorId rows :=
          List.filter_cons_of_pos (by simpa using heq)
        rw [hcons, List.filterMap_cons_some hw, hgrouped, hzones]
        subst heq
        simp only [Function.update_self, List.append_assoc, List.singleton_append, true_and]
        cases hlast : (rowsOf row.tutorId rows).getLast? with
        | none => simp [List.getLast?_eq_none_iff.mp hlast]
        | some last =>
          rw [List.getLast?_cons, hlast]
          rfl
      · have hcons : rowsOf tutorId (row :: rows) = rowsOf tutorId rows :=
          List.filter_cons_of_neg (by simpa using heq)
        rw [hcons, hgrouped, hzones]
        simp only [Function.update_of_ne (Ne.symm heq), true_and]

/-- One row that is in no day raises for all. -/
theorem foldlM_group_eq_none : ∀ {rows : List TutorAvailability} {acc : Grouped},
    ¬ (∀ r ∈ rows, r.InDay) → rows.foldlM group acc = none := by
  intro rows
  induction rows with
  | nil => exact fun h => absurd (fun _ hr => by cases hr) h
  | cons row rows ih =>
    intro acc h
    rw [List.foldlM_cons]
    by_cases hrow : row.InDay
    · obtain ⟨w, hw, -⟩ := readWindow_of_inDay hrow
      rw [group, hw]
      exact ih fun hrows => h (List.forall_mem_cons.mpr ⟨hrow, hrows⟩)
    · rw [group, readWindow_eq_none hrow]
      rfl

/-- **What is read of a tutor**: nothing without rows, and otherwise a schedule in the timezone of
the last row. -/
theorem availability_of_inDay (h : ∀ r ∈ rows, r.InDay) :
    ∃ schedules, availability rows = some schedules ∧ ∀ tutorId,
      schedules tutorId = (rowsOf tutorId rows).getLast?.map fun last =>
        .make last.timezone ((rowsOf tutorId rows).filterMap readWindow) := by
  obtain ⟨g, hfold, hg⟩ := @foldlM_group rows ⟨fun _ => [], fun _ => none⟩ h
  refine ⟨_, by rw [availability, hfold]; rfl, fun tutorId => ?_⟩
  obtain ⟨hgrouped, hzones⟩ := hg tutorId
  rw [hgrouped, hzones, List.nil_append, Option.or_none, Option.map_map]
  rfl

/-- A schedule that may be missing is free at an instant. -/
def FreeAt (offset : String → Int) (schedule : Option WeeklySchedule) (t : Int) : Prop :=
  ∃ s, schedule = some s ∧ s.FreeAt offset t

/-- **What is read is what the rows say**, of one tutor, at every instant. -/
def ReadsRight (offset : String → Int) (rows : List TutorAvailability) (tutorId : String) : Prop :=
  ∃ schedules, availability rows = some schedules ∧
    ∀ t, FreeAt offset (schedules tutorId) t ↔ ∃ r ∈ rowsOf tutorId rows, r.Says offset t

/-- The rows are in their days, and those of a tutor are of the timezone of the last, or do not
matter: what such a row says, and what it would say in that timezone, other rows say too. -/
structure OneZone (offset : String → Int) (rows : List TutorAvailability) (tutorId : String) :
    Prop where
  inDay : ∀ r ∈ rows, r.InDay
  settled : ∀ last, (rowsOf tutorId rows).getLast? = some last → ∀ r ∈ rowsOf tutorId rows,
    offset r.timezone ≠ offset last.timezone → ∀ t,
      (r.Says offset t → ∃ r' ∈ rowsOf tutorId rows, r'.SaysIn (offset last.timezone) t) ∧
      (r.SaysIn (offset last.timezone) t → ∃ r' ∈ rowsOf tutorId rows, r'.Says offset t)

/-- At an instant, the schedule that is read has what the rows say in its timezone. -/
theorem freeAt_read (h : ∀ r ∈ rows, r.InDay) {schedules : String → Option WeeklySchedule}
    (hread : availability rows = some schedules) {t : Int} :
    FreeAt offset (schedules tutorId) t ↔ ∃ last, (rowsOf tutorId rows).getLast? = some last ∧
      ∃ r ∈ rowsOf tutorId rows, r.SaysIn (offset last.timezone) t := by
  obtain ⟨schedules', hread', hschedules⟩ := availability_of_inDay h
  obtain rfl : schedules' = schedules := Option.some.inj (hread'.symm.trans hread)
  rw [FreeAt, hschedules]
  cases hlast : (rowsOf tutorId rows).getLast? with
  | none => simp
  | some last =>
    simp only [Option.map_some, Option.some.injEq, exists_eq_left']
    rw [WeeklySchedule.FreeAt, WeeklySchedule.covers_make]
    have hzone : (WeeklySchedule.make last.timezone
        ((rowsOf tutorId rows).filterMap readWindow)).timezone = last.timezone := rfl
    rw [hzone]
    have hin (r) (hr : r ∈ rowsOf tutorId rows) : r.InDay := h r (List.mem_of_mem_filter hr)
    constructor
    · rintro ⟨w, hw, hm⟩
      obtain ⟨r, hr, hrw⟩ := List.mem_filterMap.mp hw
      exact ⟨r, hr, (has_readWindow hrw (hin r hr)).mp hm⟩
    · rintro ⟨r, hr, hsays⟩
      obtain ⟨w, hrw, -⟩ := readWindow_of_inDay (hin r hr)
      exact ⟨w, List.mem_filterMap.mpr ⟨r, hr, hrw⟩, (has_readWindow hrw (hin r hr)).mpr hsays⟩

/-- **The rows are read right exactly when their timezones agree** as far as it matters. -/
theorem readsRight_iff : ReadsRight offset rows tutorId ↔ OneZone offset rows tutorId := by
  constructor
  · rintro ⟨schedules, hread, hright⟩
    have hin : ∀ r ∈ rows, r.InDay := by
      by_contra hnot
      rw [availability, foldlM_group_eq_none hnot] at hread
      cases hread
    refine ⟨hin, fun last hlast r hr _ t => ⟨fun hsays => ?_, fun hsays => ?_⟩⟩
    · obtain ⟨last', hlast', hr'⟩ := (freeAt_read hin hread).mp ((hright t).mpr ⟨r, hr, hsays⟩)
      obtain rfl : last = last' := Option.some.inj (hlast.symm.trans hlast')
      exact hr'
    · exact (hright t).mp ((freeAt_read hin hread).mpr ⟨last, hlast, r, hr, hsays⟩)
  · rintro ⟨hin, hsettled⟩
    obtain ⟨schedules, hread, -⟩ := availability_of_inDay hin
    refine ⟨schedules, hread, fun t => (freeAt_read hin hread).trans ⟨?_, ?_⟩⟩
    · rintro ⟨last, hlast, r, hr, hsays⟩
      by_cases heq : offset r.timezone = offset last.timezone
      · exact ⟨r, hr, by rw [TutorAvailability.Says, heq]; exact hsays⟩
      · exact (hsettled last hlast r hr heq t).2 hsays
    · rintro ⟨r, hr, hsays⟩
      cases hlast : (rowsOf tutorId rows).getLast? with
      | none =>
        rw [List.getLast?_eq_none_iff.mp hlast] at hr
        cases hr
      | some last =>
        refine ⟨last, rfl, ?_⟩
        by_cases heq : offset r.timezone = offset last.timezone
        · exact ⟨r, hr, by rw [← heq]; exact hsays⟩
        · exact (hsettled last hlast r hr heq t).1 hsays

end AllRows

/-! ## Writing and reading back -/

section RoundTrip

variable {tutorId : String} {now : Time} {table : List TutorAvailability} {s : WeeklySchedule}

/-- No slot is there twice. -/
def UniqueSlots (table : List TutorAvailability) : Prop := table.Pairwise (·.slot ≠ ·.slot)

/-- Every row of the tutor is the sync's. -/
def OwnRows (tutorId : String) (table : List TutorAvailability) : Prop :=
  ∀ r ∈ table, r.tutorId = tutorId → r.source = AVAILABILITY_SOURCE

theorem rowsOf_map_rowOf {timezone : String} (windows : List TimeWindow) :
    rowsOf tutorId (windows.map (rowOf tutorId timezone now))
      = windows.map (rowOf tutorId timezone now) := by
  refine List.filter_eq_self.mpr fun r hr => ?_
  obtain ⟨w, -, rfl⟩ := List.mem_map.mp hr
  exact decide_eq_true rfl

/-- The windows of a schedule have a slot each. -/
theorem uniqueSlots_map_rowOf {timezone : String} {windows : List TimeWindow}
    (h : Normal windows) : UniqueSlots (windows.map (rowOf tutorId timezone now)) := by
  refine List.pairwise_map.mpr (h.imp fun {v w} happart heq => ?_)
  obtain ⟨hday, hstart⟩ : v.weekday = w.weekday ∧
      (v.startMinute : Int) - v.weekday * MINUTES_PER_DAY
        = w.startMinute - w.weekday * MINUTES_PER_DAY := Prod.mk.inj (Prod.mk.inj heq).2
  rw [hday] at hstart
  have hlt := happart.start_lt
  omega

/-- **The rows are replaced**: those of the tutor are those of the schedule. -/
theorem replaced (hunique : UniqueSlots table) (hown : OwnRows tutorId table) :
    ∃ after, replaceAvailability tutorId (some s) now table = some after ∧
      rowsOf tutorId after = s.windows.map (rowOf tutorId s.timezone now) := by
  set kept := table.filter fun r => !(r.tutorId = tutorId && r.source = AVAILABILITY_SOURCE)
    with hkept
  have hother : ∀ r ∈ kept, r.tutorId ≠ tutorId := by
    intro r hr heq
    obtain ⟨hr, hnot⟩ := List.mem_filter.mp hr
    simp [heq, hown r hr heq] at hnot
  have hnone : rowsOf tutorId kept = [] := by
    refine List.filter_eq_nil_iff.mpr fun r hr => ?_
    simpa using hother r hr
  have hadd : addAll kept (s.windows.map (rowOf tutorId s.timezone now))
      = some (kept ++ s.windows.map (rowOf tutorId s.timezone now)) := by
    refine if_pos (List.pairwise_append.mpr
      ⟨hunique.sublist List.filter_sublist, uniqueSlots_map_rowOf s.normal, fun r hr r' hr' heq => ?_⟩)
    obtain ⟨w, -, rfl⟩ := List.mem_map.mp hr'
    exact hother r hr (Prod.mk.inj heq).1
  have hrows : rowsOf tutorId (kept ++ s.windows.map (rowOf tutorId s.timezone now))
      = s.windows.map (rowOf tutorId s.timezone now) := by
    rw [rowsOf, List.filter_append]
    exact (congrArg₂ (· ++ ·) hnone (rowsOf_map_rowOf s.windows)).trans (List.nil_append _)
  unfold replaceAvailability
  cases htruthy : s.truthy with
  | true =>
    refine ⟨_, ?_, hrows⟩
    rw [← hadd]
    simp only [htruthy, if_true, hkept]
  | false =>
    have hnil : s.windows = [] := by
      unfold WeeklySchedule.truthy at htruthy
      simpa using htruthy
    refine ⟨kept, by simp [htruthy, hkept], ?_⟩
    rw [hnone, hnil, List.map_nil]

/-- **What is read back is the schedule**, or nothing if it has no windows, in whatever order the
rows are returned. -/
theorem availability_replaced (hwhole : ∀ w ∈ s.windows, w.WholeMinutes)
    {rows : List TutorAvailability}
    (hperm : rows.Perm (s.windows.map (rowOf tutorId s.timezone now))) :
    ∃ schedules, availability rows = some schedules ∧
      schedules tutorId = if s.truthy then some s else none := by
  have hrow : ∀ r ∈ rows, ∃ w ∈ s.windows, rowOf tutorId s.timezone now w = r := fun r hr =>
    List.mem_map.mp (hperm.mem_iff.mp hr)
  have hin : ∀ r ∈ rows, r.InDay := by
    intro r hr
    obtain ⟨w, -, rfl⟩ := hrow r hr
    exact inDay_rowOf
  have hall : rowsOf tutorId rows = rows := by
    refine List.filter_eq_self.mpr fun r hr => ?_
    obtain ⟨w, -, rfl⟩ := hrow r hr
    exact decide_eq_true rfl
  obtain ⟨schedules, hread, hschedules⟩ := availability_of_inDay hin
  refine ⟨schedules, hread, ?_⟩
  rw [hschedules, hall]
  cases hlast : rows.getLast? with
  | none =>
    obtain rfl := List.getLast?_eq_none_iff.mp hlast
    have hnil : s.windows = [] := List.map_eq_nil_iff.mp (List.nil_perm.mp hperm)
    simp [WeeklySchedule.truthy, hnil]
  | some last =>
    obtain ⟨w, hw, rfl⟩ := hrow last (List.mem_of_getLast? hlast)
    have htruthy : s.truthy = true := by
      have hne : s.windows ≠ [] := List.ne_nil_of_mem hw
      simp [WeeklySchedule.truthy, hne]
    have hwindows : (s.windows.map (rowOf tutorId s.timezone now)).filterMap readWindow
        = s.windows := by
      rw [List.filterMap_map]
      exact (List.filterMap_congr fun v hv => readWindow_rowOf (hwhole v hv)).trans
        List.filterMap_some
    have hmerge : merge (rows.filterMap readWindow) = s.windows :=
      merge_eq_of_perm s.normal (hwindows ▸ hperm.filterMap readWindow)
    rw [htruthy, if_pos rfl, Option.map_some]
    refine congrArg some ?_
    obtain ⟨timezone, windows, hnormal⟩ := s
    unfold WeeklySchedule.make
    congr

end RoundTrip

/-- **Availability survives storage** exactly when the timezones of the rows agree as far as it
matters; and a schedule of whole minutes that has windows is what is read after it was written. -/
theorem availability_survives (offset : String → Int) (rows : List TutorAvailability)
    (tutorId : String) (table : List TutorAvailability) (s : WeeklySchedule) (now : Time) :
    (ReadsRight offset rows tutorId ↔ OneZone offset rows tutorId) ∧
    ((∀ w ∈ s.windows, w.WholeMinutes) → UniqueSlots table → OwnRows tutorId table →
      ∃ after, replaceAvailability tutorId (some s) now table = some after ∧
        ∀ returned, returned.Perm (rowsOf tutorId after) →
          ∃ schedules, availability returned = some schedules ∧
            schedules tutorId = if s.truthy then some s else none) := by
  refine ⟨readsRight_iff, fun hwhole hunique hown => ?_⟩
  obtain ⟨after, hreplace, hrows⟩ := @replaced _ now _ s hunique hown
  exact ⟨after, hreplace, fun returned hperm => availability_replaced hwhole (hrows ▸ hperm)⟩

/-! ## Two timezones -/

/-- At ten. -/
def atTen (weekday : Weekday) (timezone source : String) : TutorAvailability where
  tutorId := "t1"
  weekday := weekday
  startMinute := 10 * 60
  endMinute := 11 * 60
  timezone := timezone
  source := source
  order := by decide

/-- **A tutor who is free on Monday at ten in India is read as free at ten in another timezone**,
when a row for Tuesday states that one. -/
theorem ten_elsewhere : ¬ ReadsRight (fun zone => if zone = "Asia/Kolkata" then 330 else 0)
    [atTen 0 "Asia/Kolkata" AVAILABILITY_SOURCE, atTen 1 "UTC" "tutor"] "t1" := by
  intro h
  have hone := readsRight_iff.mp h
  -- Monday, half past four, is ten in India
  obtain ⟨r', hr', k, hlow, hhigh⟩ := (hone.settled (atTen 1 "UTC" "tutor") rfl
    (atTen 0 "Asia/Kolkata" AVAILABILITY_SOURCE) List.mem_cons_self (by decide) 270).1
    ⟨0, by decide, by decide⟩
  rcases List.mem_cons.mp hr' with rfl | hr'
  · have hlow' : (600 : Int) ≤ 270 + 0 + k * 10080 := hlow
    have hhigh' : 270 + 0 + k * 10080 < (660 : Int) := hhigh
    omega
  · obtain rfl := List.mem_singleton.mp hr'
    have hlow' : (1440 + 600 : Int) ≤ 270 + 0 + k * 10080 := hlow
    have hhigh' : 270 + 0 + k * 10080 < (1440 + 660 : Int) := hhigh
    omega

end NxTutors.Sync
