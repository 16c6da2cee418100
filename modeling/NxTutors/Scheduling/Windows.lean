import Mathlib.Data.List.Sort
import Mathlib.Algebra.Ring.Nat

/-!
# Windows of the week

A window is a part of one day of the week, from a start to an end, and midnight as the end is the
end of the day. All questions about windows are questions about minutes, counted from Monday 00:00;
the seconds of a clock time are kept and never looked at. A weekly schedule is a list of windows in
which no two could be joined, and there is a way to make one out of any list.
-/

namespace NxTutors.Scheduling

def MINUTES_PER_DAY : Nat := 24 * 60

def MINUTES_PER_WEEK : Nat := 7 * MINUTES_PER_DAY

/-- Monday is 0. -/
abbrev Weekday := Fin 7

instance neZero_days : NeZero 7 := ⟨by decide⟩
instance neZero_hours : NeZero 24 := ⟨by decide⟩
instance neZero_minutes : NeZero 60 := ⟨by decide⟩
instance neZero_micros : NeZero 1000000 := ⟨by decide⟩

/-- A `time`. -/
structure ClockTime where
  hour : Fin 24
  minute : Fin 60
  second : Fin 60 := 0
  microsecond : Fin 1000000 := 0
  deriving DecidableEq, Repr

namespace ClockTime

/-- `time(hours, minutes)`, for numbers that are in range. -/
def ofParts (hours minutes : Nat) : ClockTime := ⟨Fin.ofNat 24 hours, Fin.ofNat 60 minutes, 0, 0⟩

/-- `time(0, 0)`. -/
def midnight : ClockTime := ⟨0, 0, 0, 0⟩

/-- The minutes since midnight. -/
def minutes (t : ClockTime) : Nat := t.hour * 60 + t.minute

/-- Nothing is lost by looking at the minutes only. -/
def WholeMinute (t : ClockTime) : Prop := t.second = 0 ∧ t.microsecond = 0

instance (t : ClockTime) : Decidable t.WholeMinute := inferInstanceAs (Decidable (_ ∧ _))

theorem minutes_lt (t : ClockTime) : t.minutes < MINUTES_PER_DAY := by
  have hhour := t.hour.isLt
  have hminute := t.minute.isLt
  unfold minutes MINUTES_PER_DAY
  omega

theorem minutes_ofParts {hours mins : Nat} (h : hours < 24) (hm : mins < 60) :
    (ofParts hours mins).minutes = hours * 60 + mins := by
  simp only [minutes, ofParts, Fin.val_ofNat, Nat.mod_eq_of_lt h, Nat.mod_eq_of_lt hm]

/-- A number of minutes as a time and back. -/
theorem minutes_ofParts_div {n : Nat} (h : n < MINUTES_PER_DAY) :
    (ofParts (n / 60) (n % 60)).minutes = n := by
  unfold MINUTES_PER_DAY at h
  rw [minutes_ofParts (by omega) (by omega)]
  omega

theorem wholeMinute_ofParts (hours mins : Nat) : (ofParts hours mins).WholeMinute := ⟨rfl, rfl⟩

/-- A time of whole minutes is its minutes. -/
theorem ofParts_minutes {t : ClockTime} (h : t.WholeMinute) :
    ofParts (t.minutes / 60) (t.minutes % 60) = t := by
  obtain ⟨hour, minute, second, microsecond⟩ := t
  obtain ⟨rfl, rfl⟩ : second = 0 ∧ microsecond = 0 := h
  have hminute := minute.isLt
  have hdiv : (hour * 60 + minute : Nat) / 60 = hour := by omega
  have hmod : (hour * 60 + minute : Nat) % 60 = minute := by omega
  simp only [ofParts, minutes, hdiv, hmod, Fin.ofNat_val_eq_self]

/-- Two times of whole minutes with the same minutes are one. -/
theorem eq_of_minutes {t u : ClockTime} (ht : t.WholeMinute) (hu : u.WholeMinute)
    (h : t.minutes = u.minutes) : t = u := by
  rw [← ofParts_minutes ht, ← ofParts_minutes hu, h]

end ClockTime

/-! ## Windows -/

/-- The minutes of an end, for which midnight is the end of the day. -/
def endOfDay (t : ClockTime) : Nat := if t.minutes = 0 then MINUTES_PER_DAY else t.minutes

/-- A half-open window on one weekday. The source has `end` for `finish`. -/
structure TimeWindow where
  weekday : Weekday
  start : ClockTime
  finish : ClockTime
  order : start.minutes < endOfDay finish
  deriving DecidableEq, Repr

/-- A window, unless it ends before it starts. -/
def TimeWindow.make? (weekday : Weekday) (start finish : ClockTime) : Option TimeWindow :=
  if h : start.minutes < endOfDay finish then some ⟨weekday, start, finish, h⟩ else none

namespace TimeWindow

variable (w : TimeWindow)

/-- Minutes from Monday 00:00. -/
def startMinute : Nat := w.weekday * MINUTES_PER_DAY + w.start.minutes

def endMinute : Nat := w.weekday * MINUTES_PER_DAY + endOfDay w.finish

def durationMinutes : Nat := w.endMinute - w.startMinute

/-- The first minute of the day. -/
def dayStart : Nat := w.weekday * MINUTES_PER_DAY

/-- Minutes shared with another one. The difference of natural numbers is never below zero. -/
def overlapMinutes (a b : TimeWindow) : Nat :=
  min a.endMinute b.endMinute - max a.startMinute b.startMinute

def Overlaps (a b : TimeWindow) : Prop := 0 < a.overlapMinutes b

instance (a b : TimeWindow) : Decidable (a.Overlaps b) := inferInstanceAs (Decidable (_ < _))

/-- A minute of the week is in the window. -/
def Has (m : Nat) : Prop := w.startMinute ≤ m ∧ m < w.endMinute

instance (m : Nat) : Decidable (w.Has m) := inferInstanceAs (Decidable (_ ∧ _))

/-- Both ends are whole minutes. -/
def WholeMinutes : Prop := w.start.WholeMinute ∧ w.finish.WholeMinute

theorem endOfDay_le (t : ClockTime) : endOfDay t ≤ MINUTES_PER_DAY := by
  unfold endOfDay
  split_ifs
  · exact le_rfl
  · exact t.minutes_lt.le

theorem endOfDay_midnight : endOfDay ClockTime.midnight = MINUTES_PER_DAY := rfl

variable {w}

theorem startMinute_lt_endMinute : w.startMinute < w.endMinute :=
  Nat.add_lt_add_left w.order _

theorem dayStart_le : w.dayStart ≤ w.startMinute := Nat.le_add_right _ _

theorem endMinute_le : w.endMinute ≤ w.dayStart + MINUTES_PER_DAY :=
  Nat.add_le_add_left (endOfDay_le _) _

theorem endMinute_le_week : w.endMinute ≤ MINUTES_PER_WEEK := by
  have h := w.endMinute_le
  have hday := w.weekday.isLt
  unfold dayStart MINUTES_PER_DAY at h
  unfold MINUTES_PER_WEEK MINUTES_PER_DAY
  omega

theorem startMinute_div : w.startMinute / MINUTES_PER_DAY = w.weekday := by
  have h := w.start.minutes_lt
  unfold startMinute
  unfold MINUTES_PER_DAY at *
  omega

theorem startMinute_mod : w.startMinute % MINUTES_PER_DAY = w.start.minutes := by
  have h := w.start.minutes_lt
  unfold startMinute
  unfold MINUTES_PER_DAY at *
  omega

/-- A window of whole minutes is told by its two ends. -/
theorem eq_of_minutes {v w : TimeWindow} (hv : v.WholeMinutes) (hw : w.WholeMinutes)
    (hstart : v.startMinute = w.startMinute) (hend : v.endMinute = w.endMinute) : v = w := by
  have hday : v.weekday = w.weekday :=
    Fin.ext (by rw [← v.startMinute_div, ← w.startMinute_div, hstart])
  have hs : v.start = w.start := ClockTime.eq_of_minutes hv.1 hw.1
    (by rw [← v.startMinute_mod, ← w.startMinute_mod, hstart])
  have hfin : endOfDay v.finish = endOfDay w.finish := by
    unfold endMinute at hend
    rw [hday] at hend
    exact Nat.add_left_cancel hend
  have hf : v.finish = w.finish := by
    refine ClockTime.eq_of_minutes hv.2 hw.2 ?_
    have hlv := v.finish.minutes_lt
    have hlw := w.finish.minutes_lt
    unfold endOfDay at hfin
    split_ifs at hfin <;> omega
  obtain ⟨vd, vs, vf, _⟩ := v
  obtain ⟨wd, ws, wf, _⟩ := w
  obtain ⟨rfl, rfl, rfl⟩ : vd = wd ∧ vs = ws ∧ vf = wf := ⟨hday, hs, hf⟩
  rfl

end TimeWindow

/-- Two minutes of the week that bound a part of one day. -/
structure OneDay (start finish : Nat) : Prop where
  order : start < finish
  week : start < MINUTES_PER_WEEK
  day : finish ≤ (start / MINUTES_PER_DAY + 1) * MINUTES_PER_DAY

/-- A clock time that ends a window, from the minutes of its day. -/
def endTime (offset : Nat) : ClockTime :=
  if offset = MINUTES_PER_DAY then .midnight else .ofParts (offset / 60) (offset % 60)

theorem endOfDay_endTime {n : Nat} (hpos : 0 < n) (h : n ≤ MINUTES_PER_DAY) :
    endOfDay (endTime n) = n := by
  unfold endTime
  split_ifs with heq
  · rw [heq]
    rfl
  · rw [endOfDay, ClockTime.minutes_ofParts_div (by omega), if_neg (by omega)]

theorem wholeMinute_endTime (n : Nat) : (endTime n).WholeMinute := by
  unfold endTime
  split_ifs <;> exact ⟨rfl, rfl⟩

/-- `_window_from_minutes`. It raises when the day is left, which the argument excludes. -/
def windowFromMinutes (startMinute endMinute : Nat) (h : OneDay startMinute endMinute) :
    TimeWindow where
  weekday := Fin.ofNat 7 (startMinute / MINUTES_PER_DAY)
  start := .ofParts ((startMinute - startMinute / MINUTES_PER_DAY * MINUTES_PER_DAY) / 60)
    ((startMinute - startMinute / MINUTES_PER_DAY * MINUTES_PER_DAY) % 60)
  finish := endTime (endMinute - startMinute / MINUTES_PER_DAY * MINUTES_PER_DAY)
  order := by
    have h1 := h.order
    have h2 := h.day
    rw [ClockTime.minutes_ofParts_div, endOfDay_endTime]
    all_goals
      unfold MINUTES_PER_DAY at *
      omega

section WindowFromMinutes

variable {startMinute endMinute : Nat} (h : OneDay startMinute endMinute)

theorem weekday_windowFromMinutes :
    ((windowFromMinutes startMinute endMinute h).weekday : Nat) = startMinute / MINUTES_PER_DAY := by
  have hweek := h.week
  refine Nat.mod_eq_of_lt ?_
  unfold MINUTES_PER_WEEK at hweek
  unfold MINUTES_PER_DAY at *
  omega

@[simp]
theorem startMinute_windowFromMinutes :
    (windowFromMinutes startMinute endMinute h).startMinute = startMinute := by
  have hmod : startMinute - startMinute / MINUTES_PER_DAY * MINUTES_PER_DAY < MINUTES_PER_DAY := by
    unfold MINUTES_PER_DAY
    omega
  rw [TimeWindow.startMinute, weekday_windowFromMinutes, windowFromMinutes,
    ClockTime.minutes_ofParts_div hmod]
  unfold MINUTES_PER_DAY
  omega

@[simp]
theorem endMinute_windowFromMinutes :
    (windowFromMinutes startMinute endMinute h).endMinute = endMinute := by
  have h1 := h.order
  have h2 := h.day
  rw [TimeWindow.endMinute, weekday_windowFromMinutes, windowFromMinutes, endOfDay_endTime]
  all_goals
    unfold MINUTES_PER_DAY at *
    omega

theorem wholeMinutes_windowFromMinutes :
    (windowFromMinutes startMinute endMinute h).WholeMinutes :=
  ⟨ClockTime.wholeMinute_ofParts _ _, wholeMinute_endTime _⟩

end WindowFromMinutes

namespace TimeWindow

/-- Of two windows that overlap, the minutes shared are a part of one day. -/
theorem oneDay_of_overlaps {a b : TimeWindow} (h : a.Overlaps b) :
    OneDay (max a.startMinute b.startMinute) (min a.endMinute b.endMinute) := by
  have hlt : max a.startMinute b.startMinute < min a.endMinute b.endMinute := by
    unfold Overlaps overlapMinutes at h
    omega
  have ha := a.endMinute_le
  have hb := b.endMinute_le
  have hweek := a.endMinute_le_week
  have hda := a.startMinute_div
  have hdb := b.startMinute_div
  have hle : a.dayStart ≤ a.startMinute := dayStart_le
  refine ⟨hlt, by omega, ?_⟩
  unfold dayStart MINUTES_PER_DAY at *
  omega

/-- The window that two windows share. -/
def intersect (a b : TimeWindow) : Option TimeWindow :=
  if h : a.Overlaps b then some (windowFromMinutes _ _ (oneDay_of_overlaps h)) else none

theorem overlaps_iff {a b : TimeWindow} : a.Overlaps b ↔ ∃ m, a.Has m ∧ b.Has m := by
  constructor
  · intro h
    have hlt := (oneDay_of_overlaps h).order
    exact ⟨max a.startMinute b.startMinute, ⟨by omega, by omega⟩, ⟨by omega, by omega⟩⟩
  · rintro ⟨m, ⟨ha, ha'⟩, hb, hb'⟩
    unfold Overlaps overlapMinutes
    omega

/-- What is shared, and that it is of whole minutes. -/
theorem of_intersect {a b w : TimeWindow} (h : a.intersect b = some w) :
    w.WholeMinutes ∧ ∀ m, w.Has m ↔ a.Has m ∧ b.Has m := by
  unfold intersect at h
  split_ifs at h with hover
  obtain rfl := Option.some.inj h
  refine ⟨wholeMinutes_windowFromMinutes _, fun m => ?_⟩
  rw [Has, startMinute_windowFromMinutes, endMinute_windowFromMinutes]
  unfold Has
  omega

theorem exists_intersect {a b : TimeWindow} {m : Nat} (ha : a.Has m) (hb : b.Has m) :
    ∃ w, a.intersect b = some w ∧ w.Has m := by
  have hover : a.Overlaps b := overlaps_iff.mpr ⟨m, ha, hb⟩
  refine ⟨_, dif_pos hover, ?_⟩
  rw [Has, startMinute_windowFromMinutes, endMinute_windowFromMinutes]
  unfold Has at ha hb
  omega

end TimeWindow

end NxTutors.Scheduling
