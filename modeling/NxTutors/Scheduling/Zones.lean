import NxTutors.Scheduling.Schedules

/-!
# Schedules in other timezones

The timezones here keep a fixed distance to UTC, given in minutes, and the week is one that repeats.
An instant is a minute of UTC, counted from some Monday on in both directions, so the minute of the
week that a schedule has to have for it depends on the timezone of the schedule. A schedule in
another timezone is free at the same instants.
-/

namespace NxTutors.Scheduling

open TimeWindow

/-- The minute of the week, of minutes counted from a Monday on. -/
def weekMinute (m : Int) : Nat := (m % MINUTES_PER_WEEK).toNat

theorem weekMinute_lt (m : Int) : weekMinute m < MINUTES_PER_WEEK := by
  unfold weekMinute MINUTES_PER_WEEK MINUTES_PER_DAY
  omega

/-- A minute of the week is its own. -/
theorem weekMinute_natCast {m : Nat} (h : m < MINUTES_PER_WEEK) : weekMinute m = m := by
  unfold weekMinute MINUTES_PER_WEEK MINUTES_PER_DAY at *
  omega

/-- A window has a minute when it has it in one of the weeks. -/
theorem has_weekMinute {w : TimeWindow} {m : Int} :
    w.Has (weekMinute m) ↔
      ∃ k : Int, w.startMinute ≤ m + k * MINUTES_PER_WEEK ∧ m + k * MINUTES_PER_WEEK < w.endMinute := by
  have hweek := w.endMinute_le_week
  unfold Has weekMinute
  unfold MINUTES_PER_WEEK MINUTES_PER_DAY at *
  constructor
  · intro h
    exact ⟨-(m / (7 * (24 * 60) : Nat)), by omega, by omega⟩
  · rintro ⟨k, hlow, hhigh⟩
    omega

namespace WeeklySchedule

/-- **The schedule is free at an instant.** -/
def FreeAt (offset : String → Int) (s : WeeklySchedule) (t : Int) : Prop :=
  Covers s.windows (weekMinute (t + offset s.timezone))

end WeeklySchedule

/-! ## Parts of days -/

/-- The end of the day of a minute. -/
def dayEnd (c : Int) : Int := (c / MINUTES_PER_DAY + 1) * MINUTES_PER_DAY

/-- `weekday()`. -/
def weekdayOf (c : Int) : Weekday := Fin.ofNat 7 (c / MINUTES_PER_DAY % 7).toNat

/-- `time(c.hour, c.minute)`. -/
def clockOf (c : Int) : ClockTime :=
  .ofParts (c % MINUTES_PER_DAY / 60).toNat (c % MINUTES_PER_DAY % 60).toNat

theorem minutes_clockOf (c : Int) : (clockOf c).minutes = (c % MINUTES_PER_DAY).toNat := by
  unfold clockOf MINUTES_PER_DAY
  rw [ClockTime.minutes_ofParts (by omega) (by omega)]
  omega

theorem lt_dayEnd (c : Int) : c < dayEnd c := by
  unfold dayEnd MINUTES_PER_DAY
  omega

/-- The end of a part of a day. -/
def segmentEndTime (start segmentEnd : Int) : ClockTime :=
  if segmentEnd = dayEnd start then .midnight else clockOf segmentEnd

theorem endOfDay_segmentEndTime {start segmentEnd : Int} (h : start < segmentEnd)
    (hday : segmentEnd ≤ dayEnd start) :
    (endOfDay (segmentEndTime start segmentEnd) : Int)
      = segmentEnd - start / MINUTES_PER_DAY * MINUTES_PER_DAY := by
  unfold segmentEndTime
  split_ifs with heq
  · rw [endOfDay_midnight, heq, dayEnd]
    unfold MINUTES_PER_DAY
    omega
  · rw [endOfDay, minutes_clockOf]
    unfold dayEnd MINUTES_PER_DAY at *
    split_ifs <;> omega

/-- A part of one day as a window. -/
def segment (start segmentEnd : Int) (h : start < segmentEnd) (hday : segmentEnd ≤ dayEnd start) :
    TimeWindow where
  weekday := weekdayOf start
  start := clockOf start
  finish := segmentEndTime start segmentEnd
  order := by
    have hend := endOfDay_segmentEndTime h hday
    rw [minutes_clockOf]
    unfold MINUTES_PER_DAY at *
    omega

/-- **A part of a day covers its minutes**, in every week. -/
theorem has_segment {start segmentEnd : Int} (h : start < segmentEnd)
    (hday : segmentEnd ≤ dayEnd start) {m : Int} :
    (segment start segmentEnd h hday).Has (weekMinute m) ↔
      ∃ k : Int, start ≤ m + k * MINUTES_PER_WEEK ∧ m + k * MINUTES_PER_WEEK < segmentEnd := by
  have hend := endOfDay_segmentEndTime h hday
  have hweekday : ((weekdayOf start : Nat) : Int) = start / MINUTES_PER_DAY % 7 := by
    unfold weekdayOf
    rw [Fin.val_ofNat]
    omega
  have hstart : ((segment start segmentEnd h hday).startMinute : Int)
      = start / MINUTES_PER_DAY % 7 * MINUTES_PER_DAY + start % MINUTES_PER_DAY := by
    rw [startMinute, segment, minutes_clockOf]
    push_cast
    rw [hweekday]
    unfold MINUTES_PER_DAY
    omega
  have hfinish : ((segment start segmentEnd h hday).endMinute : Int)
      = start / MINUTES_PER_DAY % 7 * MINUTES_PER_DAY
        + (segmentEnd - start / MINUTES_PER_DAY * MINUTES_PER_DAY) := by
    rw [endMinute, segment]
    push_cast
    rw [hweekday, hend]
  rw [has_weekMinute, hstart, hfinish]
  -- the window and the part of the day are whole weeks apart
  have hweeks : start / MINUTES_PER_DAY
      = start / MINUTES_PER_DAY % 7 + 7 * (start / MINUTES_PER_DAY / 7) := by omega
  constructor
  · rintro ⟨k, hlow, hhigh⟩
    refine ⟨k + start / MINUTES_PER_DAY / 7, ?_, ?_⟩
    all_goals
      rw [Int.add_mul]
      unfold MINUTES_PER_WEEK MINUTES_PER_DAY at *
      omega
  · rintro ⟨k, hlow, hhigh⟩
    refine ⟨k - start / MINUTES_PER_DAY / 7, ?_, ?_⟩
    all_goals
      rw [Int.sub_mul]
      unfold MINUTES_PER_WEEK MINUTES_PER_DAY at *
      omega

/-- `_split_across_days`. -/
def splitAcrossDays (cursor finish : Int) : List TimeWindow :=
  if h : cursor < finish then
    segment cursor (min finish (dayEnd cursor)) (lt_min h (lt_dayEnd cursor)) (min_le_right _ _) ::
      splitAcrossDays (min finish (dayEnd cursor)) finish
  else []
termination_by (finish - cursor).toNat
decreasing_by
  have hday := lt_dayEnd cursor
  omega

/-- **Nothing is lost at midnight.** -/
theorem covers_splitAcrossDays {cursor finish m : Int} :
    Covers (splitAcrossDays cursor finish) (weekMinute m) ↔
      ∃ k : Int, cursor ≤ m + k * MINUTES_PER_WEEK ∧ m + k * MINUTES_PER_WEEK < finish := by
  fun_induction splitAcrossDays cursor finish with
  | case1 cursor h ih =>
    have hday := lt_dayEnd cursor
    rw [covers_cons, has_segment, ih, ← exists_or]
    refine exists_congr fun k => ?_
    omega
  | case2 cursor h =>
    refine iff_of_false covers_nil ?_
    rintro ⟨k, hlow, hhigh⟩
    omega

/-! ## Conversion -/

/-- `astimezone`, on the minutes that a clock of the timezone has counted. -/
def astimezone (source target c : Int) : Int := c - source + target

/-- Re-express a weekly schedule in another timezone. -/
def toTimezone (offset : String → Int) (schedule : WeeklySchedule) (target : String) :
    WeeklySchedule :=
  if schedule.timezone = target then schedule
  else .make target <| schedule.windows.flatMap fun window =>
    splitAcrossDays (astimezone (offset schedule.timezone) (offset target) window.startMinute)
      (astimezone (offset schedule.timezone) (offset target) window.endMinute)

variable {offset : String → Int} {schedule : WeeklySchedule} {target : String}

theorem timezone_toTimezone : (toTimezone offset schedule target).timezone = target := by
  unfold toTimezone
  split_ifs with h
  · exact h
  · rfl

/-- **The schedule in another timezone is free at the same instants.** -/
theorem freeAt_toTimezone {t : Int} :
    (toTimezone offset schedule target).FreeAt offset t ↔ schedule.FreeAt offset t := by
  unfold toTimezone
  split_ifs with h
  · rfl
  · rw [WeeklySchedule.FreeAt, WeeklySchedule.FreeAt, WeeklySchedule.covers_make]
    have hzone (windows) : (WeeklySchedule.make target windows).timezone = target := rfl
    rw [hzone]
    constructor
    · rintro ⟨w, hw, hm⟩
      obtain ⟨v, hv, hwv⟩ := List.mem_flatMap.mp hw
      obtain ⟨k, hlow, hhigh⟩ := covers_splitAcrossDays.mp ⟨w, hwv, hm⟩
      refine ⟨v, hv, has_weekMinute.mpr ⟨k, ?_, ?_⟩⟩
      all_goals
        unfold astimezone at hlow hhigh
        omega
    · rintro ⟨v, hv, hm⟩
      obtain ⟨k, hlow, hhigh⟩ := has_weekMinute.mp hm
      have hsplit : Covers (splitAcrossDays
          (astimezone (offset schedule.timezone) (offset target) v.startMinute)
          (astimezone (offset schedule.timezone) (offset target) v.endMinute))
          (weekMinute (t + offset target)) := by
        refine covers_splitAcrossDays.mpr ⟨k, ?_, ?_⟩
        all_goals
          unfold astimezone
          omega
      obtain ⟨w, hw, hwm⟩ := hsplit
      exact ⟨w, List.mem_flatMap.mpr ⟨v, hv, hw⟩, hwm⟩

end NxTutors.Scheduling
