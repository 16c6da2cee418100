import NxTutors.Scheduling.Zones

/-!
# Where a schedule could raise

The operations on schedules once more, this time with what can go wrong in them: a number that is no
weekday or no clock time, a window that ends before it starts, one that leaves its day, two
timezones, and a loop that does not end. Nothing of this happens but for the two timezones, and what
comes out is what the operations that are built with their proofs give.
-/

namespace NxTutors.Scheduling

open TimeWindow

/-! ## Windows -/

/-- `Weekday(n)`. -/
def weekday? (n : Int) : Option Weekday :=
  if h : 0 ≤ n ∧ n < 7 then some ⟨n.toNat, by omega⟩ else none

/-- `time(hours, minutes)`. -/
def time? (hours minutes : Int) : Option ClockTime :=
  if 0 ≤ hours ∧ hours < 24 ∧ 0 ≤ minutes ∧ minutes < 60 then
    some (.ofParts hours.toNat minutes.toNat)
  else none

/-- The end of a window, unless the day is left. -/
def endTime? (endOffset : Int) : Option ClockTime :=
  if endOffset > MINUTES_PER_DAY then none
  else if endOffset = MINUTES_PER_DAY then some .midnight
  else time? (endOffset / 60) (endOffset % 60)

/-- `_window_from_minutes`, of any two numbers. -/
def windowFromMinutes? (startMinute endMinute : Int) : Option TimeWindow := do
  let weekday ← weekday? (startMinute / MINUTES_PER_DAY)
  let startOffset := startMinute - (weekday : Nat) * MINUTES_PER_DAY
  let finish ← endTime? (endMinute - (weekday : Nat) * MINUTES_PER_DAY)
  let start ← time? (startOffset / 60) (startOffset % 60)
  TimeWindow.make? weekday start finish

theorem weekday?_natCast {n : Nat} (h : n < 7) : weekday? n = some (Fin.ofNat 7 n) := by
  have hrange : (0 : Int) ≤ n ∧ (n : Int) < 7 := by omega
  rw [weekday?, dif_pos hrange]
  congr 1
  exact Fin.ext (by simp [Nat.mod_eq_of_lt h])

theorem time?_natCast {n : Nat} (h : n < MINUTES_PER_DAY) :
    time? ((n : Int) / 60) ((n : Int) % 60) = some (.ofParts (n / 60) (n % 60)) := by
  unfold MINUTES_PER_DAY at h
  have hrange : (0 : Int) ≤ (n : Int) / 60 ∧ (n : Int) / 60 < 24 ∧ (0 : Int) ≤ (n : Int) % 60 ∧
      (n : Int) % 60 < 60 := by omega
  rw [time?, if_pos hrange]
  have hhour : ((n : Int) / 60).toNat = n / 60 := by omega
  have hminute : ((n : Int) % 60).toNat = n % 60 := by omega
  rw [hhour, hminute]

theorem endTime?_natCast {n : Nat} (h : n ≤ MINUTES_PER_DAY) : endTime? n = some (endTime n) := by
  have hover : ¬ (n : Int) > MINUTES_PER_DAY := by omega
  rw [endTime?, if_neg hover, endTime]
  split_ifs with hcast hnat hnat
  · rfl
  · exact absurd (by exact_mod_cast hcast) hnat
  · exact absurd (by exact_mod_cast hnat) hcast
  · exact time?_natCast (lt_of_le_of_ne h hnat)

/-- **A part of one day is a window.** -/
theorem windowFromMinutes?_oneDay {startMinute endMinute : Nat} (h : OneDay startMinute endMinute) :
    windowFromMinutes? startMinute endMinute =
      some (windowFromMinutes startMinute endMinute h) := by
  have horder := h.order
  have hweek := h.week
  have hday := h.day
  have hdiv : ((startMinute : Int) / MINUTES_PER_DAY) = (startMinute / MINUTES_PER_DAY : Nat) := by
    push_cast
    rfl
  have hseven : startMinute / MINUTES_PER_DAY < 7 := by
    unfold MINUTES_PER_WEEK at hweek
    unfold MINUTES_PER_DAY at *
    omega
  have hval : ((Fin.ofNat 7 (startMinute / MINUTES_PER_DAY) : Weekday) : Nat) =
      startMinute / MINUTES_PER_DAY := Nat.mod_eq_of_lt hseven
  have hstart : (startMinute : Int) - (startMinute / MINUTES_PER_DAY : Nat) * MINUTES_PER_DAY =
      (startMinute - startMinute / MINUTES_PER_DAY * MINUTES_PER_DAY : Nat) := by
    unfold MINUTES_PER_DAY
    omega
  have hend : (endMinute : Int) - (startMinute / MINUTES_PER_DAY : Nat) * MINUTES_PER_DAY =
      (endMinute - startMinute / MINUTES_PER_DAY * MINUTES_PER_DAY : Nat) := by
    unfold MINUTES_PER_DAY at *
    omega
  have hlow : startMinute - startMinute / MINUTES_PER_DAY * MINUTES_PER_DAY < MINUTES_PER_DAY := by
    unfold MINUTES_PER_DAY
    omega
  have hhigh : endMinute - startMinute / MINUTES_PER_DAY * MINUTES_PER_DAY ≤ MINUTES_PER_DAY := by
    unfold MINUTES_PER_DAY at *
    omega
  unfold windowFromMinutes?
  rw [hdiv, weekday?_natCast hseven]
  simp only [Option.bind_eq_bind, Option.bind_some, hval, hstart, hend, endTime?_natCast hhigh,
    time?_natCast hlow]
  exact dif_pos (windowFromMinutes startMinute endMinute h).order

/-- What is done to every element without raising. -/
theorem mapM_eq_some {α β : Type} {f : α → Option β} {g : α → β} {xs : List α}
    (h : ∀ x ∈ xs, f x = some (g x)) : xs.mapM f = some (xs.map g) := by
  induction xs with
  | nil => rfl
  | cons x xs ih =>
    obtain ⟨hx, hxs⟩ := List.forall_mem_cons.mp h
    rw [List.mapM_cons, hx, ih hxs]
    rfl

/-- `TimeWindow.intersect`. -/
def intersect? (a b : TimeWindow) : Option (Option TimeWindow) :=
  if a.Overlaps b then
    (windowFromMinutes? (max a.startMinute b.startMinute : Nat)
      (min a.endMinute b.endMinute : Nat)).map some
  else some none

theorem intersect?_eq (a b : TimeWindow) : intersect? a b = some (a.intersect b) := by
  unfold intersect? TimeWindow.intersect
  split_ifs with h
  · rw [windowFromMinutes?_oneDay (oneDay_of_overlaps h)]
    rfl
  · rfl

/-! ## Schedules -/

/-- The loop of `_merge`. -/
def mergeFrom? (last : TimeWindow) : List TimeWindow → Option (List TimeWindow)
  | [] => some [last]
  | window :: rest =>
    if Joins last window then
      if last.endMinute < window.endMinute then do
        mergeFrom? (← windowFromMinutes? last.startMinute window.endMinute) rest
      else mergeFrom? last rest
    else (last :: ·) <$> mergeFrom? window rest

/-- `_merge`. -/
def merge? (windows : List TimeWindow) : Option (List TimeWindow) :=
  match windows.insertionSort Before with
  | [] => some []
  | first :: rest => mergeFrom? first rest

/-- By the recursion of the loop. -/
theorem mergeFrom?_eq : ∀ (rest : List TimeWindow) (last : TimeWindow),
    mergeFrom? last rest = some (mergeFrom last rest) := by
  intro rest
  induction rest with
  | nil => exact fun _ => rfl
  | cons window rest ih =>
    intro last
    rw [mergeFrom?, mergeFrom]
    split_ifs with h hend
    · rw [windowFromMinutes?_oneDay (h.oneDay hend)]
      exact ih _
    · exact ih last
    · rw [ih window]
      rfl

/-- **Merging does not raise.** -/
theorem merge?_eq (windows : List TimeWindow) : merge? windows = some (merge windows) := by
  unfold merge? merge
  cases windows.insertionSort Before with
  | nil => rfl
  | cons first rest => exact mergeFrom?_eq rest first

namespace WeeklySchedule

/-- `WeeklySchedule(timezone=…, windows=…)`. -/
def make? (timezone : String) (windows : List TimeWindow) : Option WeeklySchedule :=
  match h : merge? windows with
  | none => none
  | some merged => some ⟨timezone, merged, by
      rw [merge?_eq] at h
      exact Option.some.inj h ▸ normal_merge windows⟩

@[simp]
theorem make?_eq (timezone : String) (windows : List TimeWindow) :
    make? timezone windows = some (make timezone windows) := by
  have hmerge := merge?_eq windows
  unfold make? make
  split
  · rename_i h
    rw [h] at hmerge
    cases hmerge
  · rename_i merged h
    rw [h] at hmerge
    obtain rfl := Option.some.inj hmerge
    rfl

/-- `total_minutes`. -/
def totalMinutes (s : WeeklySchedule) : Nat := (s.windows.map durationMinutes).sum

/-- `overlap_minutes`. -/
def overlapMinutes? (a b : WeeklySchedule) : Option Nat :=
  if a.timezone ≠ b.timezone then none
  else some ((a.windows.map fun v => (b.windows.map v.overlapMinutes).sum).sum)

/-- The windows that `intersection` collects. -/
def shared? (a b : WeeklySchedule) : Option (List TimeWindow) := do
  let rows ← a.windows.mapM fun v => b.windows.mapM (intersect? v)
  return (rows.map (List.filterMap id)).flatten

/-- `intersection`. -/
def intersection? (a b : WeeklySchedule) : Option WeeklySchedule :=
  if a.timezone ≠ b.timezone then none
  else do
    make? a.timezone (← shared? a b)

variable {a b : WeeklySchedule}

theorem shared?_eq (a b : WeeklySchedule) :
    shared? a b = some (a.windows.flatMap fun v => b.windows.filterMap v.intersect) := by
  have hrows : (a.windows.mapM fun v => b.windows.mapM (intersect? v)) =
      some (a.windows.map fun v => b.windows.map v.intersect) :=
    mapM_eq_some fun v _ => mapM_eq_some fun w _ => intersect?_eq v w
  rw [shared?, hrows]
  simp only [Option.bind_eq_bind, Option.bind_some, List.map_map, List.flatMap]
  congr 2
  refine List.map_congr_left fun v _ => ?_
  rw [Function.comp_apply, List.filterMap_map]
  rfl

/-- **Only the two timezones raise.** -/
theorem intersection?_eq (h : a.timezone = b.timezone) :
    a.intersection? b = some (a.intersection b) := by
  rw [intersection?, if_neg (not_not_intro h), shared?_eq]
  exact make?_eq _ _

end WeeklySchedule

/-! ## Timezones -/

/-- `_split_across_days`, as long as the fuel lasts. -/
def splitAcrossDays? : Nat → Int → Int → Option (List TimeWindow)
  | 0, cursor, finish => if cursor < finish then none else some []
  | fuel + 1, cursor, finish =>
    if cursor < finish then do
      let segmentEnd := min finish (dayEnd cursor)
      let window ← TimeWindow.make? (weekdayOf cursor) (clockOf cursor)
        (segmentEndTime cursor segmentEnd)
      (window :: ·) <$> splitAcrossDays? fuel segmentEnd finish
    else some []

/-- `to_timezone`, as long as the fuel of its loops lasts. -/
def toTimezone? (fuel : Nat) (offset : String → Int) (schedule : WeeklySchedule)
    (target : String) : Option WeeklySchedule :=
  if schedule.timezone = target then some schedule
  else do
    let shifted ← schedule.windows.mapM fun window =>
      splitAcrossDays? fuel (astimezone (offset schedule.timezone) (offset target) window.startMinute)
        (astimezone (offset schedule.timezone) (offset target) window.endMinute)
    WeeklySchedule.make? target shifted.flatten

/-- A step of the loop comes to the end, or to the end of a day, which is a day from the next one. By
induction on the fuel. -/
theorem splitAcrossDays?_eq : ∀ (fuel : Nat) (cursor finish : Int),
    finish ≤ cursor ∨ finish ≤ dayEnd cursor + (fuel - 1) * MINUTES_PER_DAY →
      splitAcrossDays? fuel cursor finish = some (splitAcrossDays cursor finish) := by
  intro fuel
  induction fuel with
  | zero =>
    intro cursor finish h
    have hday : dayEnd cursor ≤ cursor + MINUTES_PER_DAY := by
      unfold dayEnd MINUTES_PER_DAY
      omega
    have hend : ¬ cursor < finish := by omega
    rw [splitAcrossDays?, if_neg hend, splitAcrossDays, dif_neg hend]
  | succ fuel ih =>
    intro cursor finish h
    rw [splitAcrossDays?, splitAcrossDays]
    split_ifs with hlt
    · have hwindow : TimeWindow.make? (weekdayOf cursor) (clockOf cursor)
          (segmentEndTime cursor (min finish (dayEnd cursor))) =
          some (segment cursor (min finish (dayEnd cursor)) (lt_min hlt (lt_dayEnd cursor))
            (min_le_right _ _)) :=
        dif_pos (segment cursor _ (lt_min hlt (lt_dayEnd cursor)) (min_le_right _ _)).order
      have hrest : finish ≤ min finish (dayEnd cursor) ∨
          finish ≤ dayEnd (min finish (dayEnd cursor)) + (fuel - 1) * MINUTES_PER_DAY := by
        rcases le_total finish (dayEnd cursor) with hle | hle
        · exact .inl (le_min le_rfl hle)
        · have hnext : dayEnd (dayEnd cursor) = dayEnd cursor + MINUTES_PER_DAY := by
            unfold dayEnd MINUTES_PER_DAY
            omega
          rw [min_eq_right hle, hnext, Int.sub_mul, Int.one_mul]
          push_cast at h
          rw [Int.sub_mul, Int.add_mul, Int.one_mul] at h
          omega
      simp only [hwindow, Option.bind_eq_bind, Option.bind_some, ih _ _ hrest]
      rfl
    · rfl

/-- **The loops end**: a window lies in two days at most, wherever it is shifted to. -/
theorem toTimezone?_eq {fuel : Nat} (h : 2 ≤ fuel) (offset : String → Int)
    (schedule : WeeklySchedule) (target : String) :
    toTimezone? fuel offset schedule target = some (toTimezone offset schedule target) := by
  have hsplit : (schedule.windows.mapM fun window => splitAcrossDays? fuel
      (astimezone (offset schedule.timezone) (offset target) window.startMinute)
      (astimezone (offset schedule.timezone) (offset target) window.endMinute)) =
      some (schedule.windows.map fun window => splitAcrossDays
        (astimezone (offset schedule.timezone) (offset target) window.startMinute)
        (astimezone (offset schedule.timezone) (offset target) window.endMinute)) := by
    refine mapM_eq_some fun w _ => splitAcrossDays?_eq _ _ _ ?_
    have hlength : (w.endMinute : Int) ≤ w.startMinute + MINUTES_PER_DAY := by
      have hend := w.endMinute_le
      have hstart : w.dayStart ≤ w.startMinute := dayStart_le
      omega
    have hday := lt_dayEnd (astimezone (offset schedule.timezone) (offset target) w.startMinute)
    have hfuel : (1 : Int) * MINUTES_PER_DAY ≤ (fuel - 1) * MINUTES_PER_DAY := by
      unfold MINUTES_PER_DAY
      omega
    right
    unfold astimezone at *
    omega
  unfold toTimezone? toTimezone
  split_ifs with hzone
  · rfl
  · rw [hsplit]
    exact WeeklySchedule.make?_eq _ _

end NxTutors.Scheduling
