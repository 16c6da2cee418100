import NxTutors.Scheduling.Canonical

/-!
# There and back

A schedule that is expressed in another timezone has its minutes shifted around the week, by as much
as the two timezones differ. Shifting is a bijection of the week, so as many minutes are covered as
before; and what is shifted there and back covers the same minutes, which for whole minutes makes it
the same schedule.
-/

namespace NxTutors.Scheduling

open TimeWindow

/-! ## Shifting the week -/

/-- A shift and another one. -/
theorem weekMinute_add_weekMinute (m k : Int) :
    weekMinute (weekMinute m + k) = weekMinute (m + k) := by
  unfold weekMinute MINUTES_PER_WEEK MINUTES_PER_DAY
  omega

/-- A window covers minutes of the week only. -/
theorem Covers.lt_week {windows : List TimeWindow} {m : Nat} (h : Covers windows m) :
    m < MINUTES_PER_WEEK := by
  obtain ⟨w, -, -, hhigh⟩ := h
  have hweek := w.endMinute_le_week
  omega

/-- **Shifting the week is a bijection**, with the shift back. -/
theorem minutesWhere_shift (p : Nat → Prop) [DecidablePred p] (k : Int) :
    minutesWhere (fun m => p (weekMinute (m + k))) = minutesWhere p := by
  refine Finset.card_nbij' (fun m => weekMinute (m + k)) (fun m => weekMinute (m - k)) ?_ ?_ ?_ ?_
  · intro m hm
    obtain ⟨-, hp⟩ := Finset.mem_filter.mp hm
    exact Finset.mem_filter.mpr ⟨Finset.mem_range.mpr (weekMinute_lt _), hp⟩
  · intro m hm
    obtain ⟨hlt, hp⟩ := Finset.mem_filter.mp hm
    refine Finset.mem_filter.mpr ⟨Finset.mem_range.mpr (weekMinute_lt _), ?_⟩
    rw [weekMinute_add_weekMinute, Int.sub_add_cancel, weekMinute_natCast (Finset.mem_range.mp hlt)]
    exact hp
  · intro m hm
    obtain ⟨hlt, -⟩ := Finset.mem_filter.mp hm
    dsimp only
    rw [Int.sub_eq_add_neg, weekMinute_add_weekMinute, Int.add_neg_cancel_right,
      weekMinute_natCast (Finset.mem_range.mp hlt)]
  · intro m hm
    obtain ⟨hlt, -⟩ := Finset.mem_filter.mp hm
    dsimp only
    rw [weekMinute_add_weekMinute, Int.sub_add_cancel, weekMinute_natCast (Finset.mem_range.mp hlt)]

/-! ## Schedules -/

/-- The parts of days are of whole minutes. -/
theorem wholeMinutes_splitAcrossDays {cursor finish : Int} :
    ∀ w ∈ splitAcrossDays cursor finish, w.WholeMinutes := by
  fun_induction splitAcrossDays cursor finish with
  | case1 cursor h ih =>
    refine List.forall_mem_cons.mpr ⟨⟨⟨rfl, rfl⟩, ?_⟩, ih⟩
    unfold segment segmentEndTime
    dsimp only
    split_ifs <;> exact ⟨rfl, rfl⟩
  | case2 cursor h =>
    intro w hw
    cases hw

variable {offset : String → Int} {schedule : WeeklySchedule} {target : String}

theorem wholeMinutes_toTimezone (h : ∀ w ∈ schedule.windows, w.WholeMinutes) :
    ∀ w ∈ (toTimezone offset schedule target).windows, w.WholeMinutes := by
  unfold toTimezone
  split_ifs
  · exact h
  · refine wholeMinutes_merge fun w hw => ?_
    obtain ⟨v, -, hw⟩ := List.mem_flatMap.mp hw
    exact wholeMinutes_splitAcrossDays w hw

/-- **The minutes are shifted by the difference of the timezones.** -/
theorem covers_toTimezone (m : Int) :
    Covers (toTimezone offset schedule target).windows
        (weekMinute (m + (offset target - offset schedule.timezone))) ↔
      Covers schedule.windows (weekMinute m) := by
  have hfree := @freeAt_toTimezone offset schedule target (m - offset schedule.timezone)
  unfold WeeklySchedule.FreeAt at hfree
  rw [timezone_toTimezone, Int.sub_add_cancel] at hfree
  rw [← hfree]
  have hshift : m + (offset target - offset schedule.timezone) =
      m - offset schedule.timezone + offset target := by omega
  rw [hshift]

theorem totalMinutes_toTimezone :
    (toTimezone offset schedule target).totalMinutes = schedule.totalMinutes := by
  rw [WeeklySchedule.totalMinutes_eq, WeeklySchedule.totalMinutes_eq,
    ← minutesWhere_shift (Covers schedule.windows) (offset schedule.timezone - offset target)]
  refine congrArg Finset.card (Finset.filter_congr fun m hm => ?_)
  have hshift := @covers_toTimezone offset schedule target
    (m + (offset schedule.timezone - offset target))
  rw [← hshift]
  have hback : (m : Int) + (offset schedule.timezone - offset target) +
      (offset target - offset schedule.timezone) = m := by omega
  rw [hback, weekMinute_natCast (Finset.mem_range.mp hm)]

/-- **There and back.** -/
theorem toTimezone_back (h : ∀ w ∈ schedule.windows, w.WholeMinutes) :
    toTimezone offset (toTimezone offset schedule target) schedule.timezone = schedule := by
  refine WeeklySchedule.eq_of_covers timezone_toTimezone
    (wholeMinutes_toTimezone (wholeMinutes_toTimezone h)) h fun m => ?_
  by_cases hm : m < MINUTES_PER_WEEK
  · have hthere := @covers_toTimezone offset schedule target m
    have hback := @covers_toTimezone offset (toTimezone offset schedule target) schedule.timezone
      (m + (offset target - offset schedule.timezone))
    rw [timezone_toTimezone] at hback
    have hsame : (m : Int) + (offset target - offset schedule.timezone) +
        (offset schedule.timezone - offset target) = m := by omega
    rw [hsame, hthere, weekMinute_natCast hm] at hback
    exact hback
  · exact iff_of_false (fun h => hm h.lt_week) fun h => hm h.lt_week

/-- **Changing the timezone loses nothing.** -/
theorem zones_lose_nothing (offset : String → Int) (schedule : WeeklySchedule) (target : String)
    (h : ∀ w ∈ schedule.windows, w.WholeMinutes) :
    ∃ shifted, (∀ fuel ≥ 2, toTimezone? fuel offset schedule target = some shifted) ∧
      shifted.timezone = target ∧ shifted.totalMinutes = schedule.totalMinutes ∧
      (∀ m : Int, Covers shifted.windows
          (weekMinute (m + (offset target - offset schedule.timezone))) ↔
        Covers schedule.windows (weekMinute m)) ∧
      ∀ fuel ≥ 2, toTimezone? fuel offset shifted schedule.timezone = some schedule := by
  refine ⟨toTimezone offset schedule target, fun fuel hfuel => toTimezone?_eq hfuel _ _ _,
    timezone_toTimezone, totalMinutes_toTimezone, covers_toTimezone, fun fuel hfuel => ?_⟩
  rw [toTimezone?_eq hfuel, toTimezone_back h]

/-- Five hours and a half ahead, a window of Sunday evening goes on in Monday. -/
def sundayEvening : WeeklySchedule where
  timezone := "UTC"
  windows := [⟨6, ⟨18, 0, 0, 0⟩, ⟨20, 0, 0, 0⟩, by decide⟩]
  normal := List.pairwise_singleton _ _

def indianOffset (timezone : String) : Int := if timezone = "Asia/Kolkata" then 330 else 0

theorem sunday_shifted :
    ∃ shifted, (∀ fuel ≥ 2, toTimezone? fuel indianOffset sundayEvening "Asia/Kolkata" =
        some shifted) ∧
      shifted.timezone = "Asia/Kolkata" ∧ shifted.totalMinutes = sundayEvening.totalMinutes ∧
      (∀ m : Int, Covers shifted.windows
          (weekMinute (m + (indianOffset "Asia/Kolkata" - indianOffset sundayEvening.timezone))) ↔
        Covers sundayEvening.windows (weekMinute m)) ∧
      ∀ fuel ≥ 2, toTimezone? fuel indianOffset shifted sundayEvening.timezone =
        some sundayEvening :=
  zones_lose_nothing indianOffset sundayEvening "Asia/Kolkata" (by
    intro w hw
    obtain rfl := List.mem_singleton.mp hw
    exact ⟨⟨rfl, rfl⟩, rfl, rfl⟩)

end NxTutors.Scheduling
