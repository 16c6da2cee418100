import Mathlib.Algebra.Order.Group.Unbundled.Int
import Mathlib.Tactic.IntervalCases

/-!
# The calendar

Dates of the years 1 to 9999, as the calendar is reckoned today, and their numbers: how many days
they lie behind the first of January 1970. A date of one year is one of the next year as well, but
for the last year and for the 29th of February (`isDate_succ_iff`).
-/

namespace Numbers

def isLeap (year : ℕ) : Bool := year % 4 = 0 && (year % 100 ≠ 0 || year % 400 = 0)

/-- How many days a month has. -/
def daysInMonth (year month : ℕ) : ℕ :=
  if month = 2 then if isLeap year then 29 else 28
  else if month = 4 ∨ month = 6 ∨ month = 9 ∨ month = 11 then 30
  else 31

/-- How many days of the year there are before a month. -/
def daysBeforeMonth (year month : ℕ) : ℕ :=
  ((List.range (month - 1)).map fun m => daysInMonth year (m + 1)).sum

/-- The number of the first of January. -/
def daysBeforeYear (year : ℕ) : ℤ :=
  365 * (year - 1) + (year - 1) / 4 - (year - 1) / 100 + (year - 1) / 400 - 719162

def MIN_YEAR : ℕ := 1

def MAX_YEAR : ℕ := 9999

/-- There is such a date. -/
def IsDate (year month day : ℕ) : Prop :=
  (MIN_YEAR ≤ year ∧ year ≤ MAX_YEAR) ∧ (1 ≤ month ∧ month ≤ 12) ∧
    1 ≤ day ∧ day ≤ daysInMonth year month

instance (year month day : ℕ) : Decidable (IsDate year month day) :=
  inferInstanceAs (Decidable (_ ∧ _))

/-- The number of a date, if there is such a date. -/
def dayNumber (year month day : ℕ) : Option ℤ :=
  if IsDate year month day then
    some (daysBeforeYear year + daysBeforeMonth year month + day - 1)
  else none

/-- The numbers of the first date and of the last. -/
def MIN_DAY : ℤ := -719162

def MAX_DAY : ℤ := 2932896

example : dayNumber 1970 1 1 = some 0 ∧ dayNumber 1 1 1 = some MIN_DAY ∧
    dayNumber 9999 12 31 = some MAX_DAY ∧ dayNumber 2026 2 29 = none := by decide

variable {year month day : ℕ} {n : ℤ}

theorem isSome_dayNumber : (dayNumber year month day).isSome = true ↔ IsDate year month day := by
  unfold dayNumber
  split <;> simp [*]

/-- After a leap year there is none. -/
theorem isLeap_succ (h : isLeap year = true) : isLeap (year + 1) = false := by
  simp only [isLeap, Bool.and_eq_true, decide_eq_true_eq, Bool.and_eq_false_iff,
    decide_eq_false_iff_not] at h ⊢
  omega

/-- **A date comes again next year**, unless it is a leap day or no year follows. -/
theorem isDate_succ_iff (h : IsDate year month day) :
    IsDate (year + 1) month day ↔ year < MAX_YEAR ∧ ¬(month = 2 ∧ day = 29) := by
  obtain ⟨⟨hfirst, hlast⟩, hmonth, hone, hday⟩ := h
  have hmost : IsDate (year + 1) month day ↔ year < MAX_YEAR ∧ day ≤ daysInMonth (year + 1) month :=
    ⟨fun ⟨hyear, _, _, hday⟩ => ⟨hyear.2, hday⟩,
      fun ⟨hyear, hday⟩ => ⟨⟨Nat.le_succ_of_le hfirst, hyear⟩, hmonth, hone, hday⟩⟩
  rw [hmost]
  refine and_congr_right fun _ => ?_
  unfold daysInMonth at hday ⊢
  by_cases hfebruary : month = 2
  · simp only [hfebruary, if_true, true_and] at hday ⊢
    cases hleap : isLeap year with
    | true =>
      rw [hleap, if_pos rfl] at hday
      rw [isLeap_succ hleap, if_neg Bool.false_ne_true]
      omega
    | false =>
      rw [hleap, if_neg Bool.false_ne_true] at hday
      split <;> omega
  · simp only [hfebruary, if_false, false_and, not_false_eq_true, iff_true] at hday ⊢
    exact hday

/-- A month has at most 31 days, and there are not more days before it than there can be. -/
theorem daysBeforeMonth_add_le (hmonth : 1 ≤ month ∧ month ≤ 12) (hday : day ≤ daysInMonth year month) :
    daysBeforeMonth year month + day ≤ if isLeap year then 366 else 365 := by
  obtain ⟨hlow, hhigh⟩ := hmonth
  cases hleap : isLeap year <;>
    interval_cases month <;>
    simp [daysBeforeMonth, daysInMonth, List.range_succ, hleap] at hday ⊢ <;> omega

/-- **The numbers of dates** lie between those of the first and of the last. -/
theorem dayNumber_bounds (h : dayNumber year month day = some n) : MIN_DAY ≤ n ∧ n ≤ MAX_DAY := by
  unfold dayNumber at h
  split at h
  · rename_i hdate
    obtain ⟨⟨hfirst, hlast⟩, hmonth, hone, hday⟩ := hdate
    have hmost := daysBeforeMonth_add_le hmonth hday
    rw [MIN_YEAR] at hfirst
    rw [MAX_YEAR] at hlast
    obtain rfl := Option.some.inj h
    rw [daysBeforeYear, MIN_DAY, MAX_DAY]
    by_cases hend : year = 9999
    · subst hend
      have hleap : isLeap 9999 = false := by decide
      rw [hleap, if_neg Bool.false_ne_true] at hmost
      omega
    · split at hmost <;> omega
  · cases h

end Numbers
