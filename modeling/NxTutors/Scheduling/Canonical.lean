import NxTutors.Scheduling.Raising
import Mathlib.Algebra.BigOperators.Ring.Finset
import Mathlib.Order.Interval.Finset.Nat

/-!
# Canonical schedules

A schedule of whole minutes is told by the minutes it covers, `eq_of_covers`: whatever list of
windows it was made from, the windows it keeps are sorted, apart, and the only ones that are so and
cover the same minutes, `canonical_form`. The minutes can also be counted, one by one, and because
no two windows of a schedule share one, the counts are what the sums over the windows say. That
makes the overlap of two schedules an intersection of sets, `overlap_is_intersection`. Seconds are
the exception: they are kept in a schedule and lost in an intersection.
-/

namespace NxTutors.Scheduling

open TimeWindow

/-! ## A schedule is its minutes -/

/-- The first window has the first minute. -/
theorem Normal.startMinute_le {first : TimeWindow} {rest : List TimeWindow} {m : Nat}
    (h : Normal (first :: rest)) (hm : Covers (first :: rest) m) : first.startMinute ≤ m := by
  obtain ⟨hfirst, -⟩ := List.pairwise_cons.mp h
  obtain ⟨w, hw, hlow, -⟩ := hm
  rcases List.mem_cons.mp hw with rfl | hw
  · exact hlow
  · exact (hfirst w hw).start_lt.le.trans hlow

/-- A minute of the rest is behind the first window. -/
theorem Normal.endMinute_le {first : TimeWindow} {rest : List TimeWindow} {m : Nat}
    (h : Normal (first :: rest)) (hm : Covers rest m) : first.endMinute ≤ m := by
  obtain ⟨hfirst, -⟩ := List.pairwise_cons.mp h
  obtain ⟨w, hw, hlow, -⟩ := hm
  exact (hfirst w hw).end_le.trans hlow

/-- What comes behind a window of the same day begins later than it ends. -/
theorem Apart.lt_of_has {a b w : TimeWindow} (h : Apart a w) (hday : b.weekday = a.weekday)
    (hb : b.Has a.endMinute) : a.endMinute < w.startMinute := by
  rcases h with hlt | ⟨hlt, hle⟩
  · exact hlt
  · have hend := b.endMinute_le
    have hstart : w.dayStart ≤ w.startMinute := dayStart_le
    have hdays : (a.weekday : Nat) < w.weekday := hlt
    obtain ⟨-, hhigh⟩ := hb
    unfold dayStart MINUTES_PER_DAY at *
    rw [hday] at hend
    omega

/-- Two schedules that begin together and cover the same minutes: the first windows end together. -/
theorem Normal.first_end_le {a b : TimeWindow} {as bs : List TimeWindow}
    (ha : Normal (a :: as)) (hstart : b.startMinute = a.startMinute)
    (h : ∀ m, Covers (b :: bs) m → Covers (a :: as) m) : b.endMinute ≤ a.endMinute := by
  by_contra hlt
  have horder : a.startMinute < a.endMinute := a.startMinute_lt_endMinute
  have hday : b.weekday = a.weekday :=
    Fin.ext (by rw [← b.startMinute_div, ← a.startMinute_div, hstart])
  have hb : b.Has a.endMinute := ⟨by omega, by omega⟩
  obtain ⟨w, hw, hm⟩ := h _ ⟨b, List.mem_cons_self, hb⟩
  rcases List.mem_cons.mp hw with rfl | hw
  · exact absurd hm.2 (lt_irrefl _)
  · have hbehind := ((List.pairwise_cons.mp ha).1 w hw).lt_of_has hday hb
    exact absurd hm.1 (by omega)

/-- **A schedule of whole minutes is told by its minutes.** By induction on the windows. -/
theorem eq_of_covers : ∀ {v w : List TimeWindow}, Normal v → Normal w →
    (∀ x ∈ v, x.WholeMinutes) → (∀ x ∈ w, x.WholeMinutes) → (∀ m, Covers v m ↔ Covers w m) →
      v = w := by
  intro v
  induction v with
  | nil =>
    intro w _ _ _ _ h
    cases w with
    | nil => rfl
    | cons b bs =>
      exact absurd ((h b.startMinute).mpr ⟨b, List.mem_cons_self, le_rfl, startMinute_lt_endMinute⟩)
        covers_nil
  | cons a as ih =>
    intro w hv hw hva hwb h
    cases w with
    | nil =>
      exact absurd ((h a.startMinute).mp ⟨a, List.mem_cons_self, le_rfl, startMinute_lt_endMinute⟩)
        covers_nil
    | cons b bs =>
      obtain ⟨ha, has⟩ := List.forall_mem_cons.mp hva
      obtain ⟨hb, hbs⟩ := List.forall_mem_cons.mp hwb
      have hstart : a.startMinute = b.startMinute := by
        refine le_antisymm ?_ ?_
        · exact hv.startMinute_le
            ((h _).mpr ⟨b, List.mem_cons_self, le_rfl, startMinute_lt_endMinute⟩)
        · exact hw.startMinute_le
            ((h _).mp ⟨a, List.mem_cons_self, le_rfl, startMinute_lt_endMinute⟩)
      have hend : a.endMinute = b.endMinute :=
        le_antisymm (hw.first_end_le hstart fun m => (h m).mp)
          (hv.first_end_le hstart.symm fun m => (h m).mpr)
      obtain rfl : a = b := TimeWindow.eq_of_minutes ha hb hstart hend
      have hrest : ∀ m, Covers as m ↔ Covers bs m := by
        intro m
        constructor
        · intro hm
          have hbehind := hv.endMinute_le hm
          rcases covers_cons.mp ((h m).mp (covers_cons.mpr (.inr hm))) with hfirst | hfirst
          · exact absurd hfirst.2 (by omega)
          · exact hfirst
        · intro hm
          have hbehind := hw.endMinute_le hm
          rcases covers_cons.mp ((h m).mpr (covers_cons.mpr (.inr hm))) with hfirst | hfirst
          · exact absurd hfirst.2 (by omega)
          · exact hfirst
      rw [ih (List.pairwise_cons.mp hv).2 (List.pairwise_cons.mp hw).2 has hbs hrest]

/-- Two schedules of whole minutes in one timezone that cover the same minutes are one. -/
theorem WeeklySchedule.eq_of_covers {s t : WeeklySchedule} (hzone : s.timezone = t.timezone)
    (hs : ∀ x ∈ s.windows, x.WholeMinutes) (ht : ∀ x ∈ t.windows, x.WholeMinutes)
    (h : ∀ m, Covers s.windows m ↔ Covers t.windows m) : s = t := by
  obtain ⟨zone, windows, hnormal⟩ := s
  obtain ⟨zone', windows', hnormal'⟩ := t
  obtain rfl : zone = zone' := hzone
  obtain rfl : windows = windows' := Scheduling.eq_of_covers hnormal hnormal' hs ht h
  rfl

/-- What is sorted and apart, as a parent would say it. -/
theorem Normal.sorted_apart {windows : List TimeWindow} (h : Normal windows) :
    windows.Pairwise fun a b => a.startMinute < b.startMinute ∧ a.endMinute ≤ b.startMinute ∧
      (a.weekday = b.weekday → a.endMinute < b.startMinute) := by
  refine h.imp fun {a b} hapart => ⟨hapart.start_lt, hapart.end_le, fun hday => ?_⟩
  rcases hapart with hlt | ⟨hlt, -⟩
  · exact hlt
  · exact absurd hday hlt.ne

/-- **Schedules have one canonical form.** -/
theorem canonical_form (timezone : String) (windows : List TimeWindow)
    (hwhole : ∀ w ∈ windows, w.WholeMinutes) :
    ∃ s, WeeklySchedule.make? timezone windows = some s ∧ s.timezone = timezone ∧
      (s.windows.Pairwise fun a b => a.startMinute < b.startMinute ∧
        a.endMinute ≤ b.startMinute ∧ (a.weekday = b.weekday → a.endMinute < b.startMinute)) ∧
      (∀ m, Covers s.windows m ↔ Covers windows m) ∧
      (∀ others : List TimeWindow, (∀ w ∈ others, w.WholeMinutes) →
        ∀ s', WeeklySchedule.make? timezone others = some s' →
          (∀ m, Covers s'.windows m ↔ Covers s.windows m) → s'.windows = s.windows) ∧
      WeeklySchedule.make? timezone s.windows = some s := by
  refine ⟨.make timezone windows, WeeklySchedule.make?_eq _ _, rfl,
    (normal_merge windows).sorted_apart, fun m => covers_merge, ?_, ?_⟩
  · intro others hothers s' hs' hsame
    obtain rfl := Option.some.inj ((WeeklySchedule.make?_eq timezone others).symm.trans hs')
    exact eq_of_covers (normal_merge _) (normal_merge _) (wholeMinutes_merge hothers)
      (wholeMinutes_merge hwhole) hsame
  · have hagain : merge (merge windows) = merge windows := merge_eq_self (normal_merge windows)
    rw [WeeklySchedule.make?_eq]
    simp only [WeeklySchedule.make, hagain]

/-- Two that touch, and one within the other. -/
theorem canonical_mondays :
    ∃ s, WeeklySchedule.make? "UTC"
        [⟨0, ⟨18, 0, 0, 0⟩, ⟨20, 0, 0, 0⟩, by decide⟩, ⟨0, ⟨16, 0, 0, 0⟩, ⟨18, 0, 0, 0⟩, by decide⟩,
          ⟨0, ⟨17, 0, 0, 0⟩, ⟨19, 0, 0, 0⟩, by decide⟩] = some s ∧ s.timezone = "UTC" ∧
      (s.windows.Pairwise fun a b => a.startMinute < b.startMinute ∧
        a.endMinute ≤ b.startMinute ∧ (a.weekday = b.weekday → a.endMinute < b.startMinute)) ∧
      (∀ m, Covers s.windows m ↔ Covers
        [⟨0, ⟨18, 0, 0, 0⟩, ⟨20, 0, 0, 0⟩, by decide⟩, ⟨0, ⟨16, 0, 0, 0⟩, ⟨18, 0, 0, 0⟩, by decide⟩,
          ⟨0, ⟨17, 0, 0, 0⟩, ⟨19, 0, 0, 0⟩, by decide⟩] m) ∧
      (∀ others : List TimeWindow, (∀ w ∈ others, w.WholeMinutes) →
        ∀ s', WeeklySchedule.make? "UTC" others = some s' →
          (∀ m, Covers s'.windows m ↔ Covers s.windows m) → s'.windows = s.windows) ∧
      WeeklySchedule.make? "UTC" s.windows = some s :=
  canonical_form "UTC" _ (by
    intro w hw
    simp only [List.mem_cons, List.not_mem_nil, or_false] at hw
    rcases hw with rfl | rfl | rfl <;> exact ⟨⟨rfl, rfl⟩, rfl, rfl⟩)

/-! ## Counting the minutes -/

instance (windows : List TimeWindow) (m : Nat) : Decidable (Covers windows m) :=
  inferInstanceAs (Decidable (∃ w ∈ windows, w.Has m))

/-- The number of minutes of the week of which something holds. -/
def minutesWhere (p : Nat → Prop) [DecidablePred p] : Nat :=
  ((Finset.range MINUTES_PER_WEEK).filter p).card

/-- One for a minute that is in the window. -/
def inWindow (w : TimeWindow) (m : Nat) : Nat := if w.Has m then 1 else 0

/-- Minutes are counted one by one. -/
theorem minutesWhere_eq_sum (p : Nat → Prop) [DecidablePred p] :
    minutesWhere p = ∑ m ∈ Finset.range MINUTES_PER_WEEK, if p m then 1 else 0 :=
  Finset.card_filter _ _

/-- The minutes of a part of the week. -/
theorem minutesWhere_between {low high : Nat} (h : high ≤ MINUTES_PER_WEEK) :
    minutesWhere (fun m => low ≤ m ∧ m < high) = high - low := by
  have hfilter : (Finset.range MINUTES_PER_WEEK).filter (fun m => low ≤ m ∧ m < high) =
      Finset.Ico low high := by
    ext m
    rw [Finset.mem_filter, Finset.mem_range, Finset.mem_Ico]
    omega
  rw [minutesWhere, hfilter, Nat.card_Ico]

/-- **The duration is the number of minutes.** -/
theorem sum_inWindow (w : TimeWindow) :
    ∑ m ∈ Finset.range MINUTES_PER_WEEK, inWindow w m = w.durationMinutes := by
  rw [durationMinutes, ← minutesWhere_between w.endMinute_le_week, minutesWhere_eq_sum]
  rfl

/-- **The overlap is the number of minutes of both.** -/
theorem sum_inWindow_mul (v w : TimeWindow) :
    ∑ m ∈ Finset.range MINUTES_PER_WEEK, inWindow v m * inWindow w m = v.overlapMinutes w := by
  have hweek : min v.endMinute w.endMinute ≤ MINUTES_PER_WEEK :=
    (min_le_left _ _).trans v.endMinute_le_week
  rw [overlapMinutes, ← minutesWhere_between hweek, minutesWhere_eq_sum]
  refine Finset.sum_congr rfl fun m _ => ?_
  have hboth : max v.startMinute w.startMinute ≤ m ∧ m < min v.endMinute w.endMinute ↔
      v.Has m ∧ w.Has m := by
    unfold Has
    omega
  rw [inWindow, inWindow, ite_zero_mul_ite_zero, Nat.mul_one]
  exact (if_congr hboth rfl rfl).symm

/-- A sum over windows of sums over minutes, the other way round. -/
theorem sum_map_sum (ws : List TimeWindow) (f : TimeWindow → Nat → Nat) (minutes : Finset Nat) :
    (ws.map fun w => ∑ m ∈ minutes, f w m).sum = ∑ m ∈ minutes, (ws.map fun w => f w m).sum := by
  induction ws with
  | nil => simp
  | cons w ws ih => simp only [List.map_cons, List.sum_cons, ih, Finset.sum_add_distrib]

/-- **No minute is in two windows.** By induction on the windows. -/
theorem Normal.sum_inWindow : ∀ {windows : List TimeWindow}, Normal windows → ∀ m,
    (windows.map fun w => inWindow w m).sum = if Covers windows m then 1 else 0 := by
  intro windows
  induction windows with
  | nil => exact fun _ m => by simp
  | cons w ws ih =>
    intro h m
    rw [List.map_cons, List.sum_cons, ih (List.pairwise_cons.mp h).2 m]
    by_cases hrest : Covers ws m
    · have hnot : ¬ w.Has m := fun hm => absurd hm.2 (by
        have := h.endMinute_le hrest
        omega)
      rw [inWindow, if_neg hnot, if_pos hrest, if_pos (covers_cons.mpr (.inr hrest))]
    · rw [if_neg hrest, inWindow]
      simp only [covers_cons, hrest, or_false, Nat.add_zero]

namespace WeeklySchedule

/-- **The total is the number of minutes covered.** -/
theorem totalMinutes_eq (s : WeeklySchedule) : s.totalMinutes = minutesWhere (Covers s.windows) := by
  have hminutes : s.windows.map durationMinutes =
      s.windows.map fun w => ∑ m ∈ Finset.range MINUTES_PER_WEEK, inWindow w m :=
    List.map_congr_left fun w _ => (Scheduling.sum_inWindow w).symm
  rw [totalMinutes, hminutes, sum_map_sum, minutesWhere_eq_sum]
  exact Finset.sum_congr rfl fun m _ => s.normal.sum_inWindow m

/-- **The overlap is the number of minutes shared.** -/
theorem overlapMinutes?_eq {a b : WeeklySchedule} (h : a.timezone = b.timezone) :
    a.overlapMinutes? b =
      some (minutesWhere fun m => Covers a.windows m ∧ Covers b.windows m) := by
  have hrow (v : TimeWindow) : (b.windows.map v.overlapMinutes).sum =
      ∑ m ∈ Finset.range MINUTES_PER_WEEK, inWindow v m * if Covers b.windows m then 1 else 0 := by
    have hminutes : b.windows.map v.overlapMinutes = b.windows.map fun w =>
        ∑ m ∈ Finset.range MINUTES_PER_WEEK, inWindow v m * inWindow w m :=
      List.map_congr_left fun w _ => (sum_inWindow_mul v w).symm
    rw [hminutes, sum_map_sum]
    refine Finset.sum_congr rfl fun m _ => ?_
    rw [List.sum_map_mul_left, b.normal.sum_inWindow]
  rw [overlapMinutes?, if_neg (not_not_intro h)]
  simp only [hrow]
  rw [sum_map_sum, minutesWhere_eq_sum]
  refine congrArg some (Finset.sum_congr rfl fun m _ => ?_)
  rw [List.sum_map_mul_right, a.normal.sum_inWindow, ite_zero_mul_ite_zero, Nat.mul_one]

/-! ## Intersections -/

variable {a b c : WeeklySchedule}

theorem minutesWhere_congr {p q : Nat → Prop} [DecidablePred p] [DecidablePred q]
    (h : ∀ m, p m ↔ q m) : minutesWhere p = minutesWhere q :=
  congrArg Finset.card (Finset.filter_congr fun m _ => h m)

theorem intersection_comm (h : a.timezone = b.timezone) : a.intersection b = b.intersection a :=
  eq_of_covers h wholeMinutes_intersection wholeMinutes_intersection fun m => by
    rw [covers_intersection, covers_intersection, and_comm]

theorem intersection_assoc :
    (a.intersection b).intersection c = a.intersection (b.intersection c) :=
  eq_of_covers rfl wholeMinutes_intersection wholeMinutes_intersection fun m => by
    simp only [covers_intersection, and_assoc]

/-- **A schedule that is intersected with itself loses its seconds**, and nothing else. -/
theorem intersection_self_iff : a.intersection a = a ↔ ∀ w ∈ a.windows, w.WholeMinutes := by
  constructor
  · intro h
    exact h ▸ wholeMinutes_intersection
  · intro h
    exact eq_of_covers rfl wholeMinutes_intersection h fun m => by
      rw [covers_intersection, and_self]

end WeeklySchedule

/-- **Overlap is set intersection.** -/
theorem overlap_is_intersection (a b c : WeeklySchedule) (hab : a.timezone = b.timezone)
    (hbc : b.timezone = c.timezone) :
    (∃ ab, a.intersection? b = some ab ∧
      (∀ m, Covers ab.windows m ↔ Covers a.windows m ∧ Covers b.windows m) ∧
      a.overlapMinutes? b = some ab.totalMinutes ∧
      ab.totalMinutes = minutesWhere (fun m => Covers a.windows m ∧ Covers b.windows m) ∧
      b.intersection? a = some ab ∧ b.overlapMinutes? a = a.overlapMinutes? b ∧
      ∃ bc, b.intersection? c = some bc ∧ ab.intersection? c = a.intersection? bc) ∧
    ∃ aa, a.intersection? a = some aa ∧ (∀ m, Covers aa.windows m ↔ Covers a.windows m) ∧
      (aa = a ↔ ∀ w ∈ a.windows, w.WholeMinutes) := by
  have hminutes : (a.intersection b).totalMinutes =
      minutesWhere (fun m => Covers a.windows m ∧ Covers b.windows m) := by
    rw [WeeklySchedule.totalMinutes_eq]
    exact WeeklySchedule.minutesWhere_congr fun m => WeeklySchedule.covers_intersection
  have hcomm : b.overlapMinutes? a = a.overlapMinutes? b := by
    rw [WeeklySchedule.overlapMinutes?_eq hab, WeeklySchedule.overlapMinutes?_eq hab.symm]
    exact congrArg some (WeeklySchedule.minutesWhere_congr fun m => and_comm)
  refine ⟨⟨a.intersection b, WeeklySchedule.intersection?_eq hab,
    fun m => WeeklySchedule.covers_intersection, ?_, hminutes, ?_, hcomm,
    b.intersection c, WeeklySchedule.intersection?_eq hbc, ?_⟩,
    a.intersection a, WeeklySchedule.intersection?_eq rfl, fun m => ?_,
    WeeklySchedule.intersection_self_iff⟩
  · rw [WeeklySchedule.overlapMinutes?_eq hab, hminutes]
  · rw [WeeklySchedule.intersection?_eq hab.symm, WeeklySchedule.intersection_comm hab]
  · have hleft : (a.intersection b).timezone = c.timezone := hab.trans hbc
    have hright : a.timezone = (b.intersection c).timezone := hab
    rw [WeeklySchedule.intersection?_eq hleft, WeeklySchedule.intersection?_eq hright,
      WeeklySchedule.intersection_assoc]
  · rw [WeeklySchedule.covers_intersection, and_self]

/-- A schedule of one window, on a Monday. -/
def onMonday (start finish : ClockTime) (order : start.minutes < endOfDay finish) :
    WeeklySchedule where
  timezone := "UTC"
  windows := [⟨0, start, finish, order⟩]
  normal := List.pairwise_singleton _ _

def fourToSix : WeeklySchedule := onMonday ⟨16, 0, 0, 0⟩ ⟨18, 0, 0, 0⟩ (by decide)

def fiveToSeven : WeeklySchedule := onMonday ⟨17, 0, 0, 0⟩ ⟨19, 0, 0, 0⟩ (by decide)

/-- From half a minute past ten. -/
def pastTen : WeeklySchedule := onMonday ⟨10, 0, 30, 0⟩ ⟨11, 0, 0, 0⟩ (by decide)

/-- Two schedules share an hour. -/
theorem hour_shared :
    (∃ ab, fourToSix.intersection? fiveToSeven = some ab ∧
      (∀ m, Covers ab.windows m ↔ Covers fourToSix.windows m ∧ Covers fiveToSeven.windows m) ∧
      fourToSix.overlapMinutes? fiveToSeven = some ab.totalMinutes ∧
      ab.totalMinutes = minutesWhere
        (fun m => Covers fourToSix.windows m ∧ Covers fiveToSeven.windows m) ∧
      fiveToSeven.intersection? fourToSix = some ab ∧
      fiveToSeven.overlapMinutes? fourToSix = fourToSix.overlapMinutes? fiveToSeven ∧
      ∃ bc, fiveToSeven.intersection? pastTen = some bc ∧
        ab.intersection? pastTen = fourToSix.intersection? bc) ∧
    ∃ aa, fourToSix.intersection? fourToSix = some aa ∧
      (∀ m, Covers aa.windows m ↔ Covers fourToSix.windows m) ∧
      (aa = fourToSix ↔ ∀ w ∈ fourToSix.windows, w.WholeMinutes) :=
  overlap_is_intersection fourToSix fiveToSeven pastTen rfl rfl

/-- **The seconds are lost**: a schedule intersected with itself is another one. -/
theorem seconds_lost :
    ∃ s, pastTen.intersection? pastTen = some s ∧ s ≠ pastTen ∧
      s.windows = [⟨0, ⟨10, 0, 0, 0⟩, ⟨11, 0, 0, 0⟩, by decide⟩] := by
  refine ⟨pastTen.intersection pastTen, WeeklySchedule.intersection?_eq rfl, fun h => ?_, ?_⟩
  · have hwhole := WeeklySchedule.intersection_self_iff.mp h _ List.mem_cons_self
    exact absurd hwhole.1.1 (by decide)
  · decide

end NxTutors.Scheduling
