import NxTutors.Scheduling.Windows
import Mathlib.Order.Defs.LinearOrder

/-!
# Weekly schedules

The windows of a schedule are sorted, and those of one weekday that overlap or touch are joined.
Joining neither adds nor loses a minute, what comes out has nothing left to join, and joining it
again changes nothing. The windows of a schedule are always of that form, which the structure says.
-/

namespace NxTutors.Scheduling

open TimeWindow

/-- The order of the windows: by the start, then by the end. -/
def Before (a b : TimeWindow) : Prop :=
  a.startMinute < b.startMinute ∨ (a.startMinute = b.startMinute ∧ a.endMinute ≤ b.endMinute)

instance : DecidableRel Before := fun _ _ => inferInstanceAs (Decidable (_ ∨ _))

instance : Std.Total Before where
  total a b := by
    unfold Before
    omega

instance : IsTrans TimeWindow Before where
  trans a b c := by
    unfold Before
    omega

theorem Before.start_le {a b : TimeWindow} (h : Before a b) : a.startMinute ≤ b.startMinute := by
  unfold Before at h
  omega

/-- The second is to be joined to the first. Touching counts. -/
def Joins (last window : TimeWindow) : Prop :=
  window.weekday = last.weekday ∧ window.startMinute ≤ last.endMinute

instance : DecidableRel Joins := fun _ _ => inferInstanceAs (Decidable (_ ∧ _))

/-- What is between the start of one window and the end of another of its day is one day's. -/
theorem Joins.oneDay {last window : TimeWindow} (h : Joins last window)
    (hend : last.endMinute < window.endMinute) :
    OneDay last.startMinute window.endMinute := by
  have hlast : last.startMinute < last.endMinute := last.startMinute_lt_endMinute
  have hweek := last.endMinute_le_week
  have hday : window.dayStart = last.dayStart := by rw [dayStart, dayStart, h.1]
  have hle := window.endMinute_le
  have hdiv := last.startMinute_div
  refine ⟨by omega, by omega, ?_⟩
  rw [hday] at hle
  unfold dayStart MINUTES_PER_DAY at *
  omega

/-- The loop of `_merge`, where `last` is the end of the list so far. -/
def mergeFrom (last : TimeWindow) : List TimeWindow → List TimeWindow
  | [] => [last]
  | window :: rest =>
    if h : Joins last window then
      if hend : last.endMinute < window.endMinute then
        mergeFrom (windowFromMinutes last.startMinute window.endMinute (h.oneDay hend)) rest
      else mergeFrom last rest
    else last :: mergeFrom window rest

/-- `_merge`. -/
def merge (windows : List TimeWindow) : List TimeWindow :=
  match windows.insertionSort Before with
  | [] => []
  | first :: rest => mergeFrom first rest

/-- Some window of a list has the minute. -/
def Covers (windows : List TimeWindow) (m : Nat) : Prop := ∃ w ∈ windows, w.Has m

@[simp]
theorem covers_nil {m : Nat} : ¬ Covers [] m := fun ⟨_, h, _⟩ => List.not_mem_nil h

@[simp]
theorem covers_cons {w : TimeWindow} {ws : List TimeWindow} {m : Nat} :
    Covers (w :: ws) m ↔ w.Has m ∨ Covers ws m := by
  simp [Covers]

theorem covers_congr {ws vs : List TimeWindow} (h : ∀ w, w ∈ ws ↔ w ∈ vs) {m : Nat} :
    Covers ws m ↔ Covers vs m :=
  exists_congr fun w => and_congr_left fun _ => h w

/-! ## No minute is added or lost -/

/-- What is joined covers what the two covered. -/
theorem Joins.has {last window : TimeWindow} (h : Joins last window)
    (hle : last.startMinute ≤ window.startMinute) (hend : last.endMinute < window.endMinute)
    {m : Nat} :
    (windowFromMinutes last.startMinute window.endMinute (h.oneDay hend)).Has m ↔
      last.Has m ∨ window.Has m := by
  have htouch := h.2
  rw [Has, startMinute_windowFromMinutes, endMinute_windowFromMinutes]
  unfold Has
  omega

/-- By the recursion of the loop; the start of the last window only ever stays. -/
theorem covers_mergeFrom {m : Nat} : ∀ {rest : List TimeWindow} {last : TimeWindow},
    (∀ w ∈ rest, last.startMinute ≤ w.startMinute) → rest.Pairwise Before →
    (Covers (mergeFrom last rest) m ↔ last.Has m ∨ Covers rest m) := by
  intro rest
  induction rest with
  | nil =>
    intro last _ _
    rw [mergeFrom, covers_cons]
  | cons window rest ih =>
    intro last hle hsorted
    obtain ⟨hwindow, hrest⟩ := List.pairwise_cons.mp hsorted
    have hfirst : last.startMinute ≤ window.startMinute := hle window List.mem_cons_self
    have hlater : ∀ w ∈ rest, last.startMinute ≤ w.startMinute := fun w hw =>
      hle w (List.mem_cons_of_mem _ hw)
    rw [mergeFrom, covers_cons]
    split_ifs with h hend
    · rw [ih (fun w hw => by rw [startMinute_windowFromMinutes]; exact hlater w hw) hrest,
        h.has hfirst hend, or_assoc]
    · rw [ih hlater hrest]
      have hsub : window.Has m → last.Has m := by
        unfold Has
        omega
      exact ⟨Or.imp_right .inr, fun h => h.elim .inl fun h => h.imp_left hsub⟩
    · rw [covers_cons, ih (fun w hw => (hwindow w hw).start_le) hrest]

/-- **Joining neither adds nor loses a minute.** -/
theorem covers_merge {windows : List TimeWindow} {m : Nat} :
    Covers (merge windows) m ↔ Covers windows m := by
  have hsorted := List.pairwise_insertionSort Before windows
  have hsame : Covers windows m ↔ Covers (windows.insertionSort Before) m :=
    covers_congr fun _ => (List.mem_insertionSort Before).symm
  rw [hsame]
  unfold merge
  cases hsort : windows.insertionSort Before with
  | nil => rfl
  | cons first rest =>
    rw [hsort, List.pairwise_cons] at hsorted
    rw [covers_mergeFrom (fun w hw => (hsorted.1 w hw).start_le) hsorted.2, covers_cons]

/-- By the recursion of the loop: what is joined is made of whole minutes. -/
theorem wholeMinutes_mergeFrom : ∀ {rest : List TimeWindow} {last : TimeWindow},
    last.WholeMinutes → (∀ w ∈ rest, w.WholeMinutes) → ∀ w ∈ mergeFrom last rest, w.WholeMinutes := by
  intro rest
  induction rest with
  | nil =>
    intro last hlast _ w hw
    rw [mergeFrom, List.mem_singleton] at hw
    exact hw ▸ hlast
  | cons window rest ih =>
    intro last hlast hall
    obtain ⟨hwindow, hrest⟩ := List.forall_mem_cons.mp hall
    rw [mergeFrom]
    split_ifs with h hend
    · exact ih (wholeMinutes_windowFromMinutes _) hrest
    · exact ih hlast hrest
    · exact List.forall_mem_cons.mpr ⟨hlast, ih hwindow hrest⟩

/-- Windows of whole minutes are joined to windows of whole minutes. -/
theorem wholeMinutes_merge {windows : List TimeWindow} (h : ∀ w ∈ windows, w.WholeMinutes) :
    ∀ w ∈ merge windows, w.WholeMinutes := by
  have hsorted : ∀ w ∈ windows.insertionSort Before, w.WholeMinutes := fun w hw =>
    h w ((List.mem_insertionSort Before).mp hw)
  unfold merge
  cases hsort : windows.insertionSort Before with
  | nil => exact nofun
  | cons first rest =>
    rw [hsort] at hsorted
    obtain ⟨hfirst, hrest⟩ := List.forall_mem_cons.mp hsorted
    exact wholeMinutes_mergeFrom hfirst hrest

/-! ## Nothing is left to join -/

/-- The second comes after the first and is not to be joined to it. -/
def Apart (a b : TimeWindow) : Prop :=
  a.endMinute < b.startMinute ∨ (a.weekday < b.weekday ∧ a.endMinute ≤ b.startMinute)

instance : DecidableRel Apart := fun _ _ => inferInstanceAs (Decidable (_ ∨ _))

theorem Apart.end_le {a b : TimeWindow} (h : Apart a b) : a.endMinute ≤ b.startMinute := by
  unfold Apart at h
  omega

theorem Apart.start_lt {a b : TimeWindow} (h : Apart a b) : a.startMinute < b.startMinute :=
  lt_of_lt_of_le a.startMinute_lt_endMinute h.end_le

instance : IsTrans TimeWindow Apart where
  trans a b c hab hbc := by
    have hb : b.startMinute < b.endMinute := b.startMinute_lt_endMinute
    have h1 := hab.end_le
    have h2 := hbc.end_le
    exact .inl (by omega)

/-- The windows are in order and nothing is to be joined. -/
def Normal (windows : List TimeWindow) : Prop := windows.Pairwise Apart

/-- Of two windows in order, the second is joined or apart. -/
theorem apart_of_not_joins {a b : TimeWindow} (hle : a.startMinute ≤ b.startMinute)
    (h : ¬ Joins a b) : Apart a b := by
  rcases lt_trichotomy a.weekday b.weekday with hlt | heq | hgt
  · refine .inr ⟨hlt, ?_⟩
    have ha := a.endMinute_le
    have hb : b.dayStart ≤ b.startMinute := dayStart_le
    have hday : (a.weekday : Nat) < b.weekday := hlt
    unfold dayStart MINUTES_PER_DAY at *
    omega
  · refine .inl ?_
    unfold Joins at h
    rw [not_and] at h
    have hnot := h heq.symm
    omega
  · exfalso
    have ha := a.startMinute_div
    have hb := b.startMinute_div
    have hday : (b.weekday : Nat) < a.weekday := hgt
    unfold MINUTES_PER_DAY at *
    omega

theorem Apart.not_joins {a b : TimeWindow} (h : Apart a b) : ¬ Joins a b := by
  rintro ⟨hday, hstart⟩
  rcases h with hlt | ⟨hlt, -⟩
  · omega
  · exact absurd hday hlt.ne'

/-- What the loop returns starts with what it was given, as far as the start goes. -/
theorem head_mergeFrom : ∀ {rest : List TimeWindow} {last : TimeWindow},
    ∃ first tail, mergeFrom last rest = first :: tail ∧
      first.startMinute = last.startMinute ∧ first.weekday = last.weekday := by
  intro rest
  induction rest with
  | nil => exact fun {last} => ⟨last, [], rfl, rfl, rfl⟩
  | cons window rest ih =>
    intro last
    rw [mergeFrom]
    split_ifs with h hend
    · obtain ⟨first, tail, heq, hstart, hday⟩ :=
        @ih (windowFromMinutes last.startMinute window.endMinute (h.oneDay hend))
      refine ⟨first, tail, heq, by rw [hstart, startMinute_windowFromMinutes], ?_⟩
      rw [hday]
      exact Fin.ext (by rw [weekday_windowFromMinutes, startMinute_div])
    · exact ih
    · exact ⟨last, _, rfl, rfl, rfl⟩

theorem normal_mergeFrom : ∀ {rest : List TimeWindow} {last : TimeWindow},
    (∀ w ∈ rest, last.startMinute ≤ w.startMinute) → rest.Pairwise Before →
    Normal (mergeFrom last rest) := by
  intro rest
  induction rest with
  | nil => exact fun _ _ => List.pairwise_singleton _ _
  | cons window rest ih =>
    intro last hle hsorted
    obtain ⟨hwindow, hrest⟩ := List.pairwise_cons.mp hsorted
    have hfirst : last.startMinute ≤ window.startMinute := hle window List.mem_cons_self
    have hlater : ∀ w ∈ rest, last.startMinute ≤ w.startMinute := fun w hw =>
      hle w (List.mem_cons_of_mem _ hw)
    rw [mergeFrom]
    split_ifs with h hend
    · exact ih (fun w hw => by rw [startMinute_windowFromMinutes]; exact hlater w hw) hrest
    · exact ih hlater hrest
    · have hnormal := ih (fun w hw => (hwindow w hw).start_le) hrest
      obtain ⟨first, tail, heq, hstart, hday⟩ := @head_mergeFrom rest window
      rw [heq] at hnormal ⊢
      have happart : Apart last first := by
        have := apart_of_not_joins hfirst h
        unfold Apart at this ⊢
        rw [hstart, hday]
        exact this
      refine List.pairwise_cons.mpr ⟨fun w hw => ?_, hnormal⟩
      rcases List.mem_cons.mp hw with rfl | hw
      · exact happart
      · exact IsTrans.trans _ _ _ happart (List.rel_of_pairwise_cons hnormal hw)

/-- **Nothing is left to join.** -/
theorem normal_merge (windows : List TimeWindow) : Normal (merge windows) := by
  have hsorted := List.pairwise_insertionSort Before windows
  unfold merge
  cases hsort : windows.insertionSort Before with
  | nil => exact List.Pairwise.nil
  | cons first rest =>
    rw [hsort, List.pairwise_cons] at hsorted
    exact normal_mergeFrom (fun w hw => (hsorted.1 w hw).start_le) hsorted.2

/-! ## Joining once is enough -/

theorem mergeFrom_eq_self : ∀ {rest : List TimeWindow} {last : TimeWindow},
    Normal (last :: rest) → mergeFrom last rest = last :: rest := by
  intro rest
  induction rest with
  | nil => exact fun _ => rfl
  | cons window rest ih =>
    intro last h
    obtain ⟨hlast, hrest⟩ := List.pairwise_cons.mp h
    rw [mergeFrom, dif_neg (hlast window List.mem_cons_self).not_joins, ih hrest]

theorem Normal.sorted {windows : List TimeWindow} (h : Normal windows) : windows.Pairwise Before :=
  h.imp fun h => .inl h.start_lt

/-- **A list with nothing to join stays as it is.** -/
theorem merge_eq_self {windows : List TimeWindow} (h : Normal windows) : merge windows = windows := by
  unfold merge
  rw [h.sorted.insertionSort_eq]
  cases windows with
  | nil => rfl
  | cons first rest => exact mergeFrom_eq_self h

/-- Of two windows of the list, one is before the other or they are one. -/
theorem Normal.eq_or_apart {windows : List TimeWindow} (h : Normal windows) {v w : TimeWindow}
    (hv : v ∈ windows) (hw : w ∈ windows) : v = w ∨ Apart v w ∨ Apart w v := by
  induction windows with
  | nil => cases hv
  | cons first rest ih =>
    obtain ⟨hfirst, hrest⟩ := List.pairwise_cons.mp h
    rcases List.mem_cons.mp hv with rfl | hv' <;> rcases List.mem_cons.mp hw with rfl | hw'
    · exact .inl rfl
    · exact .inr (.inl (hfirst w hw'))
    · exact .inr (.inr (hfirst v hv'))
    · exact ih hrest hv' hw'

/-- Two windows of the list that start together are one. -/
theorem Normal.eq_of_startMinute {windows : List TimeWindow} (h : Normal windows)
    {v w : TimeWindow} (hv : v ∈ windows) (hw : w ∈ windows)
    (heq : v.startMinute = w.startMinute) : v = w := by
  rcases h.eq_or_apart hv hw with hsame | hlt | hlt
  · exact hsame
  · exact absurd heq hlt.start_lt.ne
  · exact absurd heq hlt.start_lt.ne'

/-- And in whatever order its windows are given. -/
theorem merge_eq_of_perm {windows given : List TimeWindow} (h : Normal windows)
    (hperm : given.Perm windows) : merge given = windows := by
  have hsort : given.insertionSort Before = windows := by
    refine List.Perm.eq_of_pairwise ?_ (List.pairwise_insertionSort Before given) h.sorted
      ((List.perm_insertionSort Before given).trans hperm)
    intro v w hv hw hvw hwv
    have hmem : v ∈ windows := hperm.mem_iff.mp ((List.mem_insertionSort Before).mp hv)
    exact h.eq_of_startMinute hmem hw (le_antisymm hvw.start_le hwv.start_le)
  rw [merge, hsort]
  cases windows with
  | nil => rfl
  | cons first rest => exact mergeFrom_eq_self h

/-! ## Schedules -/

/-- A set of windows in one timezone, with nothing left to join. -/
structure WeeklySchedule where
  timezone : String := "Asia/Kolkata"
  windows : List TimeWindow := []
  normal : Normal windows := by exact List.Pairwise.nil

namespace WeeklySchedule

/-- A schedule out of any windows. -/
def make (timezone : String) (windows : List TimeWindow) : WeeklySchedule :=
  ⟨timezone, merge windows, normal_merge windows⟩

/-- `bool(schedule)`. -/
def truthy (s : WeeklySchedule) : Bool := s.windows ≠ []

/-- What two schedules of one timezone share. -/
def intersection (a b : WeeklySchedule) : WeeklySchedule :=
  make a.timezone (a.windows.flatMap fun v => b.windows.filterMap v.intersect)

theorem covers_make {timezone : String} {windows : List TimeWindow} {m : Nat} :
    Covers (make timezone windows).windows m ↔ Covers windows m :=
  covers_merge

/-- **A minute is in the intersection exactly when both schedules have it.** -/
theorem covers_intersection {a b : WeeklySchedule} {m : Nat} :
    Covers (a.intersection b).windows m ↔ Covers a.windows m ∧ Covers b.windows m := by
  rw [intersection, covers_make]
  constructor
  · rintro ⟨w, hw, hm⟩
    obtain ⟨v, hv, u, hu, hinter⟩ : ∃ v ∈ a.windows, ∃ u ∈ b.windows, v.intersect u = some w := by
      simpa [List.mem_flatMap, List.mem_filterMap] using hw
    obtain ⟨hvm, hum⟩ := ((of_intersect hinter).2 m).mp hm
    exact ⟨⟨v, hv, hvm⟩, u, hu, hum⟩
  · rintro ⟨⟨v, hv, hvm⟩, u, hu, hum⟩
    obtain ⟨w, hinter, hm⟩ := exists_intersect hvm hum
    exact ⟨w, List.mem_flatMap.mpr ⟨v, hv, List.mem_filterMap.mpr ⟨u, hu, hinter⟩⟩, hm⟩

/-- What is shared is of whole minutes, whatever the two schedules are. -/
theorem wholeMinutes_intersection {a b : WeeklySchedule} :
    ∀ w ∈ (a.intersection b).windows, w.WholeMinutes := by
  refine wholeMinutes_merge fun w hw => ?_
  obtain ⟨v, -, hw⟩ := List.mem_flatMap.mp hw
  obtain ⟨u, -, hinter⟩ := List.mem_filterMap.mp hw
  exact (of_intersect hinter).1

end WeeklySchedule

end NxTutors.Scheduling
