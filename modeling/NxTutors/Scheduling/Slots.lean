import NxTutors.Scheduling.Zones

/-!
# Suggested slots

What a parent is offered: for each day of the week that both are free long enough, the earliest
session that fits, and so many at most as sessions are wanted. The schedules are put into the
timezone of the requirement first.

To the minute this is right for all schedules. A schedule may also say seconds, which are not looked
at, and then a slot begins up to a minute before the tutor or the parent is free.
-/

namespace NxTutors.Scheduling

open TimeWindow

/-! ## The slots -/

/-- The end of a session that starts with the window. -/
def sessionEnd (window : TimeWindow) (sessionMinutes : Nat) : ClockTime :=
  .ofParts ((window.startMinute + sessionMinutes - window.dayStart) / 60 % 24)
    ((window.startMinute + sessionMinutes - window.dayStart) % 60)

/-- One round of the loop of `suggest_slots`. The dictionary is the list of its values, each of
which has its key as its weekday. -/
def addSlot (sessionMinutes : Nat) (byDay : List TimeWindow) (window : TimeWindow) :
    Option (List TimeWindow) :=
  if window.durationMinutes < sessionMinutes then some byDay
  else if ∃ slot ∈ byDay, slot.weekday = window.weekday then some byDay
  else do
    let slot ← TimeWindow.make? window.weekday window.start (sessionEnd window sessionMinutes)
    return byDay ++ [slot]

/-- Concrete session slots inside a mutually-free schedule. -/
def suggestSlots (overlap : WeeklySchedule) (sessionMinutes limit : Nat) :
    Option (List TimeWindow) := do
  let byDay ← (overlap.windows.insertionSort (·.startMinute ≤ ·.startMinute)).foldlM
    (addSlot sessionMinutes) []
  return (byDay.insertionSort (·.weekday ≤ ·.weekday)).take limit

def DEFAULT_SESSION_MINUTES : Nat := 60

def DEFAULT_SESSIONS_PER_WEEK : Nat := 2

/-- `value or default`. -/
def orDefault (value : Option Nat) (default : Nat) : Nat :=
  match value with
  | none => default
  | some 0 => default
  | some n => n

/-- Concrete slots to offer the parent. -/
def suggestedSlots (offset : String → Int) (availability preferredSchedule : Option WeeklySchedule)
    (timezone : String) (sessionMinutes sessionsPerWeek : Option Nat) :
    Option (List TimeWindow) :=
  match availability, preferredSchedule with
  | some tutor, some parent =>
    if tutor.truthy then
      suggestSlots
        ((toTimezone offset parent timezone).intersection (toTimezone offset tutor timezone))
        (orDefault sessionMinutes DEFAULT_SESSION_MINUTES)
        (orDefault sessionsPerWeek DEFAULT_SESSIONS_PER_WEEK)
    else some []
  | _, _ => some []

/-! ## One slot -/

/-- The slot is the session that the window starts with. -/
structure Starts (sessionMinutes : Nat) (window slot : TimeWindow) : Prop where
  weekday : slot.weekday = window.weekday
  begins : slot.start = window.start
  whole : slot.finish.WholeMinute
  finish : slot.endMinute = window.startMinute + sessionMinutes
  fits : slot.endMinute ≤ window.endMinute

theorem Starts.start {sessionMinutes : Nat} {window slot : TimeWindow}
    (h : Starts sessionMinutes window slot) : slot.startMinute = window.startMinute := by
  rw [startMinute, startMinute, h.weekday, h.begins]

/-- A session that fits is a window. -/
theorem exists_slot {sessionMinutes : Nat} {window : TimeWindow} (hpos : 0 < sessionMinutes)
    (hfits : sessionMinutes ≤ window.durationMinutes) :
    ∃ slot, TimeWindow.make? window.weekday window.start (sessionEnd window sessionMinutes)
      = some slot ∧ Starts sessionMinutes window slot := by
  have hday := window.endMinute_le
  have hle : window.dayStart ≤ window.startMinute := dayStart_le
  have hminutes : window.start.minutes = window.startMinute - window.dayStart := by
    unfold startMinute dayStart
    omega
  have hend : endOfDay (sessionEnd window sessionMinutes)
      = window.startMinute + sessionMinutes - window.dayStart := by
    unfold durationMinutes at hfits
    unfold endOfDay sessionEnd MINUTES_PER_DAY at *
    rw [ClockTime.minutes_ofParts (by omega) (by omega)]
    split_ifs <;> omega
  have horder : window.start.minutes < endOfDay (sessionEnd window sessionMinutes) := by omega
  have hfinish : window.dayStart + endOfDay (sessionEnd window sessionMinutes)
      = window.startMinute + sessionMinutes := by
    rw [hend]
    omega
  refine ⟨⟨_, _, _, horder⟩, dif_pos horder, rfl, rfl, ⟨rfl, rfl⟩, hfinish, hfinish.trans_le ?_⟩
  unfold durationMinutes at hfits
  omega

/-! ## The loop -/

/-- What the dictionary is, after some windows. -/
structure Chosen (sessionMinutes : Nat) (windows byDay : List TimeWindow) : Prop where
  /-- every slot starts a window, the first of its day that is long enough -/
  first : ∀ slot ∈ byDay, ∃ w ∈ windows, Starts sessionMinutes w slot ∧
    ∀ v ∈ windows, v.weekday = w.weekday → sessionMinutes ≤ v.durationMinutes →
      w.startMinute ≤ v.startMinute
  /-- every window that is long enough has a slot on its day -/
  all : ∀ w ∈ windows, sessionMinutes ≤ w.durationMinutes →
    ∃ slot ∈ byDay, slot.weekday = w.weekday
  apart : byDay.Pairwise (·.weekday ≠ ·.weekday)

theorem Chosen.nil {sessionMinutes : Nat} : Chosen sessionMinutes [] [] :=
  ⟨nofun, nofun, List.Pairwise.nil⟩

/-- A window after all of the others changes nothing about who was first. -/
theorem Chosen.keep {sessionMinutes : Nat} {windows byDay : List TimeWindow}
    (h : Chosen sessionMinutes windows byDay) {window : TimeWindow}
    (hlast : ∀ w ∈ windows, w.startMinute ≤ window.startMinute)
    (hslot : sessionMinutes ≤ window.durationMinutes →
      ∃ slot ∈ byDay, slot.weekday = window.weekday) :
    Chosen sessionMinutes (windows ++ [window]) byDay where
  first slot hslot := by
    obtain ⟨w, hw, hstarts, hfirst⟩ := h.first slot hslot
    refine ⟨w, List.mem_append_left _ hw, hstarts, fun v hv hday hlong => ?_⟩
    rcases List.mem_append.mp hv with hv | hv
    · exact hfirst v hv hday hlong
    · obtain rfl := List.mem_singleton.mp hv
      exact hlast w hw
  all w hw hlong := by
    rcases List.mem_append.mp hw with hw | hw
    · exact h.all w hw hlong
    · obtain rfl := List.mem_singleton.mp hw
      exact hslot hlong
  apart := h.apart

/-- **One round**: the first window of a day that is long enough gets its slot. -/
theorem Chosen.addSlot {sessionMinutes : Nat} (hpos : 0 < sessionMinutes)
    {windows byDay : List TimeWindow} (h : Chosen sessionMinutes windows byDay)
    {window : TimeWindow} (hlast : ∀ w ∈ windows, w.startMinute ≤ window.startMinute) :
    ∃ byDay', Scheduling.addSlot sessionMinutes byDay window = some byDay' ∧
      Chosen sessionMinutes (windows ++ [window]) byDay' := by
  unfold Scheduling.addSlot
  split_ifs with hshort htaken
  · exact ⟨byDay, rfl, h.keep hlast fun hlong => absurd hlong (by omega)⟩
  · exact ⟨byDay, rfl, h.keep hlast fun _ => htaken⟩
  · obtain ⟨slot, hmake, hstarts⟩ := exists_slot hpos (not_lt.mp hshort)
    have hnone : ∀ v ∈ windows, v.weekday = window.weekday →
        ¬ sessionMinutes ≤ v.durationMinutes := by
      intro v hv hday hlong
      obtain ⟨taken, htakenMem, htakenDay⟩ := h.all v hv hlong
      exact htaken ⟨taken, htakenMem, htakenDay.trans hday⟩
    refine ⟨byDay ++ [slot], by rw [hmake]; rfl, ⟨fun s hs => ?_, fun w hw hlong => ?_, ?_⟩⟩
    · rcases List.mem_append.mp hs with hs | hs
      · obtain ⟨w, hw, hw', hfirst⟩ := h.first s hs
        refine ⟨w, List.mem_append_left _ hw, hw', fun v hv hday hlong => ?_⟩
        rcases List.mem_append.mp hv with hv | hv
        · exact hfirst v hv hday hlong
        · obtain rfl := List.mem_singleton.mp hv
          exact hlast w hw
      · obtain rfl := List.mem_singleton.mp hs
        refine ⟨window, List.mem_append_right _ List.mem_cons_self, hstarts,
          fun v hv hday hlong => ?_⟩
        rcases List.mem_append.mp hv with hv | hv
        · exact absurd hlong (hnone v hv hday)
        · rw [List.mem_singleton.mp hv]
    · rcases List.mem_append.mp hw with hw | hw
      · obtain ⟨s, hs, hday⟩ := h.all w hw hlong
        exact ⟨s, List.mem_append_left _ hs, hday⟩
      · obtain rfl := List.mem_singleton.mp hw
        exact ⟨slot, List.mem_append_right _ List.mem_cons_self, hstarts.weekday⟩
    · refine List.pairwise_append.mpr ⟨h.apart, List.pairwise_singleton _ _, fun s hs t ht hday => ?_⟩
      obtain rfl := List.mem_singleton.mp ht
      exact htaken ⟨s, hs, hday.trans hstarts.weekday⟩

/-- **The loop**, on windows in the order of their starts. -/
theorem Chosen.foldlM {sessionMinutes : Nat} (hpos : 0 < sessionMinutes) :
    ∀ {rest windows byDay : List TimeWindow}, Chosen sessionMinutes windows byDay →
      (windows ++ rest).Pairwise (·.startMinute ≤ ·.startMinute) →
      ∃ byDay', rest.foldlM (Scheduling.addSlot sessionMinutes) byDay = some byDay' ∧
        Chosen sessionMinutes (windows ++ rest) byDay' := by
  intro rest
  induction rest with
  | nil =>
    intro windows byDay h _
    rw [List.append_nil]
    exact ⟨byDay, rfl, h⟩
  | cons window rest ih =>
    intro windows byDay h hsorted
    have hlast : ∀ w ∈ windows, w.startMinute ≤ window.startMinute := fun w hw =>
      (List.pairwise_append.mp hsorted).2.2 w hw window List.mem_cons_self
    obtain ⟨byDay₁, hadd, h₁⟩ := h.addSlot hpos hlast
    rw [List.append_cons] at hsorted ⊢
    obtain ⟨byDay₂, hrest, h₂⟩ := ih h₁ hsorted
    refine ⟨byDay₂, ?_, h₂⟩
    rw [List.foldlM_cons, hadd]
    exact hrest

/-! ## The overlap -/

/-- **What is free without a gap within one day is in one window.** -/
theorem Normal.exists_window {windows : List TimeWindow} (hnormal : Normal windows) {day : Weekday}
    {m : Nat} (hday : (day : Nat) * MINUTES_PER_DAY ≤ m) : ∀ {n : Nat}, 0 < n →
      m + n ≤ day * MINUTES_PER_DAY + MINUTES_PER_DAY →
      (∀ k, m ≤ k → k < m + n → Covers windows k) →
      ∃ w ∈ windows, w.weekday = day ∧ w.startMinute ≤ m ∧ m + n ≤ w.endMinute := by
  have hweekday {w : TimeWindow} {k : Nat} (hw : w.Has k) (hlow : day * MINUTES_PER_DAY ≤ k)
      (hhigh : k < day * MINUTES_PER_DAY + MINUTES_PER_DAY) : w.weekday = day := by
    obtain ⟨h1, h2⟩ := hw
    have hstart : w.dayStart ≤ w.startMinute := dayStart_le
    have hend := w.endMinute_le
    refine Fin.ext ?_
    unfold dayStart MINUTES_PER_DAY at *
    omega
  intro n
  induction n with
  | zero => exact fun h => absurd h (lt_irrefl 0)
  | succ n ih =>
    intro _ hfits hfree
    rcases Nat.eq_zero_or_pos n with rfl | hpos
    · obtain ⟨w, hw, hwm⟩ := hfree m le_rfl (by omega)
      exact ⟨w, hw, hweekday hwm hday (by omega), hwm.1, hwm.2⟩
    · obtain ⟨w, hw, hwday, hstart, hend⟩ :=
        ih hpos (by omega) fun k h1 h2 => hfree k h1 (by omega)
      refine ⟨w, hw, hwday, hstart, ?_⟩
      by_contra hshort
      -- then the next minute is in another window of the day, which touches this one
      obtain ⟨v, hv, hvm⟩ := hfree (m + n) (by omega) (by omega)
      have hvday : v.weekday = day := hweekday hvm (by omega) (by omega)
      have hwend : w.endMinute = m + n := by omega
      rcases hnormal.eq_or_apart hv hw with rfl | happart | happart
      · obtain ⟨-, hlt⟩ := hvm
        omega
      · have hle := happart.end_le
        have hlt : w.startMinute < w.endMinute := startMinute_lt_endMinute
        obtain ⟨-, hvend⟩ := hvm
        omega
      · obtain ⟨hvstart, -⟩ := hvm
        rcases happart with hlt | ⟨hlt, -⟩
        · omega
        · rw [hwday, hvday] at hlt
          exact absurd hlt (lt_irrefl day)

/-- **The slots of a schedule.** -/
theorem of_suggestSlots {overlap : WeeklySchedule} {sessionMinutes limit : Nat}
    (hpos : 0 < sessionMinutes) :
    ∃ slots, suggestSlots overlap sessionMinutes limit = some slots ∧ slots.length ≤ limit ∧
      slots.Pairwise (·.weekday < ·.weekday) ∧
      (∀ slot ∈ slots, ∃ w ∈ overlap.windows, Starts sessionMinutes w slot) ∧
      ∀ w ∈ overlap.windows, sessionMinutes ≤ w.durationMinutes →
        (∃ slot ∈ slots, slot.weekday = w.weekday ∧ slot.startMinute ≤ w.startMinute) ∨
          (slots.length = limit ∧ ∀ slot ∈ slots, slot.weekday < w.weekday) := by
  have hsame : overlap.windows.insertionSort (·.startMinute ≤ ·.startMinute) = overlap.windows :=
    List.Pairwise.insertionSort_eq (overlap.normal.imp fun h => h.start_lt.le)
  obtain ⟨byDay, hfold, hchosen⟩ := Chosen.nil.foldlM hpos
    (overlap.normal.imp fun h => h.start_lt.le : overlap.windows.Pairwise _)
  rw [List.nil_append] at hchosen
  set sorted := byDay.insertionSort (·.weekday ≤ ·.weekday) with hsorted
  have hmem (slot : TimeWindow) : slot ∈ sorted ↔ slot ∈ byDay := List.mem_insertionSort _
  have hstrict : sorted.Pairwise (·.weekday < ·.weekday) := by
    have hle := List.pairwise_insertionSort (fun a b : TimeWindow => a.weekday ≤ b.weekday) byDay
    have hne : sorted.Pairwise (·.weekday ≠ ·.weekday) :=
      (List.perm_insertionSort _ byDay).symm.pairwise hchosen.apart fun h => Ne.symm h
    exact hle.imp₂ (fun _ _ => lt_of_le_of_ne) hne
  refine ⟨sorted.take limit, ?_, List.length_take_le _ _, hstrict.sublist (List.take_sublist _ _),
    fun slot hslot => ?_, fun w hw hlong => ?_⟩
  · rw [suggestSlots, hsame, hfold]
    rfl
  · obtain ⟨w, hw, hstarts, -⟩ := hchosen.first slot ((hmem slot).mp (List.mem_of_mem_take hslot))
    exact ⟨w, hw, hstarts⟩
  · obtain ⟨slot, hslot, hday⟩ := hchosen.all w hw hlong
    obtain ⟨v, -, hstarts, hfirst⟩ := hchosen.first slot hslot
    have hle : slot.startMinute ≤ w.startMinute := by
      rw [hstarts.start]
      exact hfirst w hw (hday.symm.trans hstarts.weekday) hlong
    rcases List.mem_append.mp (by rw [List.take_append_drop]; exact (hmem slot).mpr hslot :
      slot ∈ sorted.take limit ++ sorted.drop limit) with htake | hdrop
    · exact .inl ⟨slot, htake, hday, hle⟩
    · refine .inr ⟨?_, fun s hs => ?_⟩
      · have hlength := List.length_pos_of_mem hdrop
        rw [List.length_drop] at hlength
        rw [List.length_take]
        omega
      · rw [← hday]
        rw [← List.take_append_drop limit sorted] at hstrict
        exact (List.pairwise_append.mp hstrict).2.2 s hs slot hdrop

end NxTutors.Scheduling
