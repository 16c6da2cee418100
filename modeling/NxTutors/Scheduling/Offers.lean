import NxTutors.Scheduling.Slots

/-!
# What is offered is free

The slots that a parent is offered are compared with the two schedules as they were given, each in a
timezone of its own. To the minute, a slot is inside both. A moment is finer than a minute, and what
is said of moments needs windows that begin on whole minutes.
-/

namespace NxTutors.Scheduling

open TimeWindow

/-! ## Moments -/

/-- A minute, in microseconds. -/
def MICROS : Nat := 60 * 1000000

/-- The microseconds since midnight. -/
def ClockTime.micros (t : ClockTime) : Nat :=
  t.minutes * MICROS + t.second * 1000000 + t.microsecond

/-- The moment of an end, for which midnight is the end of the day. -/
def endMicros (t : ClockTime) : Nat := if t.minutes = 0 then MINUTES_PER_DAY * MICROS else t.micros

namespace TimeWindow

/-- A moment of the week is in the window. -/
def HasMoment (w : TimeWindow) (u : Nat) : Prop :=
  w.dayStart * MICROS + w.start.micros ≤ u ∧ u < w.dayStart * MICROS + endMicros w.finish

instance (w : TimeWindow) (u : Nat) : Decidable (w.HasMoment u) :=
  inferInstanceAs (Decidable (_ ∧ _))

/-- It begins on a whole minute. -/
def BeginsOnMinute (w : TimeWindow) : Prop := w.start.WholeMinute

theorem endOfDay_mul_le (t : ClockTime) : endOfDay t * MICROS ≤ endMicros t := by
  unfold endOfDay endMicros
  split_ifs
  · exact le_rfl
  · unfold ClockTime.micros
    omega

theorem micros_of_wholeMinute {t : ClockTime} (h : t.WholeMinute) :
    t.micros = t.minutes * MICROS := by
  simp [ClockTime.micros, h.1, h.2]

theorem micros_pos : 0 < MICROS := by decide

/-- What the minutes have, the moments have, if the window begins on a minute. -/
theorem HasMoment.of_has {w : TimeWindow} (hbegins : w.BeginsOnMinute) {u : Nat}
    (h : w.Has (u / MICROS)) : w.HasMoment u := by
  obtain ⟨hlow, hhigh⟩ := h
  rw [Nat.le_div_iff_mul_le micros_pos, startMinute, Nat.add_mul] at hlow
  rw [Nat.div_lt_iff_lt_mul micros_pos, endMinute, Nat.add_mul] at hhigh
  rw [HasMoment, micros_of_wholeMinute hbegins]
  exact ⟨hlow, hhigh.trans_le (Nat.add_le_add_left (endOfDay_mul_le _) _)⟩

/-- And the other way round, for a window of whole minutes. -/
theorem HasMoment.has {w : TimeWindow} (hwhole : w.WholeMinutes) {u : Nat} (h : w.HasMoment u) :
    w.Has (u / MICROS) := by
  obtain ⟨hlow, hhigh⟩ := h
  have hend : endMicros w.finish = endOfDay w.finish * MICROS := by
    unfold endMicros endOfDay
    split_ifs
    · rfl
    · exact micros_of_wholeMinute hwhole.2
  rw [micros_of_wholeMinute hwhole.1, ← Nat.add_mul] at hlow
  rw [hend, ← Nat.add_mul] at hhigh
  exact ⟨(Nat.le_div_iff_mul_le micros_pos).mpr hlow, (Nat.div_lt_iff_lt_mul micros_pos).mpr hhigh⟩

end TimeWindow

/-- The moment of the week, of microseconds counted from a Monday on. -/
def weekMoment (u : Int) : Nat := (u % (MINUTES_PER_WEEK * MICROS : Nat)).toNat

theorem weekMoment_div (u : Int) (o : Int) :
    weekMoment (u + o * MICROS) / MICROS = weekMinute (u / MICROS + o) := by
  unfold weekMoment weekMinute MINUTES_PER_WEEK MINUTES_PER_DAY MICROS
  omega

/-- **The schedule is free at a moment.** -/
def WeeklySchedule.FreeAtMoment (offset : String → Int) (s : WeeklySchedule) (u : Int) : Prop :=
  ∃ w ∈ s.windows, w.HasMoment (weekMoment (u + offset s.timezone * MICROS))

/-- The windows of a schedule begin on whole minutes. -/
def WeeklySchedule.BeginsOnMinutes (s : WeeklySchedule) : Prop :=
  ∀ w ∈ s.windows, w.BeginsOnMinute

theorem WeeklySchedule.freeAtMoment_of_freeAt {offset : String → Int} {s : WeeklySchedule}
    (h : s.BeginsOnMinutes) {u : Int} (hfree : s.FreeAt offset (u / MICROS)) :
    s.FreeAtMoment offset u := by
  obtain ⟨w, hw, hm⟩ := hfree
  refine ⟨w, hw, .of_has (h w hw) ?_⟩
  rw [weekMoment_div]
  exact hm

/-! ## The offer -/

section Offer

variable (offset : String → Int) (tutor parent : WeeklySchedule) (timezone : String)

/-- Both are free in a minute of the week of the timezone. -/
def BothFree (m : Nat) : Prop :=
  parent.FreeAt offset (m - offset timezone) ∧ tutor.FreeAt offset (m - offset timezone)

/-- There is room for a session on a day, from a minute of the week on. -/
structure Room (sessionMinutes : Nat) (day : Weekday) (m : Nat) : Prop where
  begins : day * MINUTES_PER_DAY ≤ m
  ends : m + sessionMinutes ≤ day * MINUTES_PER_DAY + MINUTES_PER_DAY
  free : ∀ k, m ≤ k → k < m + sessionMinutes → BothFree offset tutor parent timezone k

/-- **The slots are what they should be.** -/
structure Offered (sessionMinutes sessionsPerWeek : Nat) (slots : List TimeWindow) : Prop where
  lasts : ∀ slot ∈ slots, slot.durationMinutes = sessionMinutes
  /-- to the minute, in the timezone of the slots -/
  free : ∀ slot ∈ slots, ∀ t : Int, slot.Has (weekMinute (t + offset timezone)) →
    parent.FreeAt offset t ∧ tutor.FreeAt offset t
  /-- to the moment -/
  freeAtMoment : parent.BeginsOnMinutes → tutor.BeginsOnMinutes → ∀ slot ∈ slots, ∀ u : Int,
    slot.HasMoment (weekMoment (u + offset timezone * MICROS)) →
      parent.FreeAtMoment offset u ∧ tutor.FreeAtMoment offset u
  oneADay : slots.Pairwise (·.weekday < ·.weekday)
  atMost : slots.length ≤ sessionsPerWeek
  /-- a day with room has a slot that is as early, or only earlier days have slots -/
  earliest : ∀ day m, Room offset tutor parent timezone sessionMinutes day m →
    (∃ slot ∈ slots, slot.weekday = day ∧ slot.startMinute ≤ m) ∨
      (slots.length = sessionsPerWeek ∧ ∀ slot ∈ slots, slot.weekday < day)

variable {offset tutor parent timezone} {sessionMinutes sessionsPerWeek : Nat}

/-- The overlap of the two schedules, in the timezone. -/
theorem covers_overlap {t : Int} :
    Covers ((toTimezone offset parent timezone).intersection
        (toTimezone offset tutor timezone)).windows (weekMinute (t + offset timezone)) ↔
      parent.FreeAt offset t ∧ tutor.FreeAt offset t := by
  rw [WeeklySchedule.covers_intersection]
  refine and_congr ?_ ?_
  all_goals rw [← freeAt_toTimezone, WeeklySchedule.FreeAt, timezone_toTimezone]

theorem covers_overlap_natCast {m : Nat} (h : m < MINUTES_PER_WEEK) :
    Covers ((toTimezone offset parent timezone).intersection
        (toTimezone offset tutor timezone)).windows m ↔ BothFree offset tutor parent timezone m := by
  rw [BothFree, ← covers_overlap, Int.sub_add_cancel, weekMinute_natCast h]

theorem orDefault_some {n default : Nat} (h : 0 < n) : orDefault (some n) default = n := by
  cases n with
  | zero => exact absurd h (lt_irrefl 0)
  | succ n => rfl

/-- A schedule without windows is never free. -/
theorem not_freeAt_of_not_truthy {s : WeeklySchedule} (h : s.truthy = false) {t : Int} :
    ¬ s.FreeAt offset t := by
  have hnil : s.windows = [] := by
    unfold WeeklySchedule.truthy at h
    simpa using h
  rw [WeeklySchedule.FreeAt, hnil]
  exact covers_nil

/-- What is suggested for a requirement that says how long and how often. -/
theorem suggestedSlots_some (hminutes : 0 < sessionMinutes) (hsessions : 0 < sessionsPerWeek) :
    suggestedSlots offset (some tutor) (some parent) timezone (some sessionMinutes)
        (some sessionsPerWeek) =
      if tutor.truthy then
        suggestSlots ((toTimezone offset parent timezone).intersection
          (toTimezone offset tutor timezone)) sessionMinutes sessionsPerWeek
      else some [] := by
  unfold suggestedSlots
  dsimp only
  rw [orDefault_some hminutes, orDefault_some hsessions]

/-- **The slots that are suggested are free for both sides**, the earliest of their days, and as
many as are wanted where there is room for them. -/
theorem slots_suggested (offset : String → Int) (tutor parent : WeeklySchedule) (timezone : String)
    {sessionMinutes sessionsPerWeek : Nat} (hminutes : 15 ≤ sessionMinutes ∧ sessionMinutes ≤ 300)
    (hsessions : 1 ≤ sessionsPerWeek ∧ sessionsPerWeek ≤ 14) :
    ∃ slots, suggestedSlots offset (some tutor) (some parent) timezone (some sessionMinutes)
        (some sessionsPerWeek) = some slots ∧
      Offered offset tutor parent timezone sessionMinutes sessionsPerWeek slots := by
  have hpos : 0 < sessionMinutes := by omega
  rw [suggestedSlots_some hpos hsessions.1]
  cases htutor : tutor.truthy with
  | false =>
    refine ⟨[], rfl, nofun, nofun, nofun, List.Pairwise.nil, Nat.zero_le _, fun day m hroom => ?_⟩
    exact absurd (hroom.free m le_rfl (by omega)).2 (not_freeAt_of_not_truthy htutor)
  | true =>
    obtain ⟨slots, hslots, hatMost, honeADay, hstarts, hall⟩ :=
      @of_suggestSlots ((toTimezone offset parent timezone).intersection
        (toTimezone offset tutor timezone)) _ sessionsPerWeek hpos
    have hfree : ∀ slot ∈ slots, ∀ t : Int, slot.Has (weekMinute (t + offset timezone)) →
        parent.FreeAt offset t ∧ tutor.FreeAt offset t := by
      intro slot hslot t ⟨hlow, hhigh⟩
      obtain ⟨w, hw, hstart⟩ := hstarts slot hslot
      exact covers_overlap.mp
        ⟨w, hw, hstart.start.symm.trans_le hlow, hhigh.trans_le hstart.fits⟩
    refine ⟨slots, hslots, fun slot hslot => ?_, hfree,
      fun hparent htutor slot hslot u hu => ?_, honeADay, hatMost, fun day m hroom => ?_⟩
    · obtain ⟨w, -, hstart⟩ := hstarts slot hslot
      rw [durationMinutes, hstart.finish, hstart.start, Nat.add_sub_cancel_left]
    · obtain ⟨w, hw, hstart⟩ := hstarts slot hslot
      have hwhole : slot.WholeMinutes :=
        ⟨hstart.begins ▸ (WeeklySchedule.wholeMinutes_intersection w hw).1, hstart.whole⟩
      have hhas := hu.has hwhole
      rw [weekMoment_div] at hhas
      obtain ⟨hp, ht⟩ := hfree slot hslot _ hhas
      exact ⟨WeeklySchedule.freeAtMoment_of_freeAt hparent hp,
        WeeklySchedule.freeAtMoment_of_freeAt htutor ht⟩
    · obtain ⟨w, hw, hwday, hwstart, hwend⟩ := (WeeklySchedule.normal _).exists_window
        hroom.begins hpos hroom.ends fun k h1 h2 => by
          have hday := day.isLt
          have hends := hroom.ends
          refine (covers_overlap_natCast ?_).mpr (hroom.free k h1 h2)
          unfold MINUTES_PER_WEEK MINUTES_PER_DAY at *
          omega
      have hlong : sessionMinutes ≤ w.durationMinutes := by
        unfold durationMinutes
        omega
      rcases hall w hw hlong with ⟨slot, hslot, hslotday, hle⟩ | ⟨hlength, hbefore⟩
      · exact .inl ⟨slot, hslot, hslotday.trans hwday, hle.trans hwstart⟩
      · exact .inr ⟨hlength, fun slot hslot => hwday ▸ hbefore slot hslot⟩

end Offer

/-! ## Two schedules -/

/-- Monday from some time on until noon. -/
def morning (timezone : String) (start : ClockTime) (order : start.minutes < 12 * 60) :
    WeeklySchedule :=
  ⟨timezone, [⟨0, start, ⟨12, 0, 0, 0⟩, order⟩], List.pairwise_singleton _ _⟩

/-- Half past five is midnight in India. -/
def inIndia (timezone : String) : Int := if timezone = "Asia/Kolkata" then 330 else 0

/-- Mornings that are hours apart, seen from India. -/
theorem mornings_apart : ∃ slots,
    suggestedSlots inIndia (some (morning "Asia/Kolkata" ⟨9, 0, 0, 0⟩ (by decide)))
        (some (morning "UTC" ⟨4, 0, 0, 0⟩ (by decide))) "Asia/Kolkata" (some 60) (some 3)
      = some slots ∧
    Offered inIndia (morning "Asia/Kolkata" ⟨9, 0, 0, 0⟩ (by decide))
      (morning "UTC" ⟨4, 0, 0, 0⟩ (by decide)) "Asia/Kolkata" 60 3 slots :=
  slots_suggested _ _ _ _ (by decide) (by decide)

/-- **A tutor who is free from half a minute past ten on is offered for ten.** -/
theorem offered_before_free :
    let tutor := morning "UTC" ⟨10, 0, 30, 0⟩ (by decide)
    let parent := morning "UTC" ⟨10, 0, 0, 0⟩ (by decide)
    ∃ slots, suggestedSlots inIndia (some tutor) (some parent) "UTC" (some 60) (some 2)
        = some slots ∧
      ∃ slot ∈ slots, ∃ u : Int, slot.HasMoment (weekMoment (u + inIndia "UTC" * MICROS)) ∧
        ¬ tutor.FreeAtMoment inIndia u := by
  intro tutor parent
  refine ⟨[⟨0, ⟨10, 0, 0, 0⟩, ⟨11, 0, 0, 0⟩, by decide⟩], by decide, _,
    List.mem_cons_self, (10 * 60 * MICROS : Nat), by decide, ?_⟩
  rintro ⟨w, hw, hlow, -⟩
  obtain rfl := List.mem_singleton.mp hw
  exact absurd hlow (by decide)

end NxTutors.Scheduling
