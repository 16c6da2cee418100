import NxTutors.DemoAgent.Slots
import NxTutors.Effect.Steps

/-!
# Tutors in two demos at once

A tutor's time is spoken for by the holds that are confirmed and by those that are active and not
out of time. The partial unique index of `dcc_slot_holds` keeps two active rows from having the
same tutor and the same start minute. That is not the same as keeping the tutor's intervals apart:
intervals overlap without starting in the same minute, a confirmed row is in the index no longer,
and a row that is out of time counts again when it is confirmed.

`exclusive_iff` says exactly which calls keep a tutor's time exclusive.
-/

namespace NxTutors.DemoAgent

open Effect Store

/-- The hold speaks for the tutor's time. -/
def SlotHold.counts (h : SlotHold) (now : Time) : Bool := h.status = .confirmed || h.live now

theorem TimeSlot.overlaps_comm (s t : TimeSlot) : s.overlaps t = t.overlaps s :=
  Bool.and_comm _ _

namespace SlotHold

variable {h : SlotHold} {now : Time}

theorem counts_iff : h.counts now = true ↔ h.status = .confirmed ∨ h.live now = true := by
  simp [counts]

/-- What counts later counted before. -/
theorem counts_of_le {now' : Time} (hcounts : h.counts now' = true) (hle : now ≤ now') :
    h.counts now = true := by
  rw [counts_iff] at hcounts ⊢
  exact hcounts.imp id fun hlive => live_of_le hlive hle

/-- A released or an expired hold does not count. -/
theorem not_counts_withStatus {status : HoldStatus} (hconfirmed : status ≠ .confirmed)
    (hactive : status ≠ .active) : ¬ (h.withStatus status).counts now = true := by
  rw [counts_iff]
  rintro (hs | hlive)
  · exact hconfirmed hs
  · exact not_live_withStatus _ hactive hlive

/-- An active hold counts or has run out. -/
theorem expired_of_active (hactive : h.status = .active) (hcounts : ¬ h.counts now = true) :
    h.expired now = true :=
  expired_iff.mpr ⟨hactive, Int.not_lt.mp fun hlt =>
    hcounts (counts_iff.mpr (.inr (live_iff.mpr ⟨hactive, hlt⟩)))⟩

theorem not_counts_of_expired (hexpired : h.expired now = true) : ¬ h.counts now = true := by
  obtain ⟨hactive, hle⟩ := expired_iff.mp hexpired
  rw [counts_iff]
  rintro (hs | hlive)
  · rw [hactive] at hs
    cases hs
  · exact absurd (live_iff.mp hlive).2 (Int.not_lt.mpr hle)

end SlotHold

namespace PgSlots

/-- **No tutor is double-booked**: of two holds that speak for the time of one tutor, the
intervals do not overlap. -/
def Exclusive (s : PgSlots) (now : Time) : Prop :=
  ∀ a ∈ s.table.rows, ∀ b ∈ s.table.rows, a ≠ b → a.tutorRef = b.tutorRef →
    a.counts now = true → b.counts now = true → ¬ a.slot.overlaps b.slot = true

/-- The hold overlaps no hold that speaks for its tutor's time. -/
def Clear (s : PgSlots) (now : Time) (h : SlotHold) : Prop :=
  ∀ x ∈ s.table.rows, x.counts now = true → x.tutorRef = h.tutorRef →
    ¬ x.slot.overlaps h.slot = true

/-- What a call lets count is clear: a hold that is not refused when it is placed, and a hold that
has run out when it is confirmed. -/
def Clears (st : Clocked PgSlots) (c : SlotCall) : Prop :=
  match c.op with
  | .placeHold hold =>
    st.store.Taken hold.conflictKey ∨ st.store.Used hold.holdId ∨ st.store.Clear c.now hold
  | .confirm holdId =>
    ∀ h ∈ st.store.table.rows, h.holdId = holdId → h.expired c.now = true →
      st.store.Clear c.now h
  | _ => True

/-! ## What the calls do -/

section Calls

variable {s : PgSlots} {now : Time}

/-- Time only makes it easier. -/
theorem Exclusive.later {now' : Time} (h : s.Exclusive now) (hle : now ≤ now') :
    s.Exclusive now' := fun a ha b hb hne htutor hca hcb =>
  h a ha b hb hne htutor (SlotHold.counts_of_le hca hle) (SlotHold.counts_of_le hcb hle)

/-- **Inserting a hold** keeps the tutor's time exclusive exactly when it is clear. -/
theorem exclusive_insert_iff (hs : s.Exclusive now) {hold : SlotHold}
    (hkey : ¬ s.Taken hold.conflictKey) (hid : ¬ s.Used hold.holdId)
    (htime : hold.createdAt = now) :
    (s.insert hold hkey).Exclusive now ↔ s.Clear now hold := by
  have hnew : (hold.withStatus .active).counts now = true :=
    SlotHold.counts_iff.mpr (.inr (htime ▸ SlotHold.live_createdAt rfl))
  have hrows : ∀ {x}, x ∈ (s.insert hold hkey).table.rows ↔
      x = hold.withStatus .active ∨ x ∈ s.table.rows := by
    intro x
    refine Table.mem_put.trans (or_congr_right ⟨And.left, fun hx => ⟨hx, fun hxid => ?_⟩⟩)
    exact hid ⟨x, hx, hxid⟩
  constructor
  · intro hafter x hx hcounts htutor
    have hne : x ≠ hold.withStatus .active := fun heq => hid ⟨x, hx, by rw [heq]; rfl⟩
    exact hafter x (hrows.mpr (.inr hx)) (hold.withStatus .active) (hrows.mpr (.inl rfl)) hne
      htutor hcounts hnew
  · intro hclear a ha b hb hne htutor hca hcb
    rcases hrows.mp ha with rfl | ha' <;> rcases hrows.mp hb with rfl | hb'
    · exact absurd rfl hne
    · rw [TimeSlot.overlaps_comm]
      exact hclear b hb' hcb htutor.symm
    · exact hclear a ha' hca htutor
    · exact hs a ha' b hb' hne htutor hca hcb

/-- An update changes the status of a row, if anything. -/
theorem updated_tutorRef (which : SlotHold → Bool) (status : HoldStatus) (h : SlotHold) :
    (updated which status h).tutorRef = h.tutorRef := by
  unfold updated
  split <;> rfl

theorem updated_slot (which : SlotHold → Bool) (status : HoldStatus) (h : SlotHold) :
    (updated which status h).slot = h.slot := by
  unfold updated
  split <;> rfl

/-- An update keeps the tutor's time exclusive if whatever counts after it counted before, or is
clear of whatever did. -/
theorem exclusive_update {which : SlotHold → Bool} {status : HoldStatus}
    {hne : status ≠ .active} (hs : s.Exclusive now)
    (hcounts : ∀ a ∈ s.table.rows, ∀ b ∈ s.table.rows, a ≠ b → a.tutorRef = b.tutorRef →
      (updated which status a).counts now = true → (updated which status b).counts now = true →
      (a.counts now = true ∧ b.counts now = true) ∨ ¬ a.slot.overlaps b.slot = true) :
    (s.update which status hne).Exclusive now := by
  intro x hx y hy hxy htutor hcx hcy
  obtain ⟨a, ha, rfl⟩ := List.mem_map.mp hx
  obtain ⟨b, hb, rfl⟩ := List.mem_map.mp hy
  have hab : a ≠ b := fun heq => hxy (heq ▸ rfl)
  rw [updated_tutorRef, updated_tutorRef] at htutor
  rw [updated_slot, updated_slot]
  rcases hcounts a ha b hb hab htutor hcx hcy with ⟨hca, hcb⟩ | hclear
  · exact hs a ha b hb hab htutor hca hcb
  · exact hclear

/-- Releasing and sweeping let nothing count that did not. -/
theorem exclusive_resolve {which : SlotHold → Bool} {status : HoldStatus}
    (hne : status ≠ .active) (hs : s.Exclusive now) (hconfirmed : status ≠ .confirmed) :
    (s.update which status hne).Exclusive now := by
  have hcounts : ∀ h, (updated which status h).counts now = true → h.counts now = true := by
    intro h hc
    unfold updated at hc
    split at hc
    · exact absurd hc (SlotHold.not_counts_withStatus hconfirmed hne)
    · exact hc
  exact exclusive_update hs fun a _ b _ _ _ hca hcb => .inl ⟨hcounts a hca, hcounts b hcb⟩

/-- What counts after a confirmation counted before, or is the hold that is confirmed, and had
run out. -/
theorem counts_confirmed {holdId : String} {h : SlotHold}
    (hc : (updated (fun h => h.holdId = holdId) .confirmed h).counts now = true) :
    h.counts now = true ∨ h.holdId = holdId ∧ h.expired now = true := by
  unfold updated at hc
  split at hc
  · rename_i hif
    simp only [Bool.and_eq_true, decide_eq_true_eq] at hif
    by_cases hbefore : h.counts now = true
    · exact .inl hbefore
    · exact .inr ⟨hif.1, SlotHold.expired_of_active hif.2 hbefore⟩
  · exact .inl hc

/-- **Confirming a hold** keeps the tutor's time exclusive exactly when the hold, if it has run
out, is clear. -/
theorem exclusive_confirm_iff (hs : s.Exclusive now) (holdId : String) :
    (s.setStatus holdId .confirmed (by decide)).Exclusive now ↔
      ∀ h ∈ s.table.rows, h.holdId = holdId → h.expired now = true → s.Clear now h := by
  constructor
  · rintro hafter h hh rfl hexpired x hx hcounts htutor
    have hne : x.holdId ≠ h.holdId := fun hid =>
      SlotHold.not_counts_of_expired hexpired (s.table.eq_of_key hx hh hid ▸ hcounts)
    have hx' : updated (fun y => y.holdId = h.holdId) .confirmed x = x := by
      simp [updated, hne]
    have hh' : updated (fun y => y.holdId = h.holdId) .confirmed h = h.withStatus .confirmed := by
      simp [updated, (SlotHold.expired_iff.mp hexpired).1]
    have hxy : x ≠ h.withStatus .confirmed := fun heq => hne (by rw [heq]; rfl)
    exact hafter x (List.mem_map.mpr ⟨x, hx, hx'⟩) (h.withStatus .confirmed)
      (List.mem_map.mpr ⟨h, hh, hh'⟩) hxy htutor hcounts (SlotHold.counts_iff.mpr (.inl rfl))
  · intro hclear
    refine exclusive_update hs fun a ha b hb hab htutor hca hcb => ?_
    rcases counts_confirmed hca with hca | ⟨hida, hexpa⟩ <;>
      rcases counts_confirmed hcb with hcb | ⟨hidb, hexpb⟩
    · exact .inl ⟨hca, hcb⟩
    · exact .inr (hclear b hb hidb hexpb a ha hca htutor)
    · refine .inr ?_
      rw [TimeSlot.overlaps_comm]
      exact hclear a ha hida hexpa b hb hcb htutor.symm
    · exact absurd (s.table.eq_of_key ha hb (hida.trans hidb.symm)) hab

end Calls

/-! ## Runs -/

/-- One call keeps tutors' time exclusive exactly when what it lets count is clear. -/
theorem exclusive_step {st : Clocked PgSlots} {c : SlotCall}
    (hs : st.store.Exclusive st.now) (hallows : st.Allows c) :
    (step st c).store.Exclusive (step st c).now ↔ Clears st c := by
  obtain ⟨hle, htimely⟩ := hallows
  have hnow : st.store.Exclusive c.now := hs.later hle
  obtain ⟨now, op⟩ := c
  cases op with
  | placeHold hold =>
    by_cases hkey : st.store.Taken hold.conflictKey
    · have hsame : st.store.placeHold hold = none := dif_pos hkey
      exact iff_of_true (by simpa [step, after, hsame] using hnow) (.inl hkey)
    · by_cases hid : st.store.Used hold.holdId
      · have hsame : st.store.placeHold hold = none := by simp [placeHold, hkey, hid]
        exact iff_of_true (by simpa [step, after, hsame] using hnow) (.inr (.inl hid))
      · have hplaced : st.store.placeHold hold = some (st.store.insert hold hkey) := by
          simp [placeHold, hkey, hid]
        have hiff := exclusive_insert_iff hnow hkey hid htimely
        simp only [step, after, hplaced, Option.getD_some, Clears, hkey, hid, false_or]
        exact hiff
  | loadHold holdId => exact iff_of_true hnow trivial
  | activeHoldFor ref => exact iff_of_true hnow trivial
  | release holdId =>
    exact iff_of_true (exclusive_resolve (by decide) hnow (by decide)) trivial
  | confirm holdId => exact exclusive_confirm_iff hnow holdId
  | expireDue => exact iff_of_true (exclusive_resolve (by decide) hnow (by decide)) trivial

/-- **When no tutor is ever double-booked.** Over any run of the PostgreSQL store, time not going
back, tutors' time is exclusive throughout exactly when every hold that is inserted, and every
hold that is confirmed after it has run out, is clear of the holds that speak for its tutor's
time. -/
theorem exclusive_iff (start : Time) (calls : List SlotCall)
    (h : Along step (fun st c => st.Allows c) ⟨start, {}⟩ calls) :
    Throughout step (fun st => st.store.Exclusive st.now) ⟨start, {}⟩ calls ↔
      Along step Clears ⟨start, {}⟩ calls :=
  throughout_iff_along (fun _ ha => absurd ha List.not_mem_nil) h
    fun _ _ hs hallows => exclusive_step hs hallows

/-! ## A tutor in two demos -/

/-- What is left of an empty store after some calls. -/
def run (calls : List SlotCall) : Clocked PgSlots := calls.foldl step ⟨0, {}⟩

/-- A hold is placed and confirmed, and another one is placed at the same time. -/
def bookedAgain : List SlotCall :=
  [⟨0, .placeHold (holdFor "a" 0)⟩, ⟨minute, .confirm "a"⟩,
    ⟨2 * minute, .placeHold (holdFor "b" (2 * minute))⟩]

/-- Two holds are placed, half an hour apart. -/
def halfAnHourApart : List SlotCall :=
  [⟨0, .placeHold (holdFor "a" 0)⟩,
    ⟨minute, .placeHold
      (newHold "b" "b" "t" { startsAt := 10 * hour + 30 * minute } .online minute)⟩]

/-- It applies to a run with a single hold. -/
theorem single_exclusive_iff :
    Throughout step (fun st => st.store.Exclusive st.now) ⟨0, {}⟩
        [⟨0, .placeHold (holdFor "a" 0)⟩] ↔
      Along step Clears ⟨0, {}⟩ [⟨0, .placeHold (holdFor "a" 0)⟩] :=
  exclusive_iff 0 _ (by decide)

/-- **A tutor is in two demos at once**, at the same minute after the first is confirmed, and at
two minutes that are half an hour apart without that. -/
theorem tutor_double_booked :
    Along step (fun st c => st.Allows c) ⟨0, {}⟩ bookedAgain ∧
    ¬ (run bookedAgain).store.Exclusive (run bookedAgain).now ∧
    Along step (fun st c => st.Allows c) ⟨0, {}⟩ halfAnHourApart ∧
    ¬ (run halfAnHourApart).store.Exclusive (run halfAnHourApart).now := by
  refine ⟨by decide, fun h => ?_, by decide, fun h => ?_⟩
  · exact h ((holdFor "a" 0).withStatus .confirmed) (by decide) (holdFor "b" (2 * minute))
      (by decide) (by decide) rfl (by decide) (by decide) (by decide)
  · exact h (holdFor "a" 0) (by decide)
      (newHold "b" "b" "t" { startsAt := 10 * hour + 30 * minute } .online minute) (by decide)
      (by decide) rfl (by decide) (by decide) (by decide)

end PgSlots

end NxTutors.DemoAgent
