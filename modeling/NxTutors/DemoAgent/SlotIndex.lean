import NxTutors.DemoAgent.Slots
import NxTutors.Effect.Steps

/-!
# The index of the in-memory slot store

The in-memory store excludes by its index: who claimed a conflict key. The index is exact while
every live hold owns the claim on its key, and then no two live holds share one.

A claim outlives its hold. When a hold has run out of time and nobody has swept it, another one
may take its key over, and what resolves the old hold later, a release or the sweep, gives the
key up all the same: the new hold is live and owns nothing. `index_exact_iff` says that this is
the only way in which the index stops being exact.
-/

namespace NxTutors.DemoAgent

open Effect Store

namespace InMemorySlots

/-- Every live hold owns the claim on its key. -/
def Owns (s : InMemorySlots) (now : Time) : Prop :=
  ∀ h ∈ s.holds.rows, h.live now = true → s.claimed h.conflictKey = some h.holdId

/-- **The index is exact**: live holds own their claims, and do not share their keys. -/
structure IndexExact (s : InMemorySlots) (now : Time) : Prop where
  owns : s.Owns now
  alone : ∀ a ∈ s.holds.rows, ∀ b ∈ s.holds.rows, a.live now = true → b.live now = true →
    a.conflictKey = b.conflictKey → a = b

/-- Whoever owns a claim does not share it. -/
theorem indexExact_iff {s : InMemorySlots} {now : Time} : s.IndexExact now ↔ s.Owns now := by
  refine ⟨IndexExact.owns, fun howns => ⟨howns, fun a ha b hb hla hlb hkey => ?_⟩⟩
  have hclaim : some a.holdId = some b.holdId := by
    rw [← howns a ha hla, ← howns b hb hlb, hkey]
  exact s.holds.eq_of_key ha hb (Option.some.inj hclaim)

/-- Time only makes it easier. -/
theorem Owns.later {s : InMemorySlots} {now now' : Time} (h : s.Owns now) (hle : now ≤ now') :
    s.Owns now' := fun x hx hlive => h x hx (SlotHold.live_of_le hlive hle)

/-! ## What the calls do -/

section Calls

variable {s : InMemorySlots} {now : Time}

/-- A hold that is not refused is not in conflict with any live hold. -/
theorem blocking_eq_none (howns : s.Owns now) {hold : SlotHold} (htime : hold.createdAt = now)
    (hnone : s.blocking hold = none) {x : SlotHold} (hx : x ∈ s.holds.rows)
    (hlive : x.live now = true) (hne : x.holdId ≠ hold.holdId) :
    x.conflictKey ≠ hold.conflictKey := by
  intro hkey
  have hclaim : s.claimed hold.conflictKey = some x.holdId := hkey ▸ howns x hx hlive
  have hfind : s.holds.find x.holdId = some x := Table.find_eq_some_iff.mpr ⟨hx, rfl⟩
  simp only [blocking, hclaim, if_neg hne, hfind, htime, Option.filter_some, hlive, if_true]
    at hnone
  cases hnone

/-- Placing a new hold keeps the index exact. -/
theorem owns_placeHold (howns : s.Owns now) {hold : SlotHold} (htime : hold.createdAt = now)
    (hfresh : ∀ h ∈ s.holds.rows, h.holdId ≠ hold.holdId) :
    (s.placeHold hold).2.Owns now := by
  unfold placeHold
  split
  · exact howns
  · rename_i hnone
    intro x hx hlive
    rcases Table.mem_put.mp hx with rfl | ⟨hx, hne⟩
    · exact Function.update_self _ _ _
    · have hkey := blocking_eq_none howns htime hnone hx hlive hne
      exact (Function.update_of_ne hkey _ _).trans (howns x hx hlive)

/-- The holds after one of them has been given a status. -/
theorem mem_setStatus {holdId : String} {status : HoldStatus} {x : SlotHold} :
    x ∈ (s.setStatus holdId status).holds.rows ↔
      (∃ h ∈ s.holds.rows, h.holdId = holdId ∧ h.withStatus status = x) ∨
        x ∈ s.holds.rows ∧ x.holdId ≠ holdId := by
  unfold setStatus
  cases hfind : s.holds.find holdId with
  | none =>
    have hnone := Table.find_eq_none_iff.mp hfind
    constructor
    · intro hx
      exact .inr ⟨hx, hnone x hx⟩
    · rintro (⟨h, hh, hid, _⟩ | ⟨hx, _⟩)
      · exact absurd hid (hnone h hh)
      · exact hx
  | some hold =>
    obtain ⟨hmem, rfl⟩ := Table.find_eq_some_iff.mp hfind
    constructor
    · intro hx
      rcases Table.mem_put.mp hx with rfl | ⟨hx, hne⟩
      · exact .inl ⟨hold, hmem, rfl, rfl⟩
      · exact .inr ⟨hx, hne⟩
    · rintro (⟨h, hh, hid, rfl⟩ | ⟨hx, hne⟩)
      · rw [s.holds.eq_of_key hh hmem hid]
        exact Table.mem_put.mpr (.inl rfl)
      · exact Table.mem_put.mpr (.inr ⟨hx, hne⟩)

/-- A hold that is live after another one was resolved is another one, and was there before. -/
theorem live_setStatus {holdId : String} {status : HoldStatus} {x : SlotHold}
    (hstatus : status ≠ .active) (hx : x ∈ (s.setStatus holdId status).holds.rows)
    (hlive : x.live now = true) : x ∈ s.holds.rows ∧ x.holdId ≠ holdId := by
  rcases mem_setStatus.mp hx with ⟨h, _, _, rfl⟩ | hx
  · exact absurd hlive (SlotHold.not_live_withStatus _ hstatus)
  · exact hx

/-- Confirming a hold touches no claim. -/
theorem claimed_confirm {holdId : String} :
    (s.setStatus holdId .confirmed).claimed = s.claimed := by
  unfold setStatus
  split
  · rfl
  · simp

/-- Releasing a hold gives its key up, whoever owns it. -/
theorem claimed_release {hold : SlotHold} (hmem : hold ∈ s.holds.rows) :
    (s.setStatus hold.holdId .released).claimed =
      Function.update s.claimed hold.conflictKey none := by
  have hfind : s.holds.find hold.holdId = some hold := Table.find_eq_some_iff.mpr ⟨hmem, rfl⟩
  simp [setStatus, hfind]

theorem owns_confirm (howns : s.Owns now) (holdId : String) :
    (s.setStatus holdId .confirmed).Owns now := by
  intro x hx hlive
  rw [claimed_confirm]
  exact howns x (live_setStatus (by decide) hx hlive).1 hlive

/-- **A release keeps the index exact** exactly when no other live hold has the key. -/
theorem owns_release_iff (howns : s.Owns now) (holdId : String) :
    (s.setStatus holdId .released).Owns now ↔
      ∀ h ∈ s.holds.rows, h.holdId = holdId → ∀ x ∈ s.holds.rows, x.live now = true →
        x.holdId ≠ holdId → x.conflictKey ≠ h.conflictKey := by
  constructor
  · rintro hafter h hh rfl x hx hlive hne hkey
    have hclaim := hafter x (mem_setStatus.mpr (.inr ⟨hx, hne⟩)) hlive
    rw [claimed_release hh, hkey, Function.update_self] at hclaim
    cases hclaim
  · intro hspares x hafter hlive
    obtain ⟨hx, hne⟩ := live_setStatus (by decide) hafter hlive
    by_cases hthere : ∃ h ∈ s.holds.rows, h.holdId = holdId
    · obtain ⟨h, hh, rfl⟩ := hthere
      rw [claimed_release hh,
        Function.update_of_ne (hspares h hh rfl x hx hlive hne)]
      exact howns x hx hlive
    · have hsame : s.setStatus holdId .released = s := by
        have hnone : s.holds.find holdId = none :=
          Table.find_eq_none_iff.mpr fun h hh hid => hthere ⟨h, hh, hid⟩
        simp [setStatus, hnone]
      rw [hsame]
      exact howns x hx hlive

/-- A hold that is live is not swept, and a swept one is not live. -/
theorem live_swept {x : SlotHold} (hlive : (swept now x).live now = true) :
    swept now x = x ∧ x.live now = true := by
  unfold swept at hlive ⊢
  split
  · rename_i hdue
    rw [if_pos hdue] at hlive
    exact absurd hlive (SlotHold.not_live_withStatus _ (by decide))
  · rename_i hdue
    rw [if_neg hdue] at hlive
    exact ⟨rfl, hlive⟩

theorem swept_of_live {x : SlotHold} (hlive : x.live now = true) : swept now x = x := by
  have hdue : ¬ x.expired now = true := fun hdue =>
    absurd (SlotHold.live_iff.mp hlive).2 (Int.not_lt.mpr (SlotHold.expired_iff.mp hdue).2)
  exact if_neg hdue

/-- The sweep gives up the keys of the holds that are due. -/
theorem claimed_expireDue (key : String × Int) :
    (s.expireDue now).2.claimed key =
      if ∃ h ∈ s.holds.rows, h.expired now = true ∧ h.conflictKey = key then none
      else s.claimed key := by
  simp [expireDue]

/-- **A sweep keeps the index exact** exactly when no live hold has the key of one that is
due. -/
theorem owns_expireDue_iff (howns : s.Owns now) :
    (s.expireDue now).2.Owns now ↔
      ∀ h ∈ s.holds.rows, h.expired now = true → ∀ x ∈ s.holds.rows, x.live now = true →
        x.conflictKey ≠ h.conflictKey := by
  constructor
  · intro hafter h hh hdue x hx hlive hkey
    have hmem : x ∈ (s.expireDue now).2.holds.rows :=
      List.mem_map.mpr ⟨x, hx, swept_of_live hlive⟩
    have hclaim := hafter x hmem hlive
    rw [claimed_expireDue, if_pos ⟨h, hh, hdue, hkey.symm⟩] at hclaim
    cases hclaim
  · intro hspares x hx hlive
    obtain ⟨y, hy, rfl⟩ := List.mem_map.mp hx
    obtain ⟨heq, hyl⟩ := live_swept hlive
    rw [heq, claimed_expireDue, if_neg]
    · exact howns y hy hyl
    · rintro ⟨h, hh, hdue, hkey⟩
      exact hspares h hh hdue y hy hyl hkey.symm

end Calls

/-! ## Runs -/

/-- The hold a call places has an identifier of its own. -/
def Fresh (st : Clocked InMemorySlots) (c : SlotCall) : Prop :=
  match c.op with
  | .placeHold hold => ∀ h ∈ st.store.holds.rows, h.holdId ≠ hold.holdId
  | _ => True

/-- What a call resolves shares its key with no other hold that is live. -/
def Spares (st : Clocked InMemorySlots) (c : SlotCall) : Prop :=
  match c.op with
  | .release holdId =>
    ∀ h ∈ st.store.holds.rows, h.holdId = holdId →
      ∀ x ∈ st.store.holds.rows, x.live c.now = true → x.holdId ≠ holdId →
        x.conflictKey ≠ h.conflictKey
  | .expireDue =>
    ∀ h ∈ st.store.holds.rows, h.expired c.now = true →
      ∀ x ∈ st.store.holds.rows, x.live c.now = true → x.conflictKey ≠ h.conflictKey
  | _ => True

/-- One call keeps the index exact exactly when it spares the others. -/
theorem indexExact_step {st : Clocked InMemorySlots} {c : SlotCall}
    (hexact : st.store.IndexExact st.now) (hallows : st.Allows c) (hfresh : Fresh st c) :
    (step st c).store.IndexExact (step st c).now ↔ Spares st c := by
  obtain ⟨hle, htimely⟩ := hallows
  have howns : st.store.Owns c.now := hexact.owns.later hle
  obtain ⟨now, op⟩ := c
  rw [indexExact_iff]
  cases op with
  | placeHold hold => exact iff_of_true (owns_placeHold howns htimely hfresh) trivial
  | loadHold holdId => exact iff_of_true howns trivial
  | activeHoldFor ref => exact iff_of_true howns trivial
  | release holdId => exact owns_release_iff howns holdId
  | confirm holdId => exact iff_of_true (owns_confirm howns holdId) trivial
  | expireDue => exact owns_expireDue_iff howns

/-- **When the index stays exact.** Over any run of the in-memory store, time not going back and
holds having identifiers of their own, the index is exact throughout exactly when whatever is
released or swept shares its key with no other live hold. -/
theorem index_exact_iff (start : Time) (calls : List SlotCall)
    (h : Along step (fun st c => st.Allows c ∧ Fresh st c) ⟨start, {}⟩ calls) :
    Throughout step (fun st => st.store.IndexExact st.now) ⟨start, {}⟩ calls ↔
      Along step Spares ⟨start, {}⟩ calls :=
  throughout_iff_along (indexExact_iff.mpr fun _ hx => absurd hx List.not_mem_nil) h
    fun _ _ hexact hQ => indexExact_step hexact hQ.1 hQ.2

/-! ## An expired hold, taken over and swept -/

section Examples

variable (st : Clocked InMemorySlots) (c : SlotCall)

instance : Decidable (Fresh st c) :=
  match c with
  | ⟨_, .placeHold hold⟩ =>
    inferInstanceAs (Decidable (∀ h ∈ st.store.holds.rows, h.holdId ≠ hold.holdId))
  | ⟨_, .loadHold _⟩ | ⟨_, .activeHoldFor _⟩ | ⟨_, .release _⟩ | ⟨_, .confirm _⟩
  | ⟨_, .expireDue⟩ => .isTrue trivial

instance : Decidable (Spares st c) :=
  match c with
  | ⟨now, .release holdId⟩ =>
    inferInstanceAs (Decidable (∀ h ∈ st.store.holds.rows, h.holdId = holdId →
      ∀ x ∈ st.store.holds.rows, x.live now = true → x.holdId ≠ holdId →
        x.conflictKey ≠ h.conflictKey))
  | ⟨now, .expireDue⟩ =>
    inferInstanceAs (Decidable (∀ h ∈ st.store.holds.rows, h.expired now = true →
      ∀ x ∈ st.store.holds.rows, x.live now = true → x.conflictKey ≠ h.conflictKey))
  | ⟨_, .placeHold _⟩ | ⟨_, .loadHold _⟩ | ⟨_, .activeHoldFor _⟩ | ⟨_, .confirm _⟩ =>
    .isTrue trivial

end Examples

/-- What is left of an empty store after some calls. -/
def run (calls : List SlotCall) : Clocked InMemorySlots := calls.foldl step ⟨0, {}⟩

/-- A hold runs out, and is swept before the next one is placed. -/
def sweptFirst : List SlotCall :=
  [⟨0, .placeHold (holdFor "a" 0)⟩, ⟨25 * minute, .expireDue⟩,
    ⟨25 * minute, .placeHold (holdFor "b" (25 * minute))⟩]

/-- A hold runs out, and is swept after the next one has been placed. -/
def takenOver : List SlotCall :=
  [⟨0, .placeHold (holdFor "a" 0)⟩, ⟨25 * minute, .placeHold (holdFor "b" (25 * minute))⟩,
    ⟨26 * minute, .expireDue⟩]

/-- Somebody else asks for the same time. -/
def askedAgain : SlotCall := ⟨27 * minute, .placeHold (holdFor "c" (27 * minute))⟩

/-- It applies to a run that sweeps in time. -/
theorem sweptFirst_exact :
    Throughout step (fun st => st.store.IndexExact st.now) ⟨0, {}⟩ sweptFirst ↔
      Along step Spares ⟨0, {}⟩ sweptFirst :=
  index_exact_iff 0 sweptFirst (by decide)

/-- **The sweep frees a live hold's slot.** The hold of the first parent has run out, the second
parent's is placed, and the sweep gives up the key: the second hold is live and owns nothing, and
a third one is placed at the same time. -/
theorem takenOver_not_exact :
    Along step (fun st c => st.Allows c ∧ Fresh st c) ⟨0, {}⟩ (takenOver ++ [askedAgain]) ∧
    ¬ (run takenOver).store.IndexExact (run takenOver).now ∧
    ∃ b ∈ (run (takenOver ++ [askedAgain])).store.holds.rows,
      ∃ c ∈ (run (takenOver ++ [askedAgain])).store.holds.rows,
        b ≠ c ∧ b.live (27 * minute) = true ∧ c.live (27 * minute) = true ∧
          b.conflictKey = c.conflictKey := by
  refine ⟨by decide, fun hexact => ?_, by decide⟩
  have hclaim := hexact.owns (holdFor "b" (25 * minute)) (by decide) (by decide)
  exact absurd hclaim (by decide)

end InMemorySlots

end NxTutors.DemoAgent
