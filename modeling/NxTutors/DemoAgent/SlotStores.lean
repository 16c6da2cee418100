import NxTutors.DemoAgent.DoubleBooking
import NxTutors.DemoAgent.SlotIndex

/-!
# The two slot stores

Both slot stores are given the same calls. They decide a conflict differently, the one by who
owns the claim on the key and whether that hold is live, the other by an active row, and they
change a status differently, the one whatever it was, the other only if it was active. So they
part where a hold has run out and nobody has swept it, and where a hold is resolved twice.

`stores_agree` says that they part nowhere else: a run in which no call finds that answers alike
from both, and leaves the same holds in both.
-/

namespace NxTutors.DemoAgent

open Effect Store

/-- The same holds have been accepted or refused, and the same statuses returned. -/
def SlotAnswer.Agrees : SlotAnswer → SlotAnswer → Prop
  | .placed a, .placed b => a = b
  | .conflict .., .conflict .. => True
  | .found a, .found b => a.map SlotHold.status = b.map SlotHold.status
  | .expired as, .expired bs => (as.map SlotHold.status).Perm (bs.map SlotHold.status)
  | .done, .done => True
  | _, _ => False

/-- What the stores agree on: a hold is placed over another one that is live, or as a new active
one where no row is active; a hold is released that is active, or again, if no live hold has its
key by then; a hold is confirmed that is active, or again. -/
def PgSlots.Uniform (st : Clocked PgSlots) (c : SlotCall) : Prop :=
  match c.op with
  | .placeHold hold =>
    (∃ x ∈ st.store.table.rows, x.live c.now = true ∧ x.conflictKey = hold.conflictKey ∧
      x.holdId ≠ hold.holdId) ∨
    (hold.status = .active ∧ ¬ st.store.Taken hold.conflictKey ∧ ¬ st.store.Used hold.holdId)
  | .release holdId =>
    ∀ h ∈ st.store.table.rows, h.holdId = holdId →
      h.status = .active ∨
        h.status = .released ∧
          ∀ x ∈ st.store.table.rows, x.live c.now = true → x.conflictKey ≠ h.conflictKey
  | .confirm holdId =>
    ∀ h ∈ st.store.table.rows, h.holdId = holdId →
      h.status = .active ∨ h.status = .confirmed
  | _ => True

/-- **The same store twice**: the same rows, and in memory every claim is one of a hold with that
key, and of every live hold with that key. -/
structure SameHolds (p : PgSlots) (s : InMemorySlots) (now : Time) : Prop where
  rows : s.holds.rows = p.table.rows
  owns : s.Owns now
  keyed : ∀ key owner, s.claimed key = some owner →
    ∃ h ∈ s.holds.rows, h.holdId = owner ∧ h.conflictKey = key

namespace SameHolds

variable {p : PgSlots} {s : InMemorySlots} {now : Time}

theorem later {now' : Time} (h : SameHolds p s now) (hle : now ≤ now') : SameHolds p s now' :=
  ⟨h.rows, h.owns.later hle, h.keyed⟩

/-- No two live holds have one key. -/
theorem unique (h : SameHolds p s now) {x y : SlotHold} (hx : x ∈ s.holds.rows)
    (hy : y ∈ s.holds.rows) (hactx : x.status = .active) (hacty : y.status = .active)
    (hkey : x.conflictKey = y.conflictKey) : x = y :=
  p.unique x (h.rows ▸ hx) y (h.rows ▸ hy) hactx hacty hkey

/-! ## Placing a hold -/

/-- The owner of a key that is live blocks it. -/
theorem blocking_live (h : SameHolds p s now) {hold x : SlotHold} (htime : hold.createdAt = now)
    (hx : x ∈ s.holds.rows) (hlive : x.live now = true) (hkey : x.conflictKey = hold.conflictKey)
    (hne : x.holdId ≠ hold.holdId) : s.blocking hold = some x := by
  have hclaim : s.claimed hold.conflictKey = some x.holdId := hkey ▸ h.owns x hx hlive
  have hfind : s.holds.find x.holdId = some x := Table.find_eq_some_iff.mpr ⟨hx, rfl⟩
  simp [InMemorySlots.blocking, hclaim, hne, hfind, htime, hlive]

/-- A key that no active row has is not blocked. -/
theorem blocking_free (h : SameHolds p s now) {hold : SlotHold}
    (hfree : ¬ p.Taken hold.conflictKey) : s.blocking hold = none := by
  unfold InMemorySlots.blocking
  cases hclaim : s.claimed hold.conflictKey with
  | none => rfl
  | some owner =>
    obtain ⟨x, hx, rfl, hkey⟩ := h.keyed _ _ hclaim
    have hfind : s.holds.find x.holdId = some x := Table.find_eq_some_iff.mpr ⟨hx, rfl⟩
    have hdead : ¬ x.live hold.createdAt = true := fun hlive =>
      hfree ⟨x, h.rows ▸ hx, (SlotHold.live_iff.mp hlive).1, hkey⟩
    simp [hfind, hdead]

/-- A new active hold is placed by both. -/
theorem placed (h : SameHolds p s now) {hold : SlotHold} (htime : hold.createdAt = now)
    (hactive : hold.status = .active) (hfree : ¬ p.Taken hold.conflictKey)
    (hnew : ¬ p.Used hold.holdId) :
    s.placeHold hold = (.placed hold,
        { holds := s.holds.put hold,
          claimed := Function.update s.claimed hold.conflictKey (some hold.holdId) }) ∧
      SameHolds (p.insert hold hfree) (s.placeHold hold).2 now := by
  have hplace : s.placeHold hold = (.placed hold,
      { holds := s.holds.put hold,
        claimed := Function.update s.claimed hold.conflictKey (some hold.holdId) }) := by
    rw [InMemorySlots.placeHold, h.blocking_free hfree]
  have hfresh : ∀ x ∈ s.holds.rows, x.holdId ≠ hold.holdId := fun x hx hid =>
    hnew ⟨x, h.rows ▸ hx, hid⟩
  refine ⟨hplace, ?_, InMemorySlots.owns_placeHold h.owns htime hfresh, ?_⟩
  · rw [hplace]
    change Table.upsert SlotHold.holdId hold s.holds.rows =
      Table.upsert SlotHold.holdId (hold.withStatus .active) p.table.rows
    rw [SlotHold.withStatus_self _ hactive, h.rows]
  · rw [hplace]
    dsimp only
    intro key owner hclaim
    by_cases hkey : key = hold.conflictKey
    · subst hkey
      rw [Function.update_self] at hclaim
      exact ⟨hold, Table.mem_put.mpr (.inl rfl), Option.some.inj hclaim, rfl⟩
    · rw [Function.update_of_ne hkey] at hclaim
      obtain ⟨x, hx, hid, hxkey⟩ := h.keyed key owner hclaim
      exact ⟨x, Table.mem_put.mpr (.inr ⟨hx, hfresh x hx⟩), hid, hxkey⟩

/-! ## Resolving a hold -/

/-- A hold that is active, or has the status already, gets it in both stores. -/
theorem rows_setStatus (s : InMemorySlots) (holdId : String) (status : HoldStatus)
    (hst : ∀ h ∈ s.holds.rows, h.holdId = holdId → h.status = .active ∨ h.status = status) :
    (s.setStatus holdId status).holds.rows =
      s.holds.rows.map (PgSlots.updated (fun h => h.holdId = holdId) status) := by
  unfold InMemorySlots.setStatus
  cases hfind : s.holds.find holdId with
  | none =>
    have hnone := Table.find_eq_none_iff.mp hfind
    refine ((List.map_congr_left fun x hx => ?_).trans (List.map_id' _)).symm
    simp [PgSlots.updated, hnone x hx]
  | some hold =>
    obtain ⟨hmem, rfl⟩ := Table.find_eq_some_iff.mp hfind
    refine (Table.rows_put_of_mem (x := hold.withStatus status) hmem rfl).trans
      (List.map_congr_left fun x hx => ?_)
    by_cases hid : x.holdId = hold.holdId
    · obtain rfl := s.holds.eq_of_key hx hmem hid
      rcases hst x hx rfl with hactive | hsame
      · simp [PgSlots.updated, hactive]
      · simp [PgSlots.updated, SlotHold.withStatus_self _ hsame]
    · simp [PgSlots.updated, hid]

/-- A claim is one of a hold that is still there, in whatever status. -/
theorem keyed_setStatus (h : SameHolds p s now) {holdId : String} {status : HoldStatus}
    {key : String × Int} {owner : String}
    (hclaim : (s.setStatus holdId status).claimed key = some owner) :
    ∃ x ∈ (s.setStatus holdId status).holds.rows, x.holdId = owner ∧ x.conflictKey = key := by
  have hbefore : s.claimed key = some owner := by
    unfold InMemorySlots.setStatus at hclaim
    cases hfind : s.holds.find holdId with
    | none => simpa only [hfind] using hclaim
    | some hold =>
      simp only [hfind] at hclaim
      split at hclaim
      · by_cases hkey : key = hold.conflictKey
        · rw [hkey, Function.update_self] at hclaim
          cases hclaim
        · rwa [Function.update_of_ne hkey] at hclaim
      · exact hclaim
  obtain ⟨x, hx, rfl, rfl⟩ := h.keyed key owner hbefore
  by_cases hid : x.holdId = holdId
  · exact ⟨x.withStatus status, InMemorySlots.mem_setStatus.mpr (.inl ⟨x, hx, hid, rfl⟩), rfl, rfl⟩
  · exact ⟨x, InMemorySlots.mem_setStatus.mpr (.inr ⟨hx, hid⟩), rfl, rfl⟩

/-- Releasing an active hold, or one that was released and whose key is not in use. -/
theorem released (h : SameHolds p s now) {holdId : String}
    (hst : ∀ x ∈ p.table.rows, x.holdId = holdId →
      x.status = .active ∨
        x.status = .released ∧ ∀ y ∈ p.table.rows, y.live now = true →
          y.conflictKey ≠ x.conflictKey) :
    SameHolds (p.setStatus holdId .released (by decide)) (s.setStatus holdId .released) now := by
  refine ⟨?_, ?_, fun _ _ => h.keyed_setStatus⟩
  · rw [rows_setStatus s holdId .released fun x hx hid =>
      (hst x (h.rows ▸ hx) hid).imp id And.left, h.rows]
    rfl
  · refine (InMemorySlots.owns_release_iff h.owns holdId).mpr fun x hx hid y hy hlive hne hkey => ?_
    rcases hst x (h.rows ▸ hx) hid with hactive | ⟨_, hunused⟩
    · have hyx : y = x := h.unique hy hx (SlotHold.live_iff.mp hlive).1 hactive hkey
      exact hne (hyx ▸ hid)
    · exact hunused y (h.rows ▸ hy) hlive hkey

/-- Confirming an active hold, or a confirmed one. -/
theorem confirmed (h : SameHolds p s now) {holdId : String}
    (hst : ∀ x ∈ p.table.rows, x.holdId = holdId → x.status = .active ∨ x.status = .confirmed) :
    SameHolds (p.setStatus holdId .confirmed (by decide)) (s.setStatus holdId .confirmed) now := by
  refine ⟨?_, InMemorySlots.owns_confirm h.owns holdId, fun _ _ => h.keyed_setStatus⟩
  rw [rows_setStatus s holdId .confirmed fun x hx hid => hst x (h.rows ▸ hx) hid, h.rows]
  rfl

/-! ## Sweeping -/

theorem swept_eq_updated (now : Time) (x : SlotHold) :
    InMemorySlots.swept now x = PgSlots.updated (fun h => h.expiresAt ≤ now) .expired x := by
  simp [InMemorySlots.swept, PgSlots.updated, SlotHold.expired, and_comm]

/-- Both sweep the same holds. -/
theorem expired (h : SameHolds p s now) :
    SameHolds (p.expireDue now) (s.expireDue now).2 now := by
  refine ⟨?_, ?_, fun key owner hclaim => ?_⟩
  · change s.holds.rows.map (InMemorySlots.swept now) = p.table.rows.map _
    rw [h.rows]
    exact List.map_congr_left fun x _ => swept_eq_updated now x
  · refine (InMemorySlots.owns_expireDue_iff h.owns).mpr fun x hx hdue y hy hlive hkey => ?_
    have hyx : y = x :=
      h.unique hy hx (SlotHold.live_iff.mp hlive).1 (SlotHold.expired_iff.mp hdue).1 hkey
    exact absurd (SlotHold.live_iff.mp hlive).2
      (Int.not_lt.mpr (hyx ▸ (SlotHold.expired_iff.mp hdue).2))
  · rw [InMemorySlots.claimed_expireDue] at hclaim
    split at hclaim
    · cases hclaim
    · obtain ⟨x, hx, rfl, rfl⟩ := h.keyed key owner hclaim
      refine ⟨InMemorySlots.swept now x, List.mem_map.mpr ⟨x, hx, rfl⟩,
        InMemorySlots.swept_holdId now x, ?_⟩
      unfold InMemorySlots.swept
      split <;> rfl

/-! ## Looking -/

/-- Both find a live hold of the conversation, or neither does. -/
theorem activeHoldFor_agrees (h : SameHolds p s now) {ref : String} {a : SlotAnswer}
    (ha : p.Answers now (.activeHoldFor ref) a) :
    SlotAnswer.Agrees (.found (s.activeHoldFor ref now)) a := by
  unfold InMemorySlots.activeHoldFor
  rw [h.rows]
  cases hfind : p.table.rows.reverse.find? fun x => x.conversationRef = ref && x.live now with
  | none =>
    have hnone : ∀ x ∈ p.table.rows, x.conversationRef = ref → ¬ x.live now = true := by
      simpa using List.find?_eq_none.mp hfind
    cases ha with
    | noneActive _ => rfl
    | active hmem href hlive _ => exact absurd hlive (hnone _ hmem href)
  | some x =>
    have hmem : x ∈ p.table.rows := List.mem_reverse.mp (List.mem_of_find?_eq_some hfind)
    have hx : x.conversationRef = ref ∧ x.live now = true := by
      simpa using List.find?_some hfind
    cases ha with
    | noneActive hnone => exact absurd hx.2 (hnone x hmem hx.1)
    | active _ _ hlive _ =>
      simp only [SlotAnswer.Agrees, Option.map_some, (SlotHold.live_iff.mp hx.2).1,
        (SlotHold.live_iff.mp hlive).1]

end SameHolds

/-! ## Runs -/

/-- **One call.** On a call they agree on, the stores answer alike, and stay the same. -/
theorem stores_step {st : Clocked PgSlots} {mt : Clocked InMemorySlots} {c : SlotCall}
    (h : SameHolds st.store mt.store st.now) (hallows : st.Allows c) (hc : PgSlots.Uniform st c) :
    (∀ a, st.store.Answers c.now c.op a → (mt.store.call c).1.Agrees a) ∧
      SameHolds (PgSlots.step st c).store (InMemorySlots.step mt c).store c.now := by
  obtain ⟨hle, htimely⟩ := hallows
  have hnow : SameHolds st.store mt.store c.now := h.later hle
  obtain ⟨now, op⟩ := c
  cases op with
  | placeHold hold =>
    rcases hc with ⟨x, hx, hlive, hkey, hne⟩ | ⟨hactive, hfree, hnew⟩
    · have htaken : st.store.Taken hold.conflictKey :=
        ⟨x, hx, (SlotHold.live_iff.mp hlive).1, hkey⟩
      have hsame : st.store.placeHold hold = none := dif_pos htaken
      have hblock : mt.store.blocking hold = some x :=
        hnow.blocking_live htimely (hnow.rows ▸ hx) hlive hkey hne
      have hrefuse : mt.store.placeHold hold =
          (.conflict hold.tutorRef hold.slot.startsAt x.holdId, mt.store) := by
        rw [InMemorySlots.placeHold, hblock]
      constructor
      · intro a ha
        simp only [InMemorySlots.call, hrefuse]
        cases ha with
        | placed hkey' _ => exact absurd htaken hkey'
        | conflict _ _ _ => trivial
        | violation hkey' _ => exact absurd htaken hkey'
      · simpa [PgSlots.step, PgSlots.after, InMemorySlots.step, InMemorySlots.call, hsame,
          hrefuse] using hnow
    · obtain ⟨hplace, hafter⟩ := hnow.placed htimely hactive hfree hnew
      have hplaced : st.store.placeHold hold = some (st.store.insert hold hfree) := by
        simp [PgSlots.placeHold, hfree, hnew]
      constructor
      · intro a ha
        simp only [InMemorySlots.call, hplace]
        cases ha with
        | placed _ _ => rfl
        | conflict hmem hact hkey => exact absurd ⟨_, hmem, hact, hkey⟩ hfree
        | violation _ hid => exact absurd hid hnew
      · simp only [PgSlots.step, PgSlots.after, InMemorySlots.step, InMemorySlots.call, hplaced,
          Option.getD_some]
        exact hafter
  | loadHold holdId =>
    refine ⟨fun a ha => ?_, hnow⟩
    cases ha with
    | loaded =>
      simp only [InMemorySlots.call, SlotAnswer.Agrees, Table.find, hnow.rows]
  | activeHoldFor ref => exact ⟨fun a ha => hnow.activeHoldFor_agrees ha, hnow⟩
  | release holdId =>
    refine ⟨fun a ha => ?_, hnow.released hc⟩
    cases ha with
    | released => trivial
  | confirm holdId =>
    refine ⟨fun a ha => ?_, hnow.confirmed hc⟩
    cases ha with
    | confirmed => trivial
  | expireDue =>
    refine ⟨fun a ha => ?_, hnow.expired⟩
    cases ha with
    | expired hperm =>
      change ((List.map _ (mt.store.holds.rows.filter _)).map _).Perm _
      rw [hnow.rows]
      exact (hperm.map SlotHold.status).symm

/-- **Where the two stores agree.** Given the same calls, with time not going back, of which each
is one they agree on, the in-memory store gives the answer PostgreSQL gives, whichever that is:
the same holds are accepted, and those returned have the same statuses. -/
theorem stores_agree (start : Time) (calls : List SlotCall)
    (h : Along PgSlots.step (fun st c => st.Allows c ∧ PgSlots.Uniform st c) ⟨start, {}⟩ calls) :
    Along (fun st c => (PgSlots.step st.1 c, InMemorySlots.step st.2 c))
      (fun st c => ∀ a, st.1.store.Answers c.now c.op a → (st.2.store.call c).1.Agrees a)
      (⟨start, {}⟩, ⟨start, {}⟩) calls := by
  have hstart : SameHolds {} {} start :=
    ⟨rfl, fun _ hx => absurd hx List.not_mem_nil, fun _ _ hclaim => by cases hclaim⟩
  refine Along.simulate (f := PgSlots.step) (g := InMemorySlots.step)
    (s := ⟨start, {}⟩) (t := ⟨start, {}⟩) (R := fun st mt => SameHolds st.store mt.store st.now)
    (A := fun st mt c => ∀ a, st.store.Answers c.now c.op a → (mt.store.call c).1.Agrees a)
    hstart h ?_
  intro st mt c hsame hP
  exact stores_step hsame hP.1 hP.2

/-! ## Where they part -/

/-- It applies to a run that sweeps a hold before the next one is placed. -/
theorem sweptFirst_agrees :
    Along (fun st c => (PgSlots.step st.1 c, InMemorySlots.step st.2 c))
      (fun st c => ∀ a, st.1.store.Answers c.now c.op a → (st.2.store.call c).1.Agrees a)
      (⟨0, {}⟩, ⟨0, {}⟩) InMemorySlots.sweptFirst := by
  refine stores_agree 0 _ ⟨⟨by decide, ?_⟩, ⟨by decide, trivial⟩, ⟨by decide, ?_⟩, trivial⟩
  · exact .inr ⟨rfl, by decide, by decide⟩
  · exact .inr ⟨rfl, by decide, by decide⟩

/-- **The stores part.** A hold has run out and has not been swept: the in-memory store places
another one at the same time, and PostgreSQL refuses it. A hold is confirmed and then released:
the in-memory store has it released, and PostgreSQL confirmed. -/
theorem stores_part :
    ((InMemorySlots.run [⟨0, .placeHold (holdFor "a" 0)⟩]).store.call
        ⟨25 * minute, .placeHold (holdFor "b" (25 * minute))⟩).1 =
      .placed (holdFor "b" (25 * minute)) ∧
    (PgSlots.run [⟨0, .placeHold (holdFor "a" 0)⟩]).store.Answers (25 * minute)
      (.placeHold (holdFor "b" (25 * minute))) (.conflict "t" (10 * hour) "a") ∧
    ((InMemorySlots.run [⟨0, .placeHold (holdFor "a" 0)⟩, ⟨0, .confirm "a"⟩,
        ⟨0, .release "a"⟩]).store.call ⟨0, .loadHold "a"⟩).1 =
      .found (some ((holdFor "a" 0).withStatus .released)) ∧
    (PgSlots.run [⟨0, .placeHold (holdFor "a" 0)⟩, ⟨0, .confirm "a"⟩,
        ⟨0, .release "a"⟩]).store.Answers 0 (.loadHold "a")
      (.found (some ((holdFor "a" 0).withStatus .confirmed))) := by
  refine ⟨by decide, ?_, by decide, ?_⟩
  · exact .conflict (by decide : holdFor "a" 0 ∈ _) rfl rfl
  · exact .loaded "a"

end NxTutors.DemoAgent
