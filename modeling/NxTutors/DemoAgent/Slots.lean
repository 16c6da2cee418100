import NxTutors.DemoAgent.Records
import NxTutors.Store.Table
import Mathlib.Logic.Function.Basic

/-!
# The slot stores

A hold is a claim on one tutor at one time: it is placed, and from then on it is live until it is
released, confirmed, swept as expired, or out of time. A store refuses a hold that is in conflict
with another one. There are two stores, and they decide that in different ways: the in-memory one
asks who owns the claim on the conflict key and whether that hold is live, and PostgreSQL has a
unique index on the key, over the rows whose status is active.
-/

namespace NxTutors.DemoAgent

open Store

/-! ## Calls -/

/-- What a slot store is asked to do. -/
inductive SlotOp
  | placeHold (hold : SlotHold)
  | loadHold (holdId : String)
  | activeHoldFor (conversationRef : String)
  | release (holdId : String)
  | confirm (holdId : String)
  | expireDue
  deriving DecidableEq

/-- A call, at the moment at which it is made. -/
structure SlotCall where
  now : Time
  op : SlotOp
  deriving DecidableEq

/-- A hold is placed at the moment at which it is created. -/
def SlotCall.Timely (c : SlotCall) : Prop :=
  match c.op with
  | .placeHold hold => hold.createdAt = c.now
  | _ => True

instance (c : SlotCall) : Decidable c.Timely :=
  match c with
  | ⟨now, .placeHold hold⟩ => inferInstanceAs (Decidable (hold.createdAt = now))
  | ⟨_, .loadHold _⟩ | ⟨_, .activeHoldFor _⟩ | ⟨_, .release _⟩ | ⟨_, .confirm _⟩
  | ⟨_, .expireDue⟩ => .isTrue trivial

/-- What a slot store answers. -/
inductive SlotAnswer
  | placed (hold : SlotHold)
  | conflict (tutorRef : String) (startsAt : Time) (existingHoldId : String)
  | found (hold : Option SlotHold)
  | expired (holds : List SlotHold)
  | done
  deriving DecidableEq

/-- The holds of a store, by identifier. -/
abbrev Holds : Type := Table SlotHold.holdId

namespace SlotHold

/-- The hold, in another status. -/
def withStatus (h : SlotHold) (status : HoldStatus) : SlotHold := { h with status }

variable (h : SlotHold) (status : HoldStatus)

@[simp] theorem withStatus_holdId : (h.withStatus status).holdId = h.holdId := rfl
@[simp] theorem withStatus_tutorRef : (h.withStatus status).tutorRef = h.tutorRef := rfl
@[simp] theorem withStatus_slot : (h.withStatus status).slot = h.slot := rfl
@[simp] theorem withStatus_status : (h.withStatus status).status = status := rfl
@[simp] theorem withStatus_expiresAt : (h.withStatus status).expiresAt = h.expiresAt := rfl
@[simp] theorem withStatus_conflictKey :
    (h.withStatus status).conflictKey = h.conflictKey := rfl

theorem withStatus_self {h : SlotHold} (hs : h.status = status) : h.withStatus status = h := by
  subst hs
  rfl

variable {h} {now now' : Time}

theorem live_iff : h.live now = true ↔ h.status = .active ∧ now < h.expiresAt := by
  simp [live]

theorem expired_iff : h.expired now = true ↔ h.status = .active ∧ h.expiresAt ≤ now := by
  simp [expired]

/-- What is live later was live before. -/
theorem live_of_le (hlive : h.live now' = true) (hle : now ≤ now') : h.live now = true := by
  rw [live_iff] at hlive ⊢
  exact ⟨hlive.1, hle.trans_lt hlive.2⟩

/-- Only an active hold is live. -/
theorem not_live_withStatus (hne : status ≠ .active) : ¬ (h.withStatus status).live now = true :=
  fun hlive => hne (live_iff.mp hlive).1

/-- A hold is live when it is created. -/
theorem live_createdAt (hs : h.status = .active) : h.live h.createdAt = true :=
  live_iff.mpr ⟨hs, h.ordered⟩

end SlotHold

/-! ## In memory -/

/-- `InMemorySlotRepository`: the holds, and who claimed each conflict key. -/
structure InMemorySlots where
  holds : Holds := .empty
  claimed : String × Int → Option String := fun _ => none

namespace InMemorySlots

/-- The hold that is in conflict with the new one: the owner of its key, if that is another one
and still live. A released or expired claim is not a conflict. -/
def blocking (s : InMemorySlots) (hold : SlotHold) : Option SlotHold :=
  match s.claimed hold.conflictKey with
  | none => none
  | some owner =>
    if owner = hold.holdId then none
    else (s.holds.find owner).filter fun existing => existing.live hold.createdAt

def placeHold (s : InMemorySlots) (hold : SlotHold) : SlotAnswer × InMemorySlots :=
  match s.blocking hold with
  | some existing => (.conflict hold.tutorRef hold.slot.startsAt existing.holdId, s)
  | none =>
    (.placed hold,
      { holds := s.holds.put hold,
        claimed := Function.update s.claimed hold.conflictKey (some hold.holdId) })

/-- The hold inserted last among those of the conversation that are live. -/
def activeHoldFor (s : InMemorySlots) (conversationRef : String) (now : Time) : Option SlotHold :=
  s.holds.rows.reverse.find? fun h => h.conversationRef = conversationRef && h.live now

/-- `_set_status`: whatever status the hold had. -/
def setStatus (s : InMemorySlots) (holdId : String) (status : HoldStatus) : InMemorySlots :=
  match s.holds.find holdId with
  | none => s
  | some hold =>
    { holds := s.holds.put (hold.withStatus status),
      claimed :=
        if status = .released ∨ status = .expired then
          Function.update s.claimed hold.conflictKey none
        else s.claimed }

/-- The hold as the sweep leaves it. -/
def swept (now : Time) (h : SlotHold) : SlotHold :=
  if h.expired now then h.withStatus .expired else h

theorem swept_holdId (now : Time) (h : SlotHold) : (swept now h).holdId = h.holdId := by
  unfold swept
  split <;> rfl

/-- Those whose time is up are marked, and their keys are given up. -/
def expireDue (s : InMemorySlots) (now : Time) : SlotAnswer × InMemorySlots :=
  let due := s.holds.rows.filter fun h => h.expired now
  (.expired (due.map fun h => h.withStatus .expired),
    { holds := s.holds.map (swept now) (swept_holdId now),
      claimed := fun key =>
        if due.any fun h => h.conflictKey = key then none else s.claimed key })

/-- What the store does with a call. -/
def call (s : InMemorySlots) (c : SlotCall) : SlotAnswer × InMemorySlots :=
  match c.op with
  | .placeHold hold => s.placeHold hold
  | .loadHold holdId => (.found (s.holds.find holdId), s)
  | .activeHoldFor ref => (.found (s.activeHoldFor ref c.now), s)
  | .release holdId => (.done, s.setStatus holdId .released)
  | .confirm holdId => (.done, s.setStatus holdId .confirmed)
  | .expireDue => s.expireDue c.now

end InMemorySlots

/-! ## PostgreSQL -/

/-- `dcc_slot_holds`, with its partial unique index: no two rows that are active have the same
conflict key. -/
structure PgSlots where
  table : Holds := .empty
  /-- `dcc_slot_holds_active_uidx` -/
  unique : ∀ a ∈ table.rows, ∀ b ∈ table.rows, a.status = .active → b.status = .active →
    a.conflictKey = b.conflictKey → a = b := by simp

namespace PgSlots

/-- An active row has the key. -/
def Taken (s : PgSlots) (key : String × Int) : Prop :=
  ∃ a ∈ s.table.rows, a.status = .active ∧ a.conflictKey = key

instance (s : PgSlots) (key : String × Int) : Decidable (s.Taken key) :=
  inferInstanceAs (Decidable (∃ a ∈ s.table.rows, a.status = .active ∧ a.conflictKey = key))

/-- A row has the identifier. -/
def Used (s : PgSlots) (holdId : String) : Prop := ∃ a ∈ s.table.rows, a.holdId = holdId

instance (s : PgSlots) (holdId : String) : Decidable (s.Used holdId) :=
  inferInstanceAs (Decidable (∃ a ∈ s.table.rows, a.holdId = holdId))

/-- The table with a row more, which is active whatever the hold says. -/
def insert (s : PgSlots) (hold : SlotHold) (hfree : ¬ s.Taken hold.conflictKey) : PgSlots where
  table := s.table.put (hold.withStatus .active)
  unique := by
    intro a ha b hb hact hbct hkey
    rcases Table.mem_put.mp ha with rfl | ⟨ha, _⟩ <;> rcases Table.mem_put.mp hb with rfl | ⟨hb, _⟩
    · rfl
    · exact absurd ⟨b, hb, hbct, hkey.symm⟩ hfree
    · exact absurd ⟨a, ha, hact, hkey⟩ hfree
    · exact s.unique a ha b hb hact hbct hkey

/-- The index excludes: an insert that conflicts on the key does nothing, and one that conflicts
on the identifier fails. -/
def placeHold (s : PgSlots) (hold : SlotHold) : Option PgSlots :=
  if hkey : s.Taken hold.conflictKey then none
  else if s.Used hold.holdId then none
  else some (s.insert hold hkey)

/-- `UPDATE dcc_slot_holds SET status WHERE .. AND status = 'active'`, of a row. -/
def updated (which : SlotHold → Bool) (status : HoldStatus) (h : SlotHold) : SlotHold :=
  if which h && h.status = .active then h.withStatus status else h

theorem updated_holdId (which : SlotHold → Bool) (status : HoldStatus) (h : SlotHold) :
    (updated which status h).holdId = h.holdId := by
  unfold updated
  split <;> rfl

/-- A row that is active after an update to another status is as it was. -/
theorem updated_eq {which : SlotHold → Bool} {status : HoldStatus} {h : SlotHold}
    (hne : status ≠ .active) (hs : (updated which status h).status = .active) :
    updated which status h = h := by
  unfold updated at hs ⊢
  split
  · rename_i hif
    rw [if_pos hif] at hs
    exact absurd hs hne
  · rfl

/-- The table after such an update. -/
def update (s : PgSlots) (which : SlotHold → Bool) (status : HoldStatus)
    (hne : status ≠ .active) : PgSlots where
  table := s.table.map (updated which status) (updated_holdId which status)
  unique := by
    intro a ha b hb hact hbct hkey
    obtain ⟨a', ha', rfl⟩ := Table.mem_map.mp ha
    obtain ⟨b', hb', rfl⟩ := Table.mem_map.mp hb
    have haeq : updated which status a' = a' := updated_eq hne hact
    have hbeq : updated which status b' = b' := updated_eq hne hbct
    rw [haeq] at hact hkey ⊢
    rw [hbeq] at hbct hkey ⊢
    exact s.unique a' ha' b' hb' hact hbct hkey

/-- `_set_status`: of an active row. -/
def setStatus (s : PgSlots) (holdId : String) (status : HoldStatus) (hne : status ≠ .active) :
    PgSlots := s.update (fun h => h.holdId = holdId) status hne

/-- The rows whose time is up. -/
def due (s : PgSlots) (now : Time) : List SlotHold :=
  s.table.rows.filter fun h => h.expired now

def expireDue (s : PgSlots) (now : Time) : PgSlots :=
  s.update (fun h => h.expiresAt ≤ now) .expired (by decide)

/-- What a call leaves. -/
def after (s : PgSlots) (c : SlotCall) : PgSlots :=
  match c.op with
  | .placeHold hold => (s.placeHold hold).getD s
  | .loadHold _ | .activeHoldFor _ => s
  | .release holdId => s.setStatus holdId .released (by decide)
  | .confirm holdId => s.setStatus holdId .confirmed (by decide)
  | .expireDue => s.expireDue c.now

/-- What a call may answer. Rows come back from an update in any order, and among the live holds
of a conversation that were created last, any may be the first. -/
inductive Answers (s : PgSlots) (now : Time) : SlotOp → SlotAnswer → Prop
  | placed {hold : SlotHold} (hkey : ¬ s.Taken hold.conflictKey) (hid : ¬ s.Used hold.holdId) :
    Answers s now (.placeHold hold) (.placed hold)
  | conflict {hold existing : SlotHold} (hmem : existing ∈ s.table.rows)
      (hactive : existing.status = .active) (hkey : existing.conflictKey = hold.conflictKey) :
    Answers s now (.placeHold hold)
      (.conflict hold.tutorRef hold.slot.startsAt existing.holdId)
  | violation {hold : SlotHold} (hkey : ¬ s.Taken hold.conflictKey) (hid : s.Used hold.holdId) :
    Answers s now (.placeHold hold) (.conflict hold.tutorRef hold.slot.startsAt "")
  | loaded (holdId : String) : Answers s now (.loadHold holdId) (.found (s.table.find holdId))
  | noneActive {ref : String}
      (hnone : ∀ h ∈ s.table.rows, h.conversationRef = ref → ¬ h.live now = true) :
    Answers s now (.activeHoldFor ref) (.found none)
  | active {ref : String} {hold : SlotHold} (hmem : hold ∈ s.table.rows)
      (href : hold.conversationRef = ref) (hlive : hold.live now = true)
      (hlast : ∀ h ∈ s.table.rows, h.conversationRef = ref → h.live now = true →
        h.createdAt ≤ hold.createdAt) :
    Answers s now (.activeHoldFor ref) (.found (some hold))
  | released (holdId : String) : Answers s now (.release holdId) .done
  | confirmed (holdId : String) : Answers s now (.confirm holdId) .done
  | expired {holds : List SlotHold}
      (hperm : holds.Perm ((s.due now).map fun h => h.withStatus .expired)) :
    Answers s now .expireDue (.expired holds)

end PgSlots

/-! ## Runs -/

/-- A store, and the time of the last call. -/
structure Clocked (σ : Type) where
  now : Time
  store : σ

/-- A call may come next: time does not go back, and a hold is placed when it is created. -/
def Clocked.Allows {σ : Type} (st : Clocked σ) (c : SlotCall) : Prop :=
  st.now ≤ c.now ∧ c.Timely

instance {σ : Type} (st : Clocked σ) (c : SlotCall) : Decidable (st.Allows c) :=
  inferInstanceAs (Decidable (st.now ≤ c.now ∧ c.Timely))

/-- The in-memory store takes a call. -/
def InMemorySlots.step (st : Clocked InMemorySlots) (c : SlotCall) : Clocked InMemorySlots :=
  ⟨c.now, (st.store.call c).2⟩

/-- PostgreSQL takes a call. -/
def PgSlots.step (st : Clocked PgSlots) (c : SlotCall) : Clocked PgSlots :=
  ⟨c.now, st.store.after c⟩

/-- How long a hold survives without being confirmed. -/
def DEFAULT_HOLD_TTL : Time := 20 * minute

/-- `new_hold`. -/
def newHold (holdId conversationRef tutorRef : String) (slot : TimeSlot) (mode : DemoMode)
    (now : Time) : SlotHold where
  holdId := holdId
  conversationRef := conversationRef
  tutorRef := tutorRef
  slot := slot
  mode := mode
  createdAt := now
  expiresAt := now + DEFAULT_HOLD_TTL
  ordered := Int.lt_add_of_pos_right now (by decide)

/-- A hold on the tutor `t` at one fixed time, for a conversation of its own. -/
def holdFor (holdId : String) (now : Time) : SlotHold :=
  newHold holdId holdId "t" { startsAt := 10 * hour } .online now

end NxTutors.DemoAgent
