import NxTutors.MatchAgent.Stores
import NxTutors.Effect.Path
import NxTutors.Effect.Steps
import NxTutors.Store.Ledger

/-!
# Stored histories

Workers load a conversation, fire triggers at what they have loaded, and save it under the version
that they have loaded. The transitions that were saved are the ledger they keep. Whatever the order,
who saves has read the whole of it, and it leads from a new conversation to the one that is stored,
in memory and in Postgres.

The row holds the last transitions too. In memory it always does. The row in Postgres is rebuilt
from its columns without them, so what is saved on top of it holds the transitions of one worker
only: they are the last ones if nothing came before, or if the worker has made twenty
(`histories_kept_iff`).
-/

namespace NxTutors.MatchAgent

open Effect Store

/-- A row of the transition table, taken. -/
def TransitionRecord.Takes (a : ConversationState) (r : TransitionRecord) (b : ConversationState) :
    Prop := r.stateBefore = a ∧ r.stateAfter = b ∧ nextState a r.trigger = some b

namespace ConversationSnapshot

variable {s : ConversationSnapshot} {trigger : Trigger} {now : Time} {traceId : String}

/-- What `try_transition` adds to the history. -/
def recorded (s : ConversationSnapshot) (trigger : Trigger) (now : Time) (traceId : String) :
    List TransitionRecord :=
  (nextState s.state trigger).toList.map fun target => ⟨s.state, target, trigger, now, traceId⟩

theorem fired_lockVersion : (s.fired trigger now traceId).lockVersion =
    s.lockVersion + (s.recorded trigger now traceId).length := by
  unfold fired tryTransition recorded
  cases nextState s.state trigger <;> rfl

theorem fired_history (h : s.history.length ≤ 40) :
    (s.fired trigger now traceId).history =
      lastN 40 (s.history ++ s.recorded trigger now traceId) := by
  unfold fired tryTransition recorded
  cases nextState s.state trigger with
  | none =>
    rw [Option.toList_none, List.map_nil, List.append_nil, lastN_of_length_le h]
  | some target => rfl

theorem path_recorded : Path TransitionRecord.Takes s.state (s.recorded trigger now traceId)
    (s.fired trigger now traceId).state := by
  unfold recorded fired tryTransition
  cases hnext : nextState s.state trigger with
  | none => exact .nil
  | some target => exact .snoc .nil ⟨rfl, rfl, hnext⟩

end ConversationSnapshot

/-! ## The stores -/

/-- A store of conversations. -/
structure SnapshotStore (σ : Type) where
  empty : σ
  load : σ → String → ConversationSnapshot
  save : σ → ConversationSnapshot → Nat → Except Fault Unit × σ
  /-- the history that is stored -/
  history : σ → String → List TransitionRecord
  /-- how many transitions a history holds -/
  limit : Nat

/-- `InMemoryConversationStore`: the snapshot is kept as it is. -/
def inMemory : SnapshotStore World where
  empty := .fresh
  load := World.load
  save := World.saveState
  history w conversationId := (w.load conversationId).history
  limit := 40

structure ConversationStateRow where
  conversationId : String
  state : ConversationState
  lockVersion : Nat
  turnCount : Nat
  history : List TransitionRecord
  deriving DecidableEq

namespace PostgresConversationStore

abbrev Rows := Table ConversationStateRow.conversationId

/-- `PostgresConversationStore.load`: the history is not read. -/
def load (t : Rows) (conversationId : String) : ConversationSnapshot :=
  match t.find conversationId with
  | none => { conversationId }
  | some row =>
    { conversationId := row.conversationId
      state := row.state
      lockVersion := row.lockVersion
      turnCount := row.turnCount }

/-- The columns of a snapshot. -/
def row (snapshot : ConversationSnapshot) : ConversationStateRow where
  conversationId := snapshot.conversationId
  state := snapshot.state
  lockVersion := snapshot.lockVersion
  turnCount := snapshot.turnCount
  history := lastN 20 snapshot.history

/-- `PostgresConversationStore.save`. -/
def save (t : Rows) (snapshot : ConversationSnapshot) (expectedVersion : Nat) :
    Except Fault Unit × Rows :=
  let stored := t.find snapshot.conversationId
  if expectedVersion = 0 then
    -- INSERT … ON CONFLICT DO NOTHING
    if stored.isSome then (.error .optimisticLock, t) else (.ok (), t.put (row snapshot))
  else
    -- UPDATE … WHERE lock_version = expected_version
    if stored.any (·.lockVersion = expectedVersion) then (.ok (), t.put (row snapshot))
    else (.error .optimisticLock, t)

end PostgresConversationStore

def postgres : SnapshotStore PostgresConversationStore.Rows where
  empty := .empty
  load := PostgresConversationStore.load
  save := PostgresConversationStore.save
  history t conversationId :=
    ((t.find conversationId).map ConversationStateRow.history).getD []
  limit := 20

/-! ## Workers on one conversation -/

/-- What a worker has in hand. -/
structure Hand where
  expectedVersion : Nat
  snapshot : ConversationSnapshot

/-- The store, what the workers have in hand, and the ledger of what was saved. -/
structure Joint (σ : Type) where
  store : σ
  hands : Nat → Option Hand := fun _ => none
  ledger : Ledger TransitionRecord := {}

inductive Doing
  | load (i : Nat)
  | fire (i : Nat) (trigger : Trigger) (now : Time) (traceId : String)
  | save (i : Nat)

/-- Fire a trigger at what is in hand. -/
def Hand.fire (h : Hand) (trigger : Trigger) (now : Time) (traceId : String) : Hand :=
  { h with snapshot := h.snapshot.fired trigger now traceId }

namespace SnapshotStore

variable {σ : Type} (S : SnapshotStore σ) (conversationId : String)

def start : Joint σ := { store := S.empty }

/-- A worker has loaded the conversation. -/
def loaded (s : Joint σ) (i : Nat) : Joint σ :=
  let snapshot := S.load s.store conversationId
  { s with
    hands := Function.update s.hands i (some ⟨snapshot.lockVersion, snapshot⟩)
    ledger := s.ledger.consult i }

/-- A worker has saved, or has failed to. -/
def saved (s : Joint σ) (i : Nat) (h : Hand) : Joint σ :=
  match S.save s.store h.snapshot h.expectedVersion with
  | (.ok _, store) => { s with store, ledger := s.ledger.commit i }
  | (.error _, store) => { s with store }

def step (s : Joint σ) : Doing → Joint σ
  | .load i => S.loaded conversationId s i
  | .fire i trigger now traceId =>
    match s.hands i with
    | none => s
    | some h =>
      { s with
        hands := Function.update s.hands i (some (h.fire trigger now traceId))
        ledger := s.ledger.note i (h.snapshot.recorded trigger now traceId) }
  | .save i =>
    match s.hands i with
    | none => s
    | some h => S.saved s i h

variable {S} {s : Joint σ} {i : Nat} {h : Hand} {store : σ}

theorem saved_of_ok (hsave : S.save s.store h.snapshot h.expectedVersion = (.ok (), store)) :
    S.saved s i h = { s with store, ledger := s.ledger.commit i } := by
  rw [saved, hsave]

theorem saved_of_error {f : Fault}
    (hsave : S.save s.store h.snapshot h.expectedVersion = (.error f, store)) :
    S.saved s i h = { s with store } := by
  rw [saved, hsave]

variable (S)

/-- **What is stored is lineal**: the saved transitions lead from a new conversation to the stored
one, and whoever may save has read all of them. -/
structure Lineal (s : Joint σ) : Prop where
  path : Path TransitionRecord.Takes .new s.ledger.log (S.load s.store conversationId).state
  read : ∀ i h, s.hands i = some h → (S.save s.store h.snapshot h.expectedVersion).1 = .ok () →
    ∃ d, s.ledger.drafts i = some d ∧ d.read = s.ledger.log

/-- The stored history is the end of what was saved. -/
def Recorded (s : Joint σ) : Prop :=
  S.history s.store conversationId = lastN S.limit s.ledger.log

/-- **A history is kept**: it is lineal, and its end is stored. -/
def Historical (s : Joint σ) : Prop :=
  S.Lineal conversationId s ∧ S.Recorded conversationId s

end SnapshotStore

/-! ## Both stores compare versions -/

/-- What a load knows of a history. -/
def known (remembers : Bool) (records : List TransitionRecord) : List TransitionRecord :=
  if remembers then records else []

/-- A store saves what is loaded from it, under the version that it has. -/
structure SnapshotStore.Locks {σ : Type} (S : SnapshotStore σ) (remembers : Bool) : Prop where
  load_empty : ∀ c, S.load S.empty c = { conversationId := c }
  of_save : ∀ {w w' : σ} {x : ConversationSnapshot} {n : Nat} {out : Except Fault Unit},
    S.save w x n = (out, w') → (out = .ok () ∧ (S.load w x.conversationId).lockVersion = n ∧
      S.load w' x.conversationId = { x with history := known remembers x.history }) ∨
      (out = .error .optimisticLock ∧ w' = w)

theorem inMemory_locks : inMemory.Locks true where
  load_empty _ := rfl
  of_save := by
    intro w w' x n out h
    change w.saveState x n = _ at h
    unfold World.saveState at h
    split at h
    · rename_i hversion
      cases h
      exact .inl ⟨rfl, (w.version_eq_load x.conversationId).symm.trans hversion, w.load_saved x⟩
    · cases h
      exact .inr ⟨rfl, rfl⟩

namespace PostgresConversationStore

variable {t : Rows} {x : ConversationSnapshot} {n : Nat}

theorem load_put : load (t.put (row x)) x.conversationId = { x with history := [] } := by
  have hfind : (t.put (row x)).find x.conversationId = some (row x) := by
    rw [Table.find_put]
    exact if_pos rfl
  rw [load, hfind]
  rfl

theorem history_put : postgres.history (t.put (row x)) x.conversationId = lastN 20 x.history := by
  have hfind : (t.put (row x)).find x.conversationId = some (row x) := by
    rw [Table.find_put]
    exact if_pos rfl
  change ((Table.find _ _).map _).getD [] = _
  rw [hfind]
  rfl

/-- The version that a load hands out. -/
theorem load_lockVersion (c : String) :
    (load t c).lockVersion = ((t.find c).map ConversationStateRow.lockVersion).getD 0 := by
  unfold load
  cases t.find c <;> rfl

/-- **What a save does**: nothing, or it puts the row, and then the version was the one that was
loaded. -/
theorem save_cases : (save t x n = (.ok (), t.put (row x)) ∧ (load t x.conversationId).lockVersion = n) ∨
    (save t x n = (.error .optimisticLock, t) ∧
      ((load t x.conversationId).lockVersion = n → n = 0)) := by
  rw [load_lockVersion]
  unfold save
  by_cases hn : n = 0
  · rw [if_pos hn]
    cases t.find x.conversationId with
    | none => exact .inl ⟨rfl, hn.symm⟩
    | some r => exact .inr ⟨rfl, fun _ => hn⟩
  · rw [if_neg hn]
    cases t.find x.conversationId with
    | none => exact .inr ⟨rfl, fun h => h.symm⟩
    | some r =>
      by_cases hr : r.lockVersion = n
      · exact .inl ⟨if_pos (decide_eq_true hr), hr⟩
      · exact .inr ⟨if_neg fun h => hr (of_decide_eq_true h), fun h => absurd h hr⟩

end PostgresConversationStore

theorem postgres_locks : postgres.Locks false where
  load_empty _ := rfl
  of_save := by
    intro w w' x n out h
    change PostgresConversationStore.save w x n = _ at h
    rcases PostgresConversationStore.save_cases (t := w) (x := x) (n := n) with ⟨hs, hn⟩ | ⟨hs, -⟩
    · rw [hs] at h
      cases h
      exact .inl ⟨rfl, hn, PostgresConversationStore.load_put⟩
    · rw [hs] at h
      cases h
      exact .inr ⟨rfl, rfl⟩

/-! ## What is in hand -/

/-- **What a worker has in hand** is what it has read, and what it has added to it. -/
structure InHand (remembers : Bool) (c : String) (h : Hand) (d : Draft TransitionRecord) : Prop where
  expected : h.expectedVersion = d.read.length
  version : h.snapshot.lockVersion = d.read.length + d.added.length
  named : h.snapshot.conversationId = c
  path : Path TransitionRecord.Takes .new (d.read ++ d.added) h.snapshot.state
  history : h.snapshot.history = lastN 40 (known remembers d.read ++ d.added)

section Hands

variable {remembers : Bool} {c : String} {h : Hand} {d : Draft TransitionRecord} {trigger : Trigger}
  {now : Time} {traceId : String}

theorem InHand.fire (hd : InHand remembers c h d) : InHand remembers c (h.fire trigger now traceId)
    { d with added := d.added ++ h.snapshot.recorded trigger now traceId } where
  expected := hd.expected
  version := by
    change (h.snapshot.fired trigger now traceId).lockVersion = _
    rw [ConversationSnapshot.fired_lockVersion, hd.version, List.length_append, Nat.add_assoc]
  named := ConversationSnapshot.fired_conversationId.trans hd.named
  path := by
    rw [← List.append_assoc]
    exact hd.path.trans ConversationSnapshot.path_recorded
  history := by
    have hshort : h.snapshot.history.length ≤ 40 := by
      rw [hd.history, length_lastN]
      exact Nat.min_le_left ..
    change (h.snapshot.fired trigger now traceId).history = _
    rw [ConversationSnapshot.fired_history hshort, hd.history, lastN_lastN_append (Nat.le_refl 40),
      List.append_assoc]

/-- What is saved is what the next one has in hand. -/
theorem InHand.stored {snapshot : ConversationSnapshot} (hd : InHand remembers c h d)
    (hsnapshot : snapshot = { h.snapshot with history := known remembers h.snapshot.history }) :
    InHand remembers c ⟨snapshot.lockVersion, snapshot⟩ { read := d.read ++ d.added } where
  expected := by
    rw [hsnapshot, List.length_append]
    exact hd.version
  version := by
    rw [hsnapshot, List.length_append]
    exact hd.version
  named := by
    rw [hsnapshot]
    exact hd.named
  path := by
    rw [hsnapshot, List.append_nil]
    exact hd.path
  history := by
    rw [hsnapshot, List.append_nil]
    change known remembers h.snapshot.history = _
    rw [hd.history]
    cases remembers <;> rfl

end Hands

/-! ## Whatever the order -/

/-- **The stored conversation and all that is in hand** are what the ledger says. -/
structure Orderly {σ : Type} (S : SnapshotStore σ) (remembers : Bool) (c : String) (s : Joint σ) :
    Prop where
  read : s.ledger.Read
  stored : InHand remembers c ⟨(S.load s.store c).lockVersion, S.load s.store c⟩
    { read := s.ledger.log }
  hands : ∀ i h, s.hands i = some h → ∃ d, s.ledger.drafts i = some d ∧ InHand remembers c h d

section Orders

variable {σ : Type} {S : SnapshotStore σ} {remembers : Bool} {c : String} {s : Joint σ}

theorem orderly_start (hS : S.Locks remembers) : Orderly S remembers c S.start where
  read := Ledger.read_empty
  stored := by
    change InHand remembers c ⟨(S.load S.empty c).lockVersion, S.load S.empty c⟩ { read := [] }
    rw [hS.load_empty]
    exact ⟨rfl, rfl, rfl, .nil, by cases remembers <;> rfl⟩
  hands := nofun

/-- One worker has something else in hand, and its draft says so. -/
theorem Orderly.update {i : Nat} {new : Hand} {draft : Draft TransitionRecord}
    {ledger : Ledger TransitionRecord} (hs : Orderly S remembers c s)
    (hself : ledger.drafts i = some draft) (hother : ∀ j ≠ i, ledger.drafts j = s.ledger.drafts j)
    (hnew : InHand remembers c new draft) (j : Nat) (h : Hand)
    (hj : Function.update s.hands i (some new) j = some h) :
    ∃ d, ledger.drafts j = some d ∧ InHand remembers c h d := by
  by_cases hji : j = i
  · subst hji
    rw [Function.update_self] at hj
    cases hj
    exact ⟨draft, hself, hnew⟩
  · rw [Function.update_of_ne hji] at hj
    obtain ⟨d, hd, hin⟩ := hs.hands j h hj
    exact ⟨d, (hother j hji).trans hd, hin⟩

theorem Orderly.loaded {i : Nat} (hs : Orderly S remembers c s) :
    Orderly S remembers c (S.loaded c s i) where
  read := hs.read.consult
  stored := hs.stored
  hands := hs.update Ledger.drafts_consult_self (fun _ => Ledger.drafts_consult_of_ne) hs.stored

theorem Orderly.fired {i : Nat} {trigger : Trigger} {now : Time} {traceId : String}
    (hs : Orderly S remembers c s) :
    Orderly S remembers c (S.step c s (.fire i trigger now traceId)) := by
  cases hi : s.hands i with
  | none =>
    rw [SnapshotStore.step, hi]
    exact hs
  | some h =>
    rw [SnapshotStore.step, hi]
    obtain ⟨d, hd, hin⟩ := hs.hands i h hi
    have hdraft : (s.ledger.note i (h.snapshot.recorded trigger now traceId)).drafts i = _ :=
      Ledger.drafts_note_self
    rw [hd, Option.map_some] at hdraft
    exact ⟨hs.read.note, hs.stored,
      hs.update hdraft (fun _ => Ledger.drafts_note_of_ne) hin.fire⟩

/-- Who has loaded the version that is stored has read everything. -/
theorem Orderly.current {i : Nat} {h : Hand} {d : Draft TransitionRecord}
    (hs : Orderly S remembers c s) (hd : s.ledger.drafts i = some d) (hin : InHand remembers c h d)
    (hversion : (S.load s.store c).lockVersion = h.expectedVersion) : d.read = s.ledger.log :=
  hs.read.all hd (hin.expected.symm.trans (hversion.symm.trans hs.stored.expected))

theorem Orderly.saved {i : Nat} {h : Hand} (hS : S.Locks remembers)
    (hs : Orderly S remembers c s) (hi : s.hands i = some h) :
    Orderly S remembers c (S.saved s i h) := by
  obtain ⟨d, hd, hin⟩ := hs.hands i h hi
  cases hsave : S.save s.store h.snapshot h.expectedVersion with
  | mk out store =>
    rcases hS.of_save hsave with ⟨rfl, hversion, hload⟩ | ⟨rfl, rfl⟩
    · rw [hin.named] at hversion
      have hstored := hin.stored hload
      rw [hin.named, hs.current hd hin hversion, ← Ledger.log_commit hd] at hstored
      rw [SnapshotStore.saved_of_ok hsave]
      exact ⟨hs.read.commit, hstored, hs.hands⟩
    · rw [SnapshotStore.saved_of_error hsave]
      exact hs

theorem Orderly.step (hS : S.Locks remembers) (doing : Doing) (hs : Orderly S remembers c s) :
    Orderly S remembers c (S.step c s doing) := by
  cases doing with
  | load i => exact hs.loaded
  | fire i trigger now traceId => exact hs.fired
  | save i =>
    rw [SnapshotStore.step]
    cases hi : s.hands i with
    | none => exact hs
    | some h => exact hs.saved hS hi

/-- **Who may save has read everything**, and what was saved leads to what is stored. -/
theorem Orderly.lineal (hS : S.Locks remembers) (hs : Orderly S remembers c s) : S.Lineal c s where
  path := by
    have hpath := hs.stored.path
    rwa [List.append_nil] at hpath
  read i h hi hok := by
    obtain ⟨d, hd, hin⟩ := hs.hands i h hi
    refine ⟨d, hd, ?_⟩
    rcases hS.of_save (Prod.mk.eta (p := S.save s.store h.snapshot h.expectedVersion)).symm
      with ⟨-, hversion, -⟩ | ⟨herror, -⟩
    · rw [hin.named] at hversion
      exact hs.current hd hin hversion
    · rw [herror] at hok
      cases hok

theorem orderly_throughout (hS : S.Locks remembers) (doings : List Doing) :
    Throughout (S.step c) (Orderly S remembers c) S.start doings :=
  .of_along (orderly_start hS) (.of_forall fun _ _ => trivial) fun _ doing hs _ => hs.step hS doing

end Orders

/-! ## The end of the ledger -/

section Ends

variable {c : String} {i : Nat} {h : Hand} {d : Draft TransitionRecord}

theorem recorded_inMemory {s : Joint World} (hs : Orderly inMemory true c s) :
    inMemory.Recorded c s := by
  have hhistory := hs.stored.history
  rwa [List.append_nil] at hhistory

variable {s : Joint PostgresConversationStore.Rows}

/-- **A save keeps the end**: a worker that saves on top of what is stored has loaded a new
conversation, or has made twenty transitions since. -/
def Whole (c : String) (s : Joint PostgresConversationStore.Rows) : Doing → Prop
  | .save i => ∀ h, s.hands i = some h →
      (PostgresConversationStore.load s.store c).lockVersion = h.expectedVersion →
      h.expectedVersion = 0 ∨ h.expectedVersion + 20 ≤ h.snapshot.lockVersion
  | _ => True

/-- What Postgres has stored after a save: the transitions of the worker. -/
theorem history_saved (hin : InHand false c h d) :
    postgres.history (s.store.put (PostgresConversationStore.row h.snapshot)) c =
      lastN 20 d.added := by
  rw [← hin.named, PostgresConversationStore.history_put, hin.history]
  exact lastN_lastN (by omega)

/-- They are the end of the ledger if nothing came before, or if they are enough. -/
theorem recorded_saved (hs : Orderly postgres false c s) (hrecorded : postgres.Recorded c s)
    (hi : s.hands i = some h) :
    postgres.Recorded c (postgres.saved s i h) ↔ Whole c s (.save i) := by
  obtain ⟨d, hd, hin⟩ := hs.hands i h hi
  have hwhole : Whole c s (.save i) ↔
      ((PostgresConversationStore.load s.store c).lockVersion = h.expectedVersion →
        h.expectedVersion = 0 ∨ h.expectedVersion + 20 ≤ h.snapshot.lockVersion) := by
    constructor
    · intro hall
      exact hall h hi
    · rintro hone h' hi'
      cases hi.symm.trans hi'
      exact hone
  rw [hwhole]
  rcases PostgresConversationStore.save_cases (t := s.store) (x := h.snapshot)
    (n := h.expectedVersion) with ⟨hsave, hversion⟩ | ⟨hsave, hversion⟩
  · rw [hin.named] at hversion
    have hread : d.read = s.ledger.log := hs.current hd hin hversion
    rw [SnapshotStore.saved_of_ok (S := postgres) hsave, SnapshotStore.Recorded, Ledger.log_commit hd, history_saved hin]
    calc lastN 20 d.added = lastN 20 (s.ledger.log ++ d.added)
        ↔ s.ledger.log = [] ∨ 20 ≤ d.added.length := lastN_append_iff
      _ ↔ h.expectedVersion = 0 ∨ h.expectedVersion + 20 ≤ h.snapshot.lockVersion := by
        rw [← hread, hin.expected, hin.version, List.length_eq_zero_iff, Nat.add_le_add_iff_left]
      _ ↔ _ := ⟨fun hor _ => hor, fun himp => himp hversion⟩
  · rw [hin.named] at hversion
    rw [SnapshotStore.saved_of_error (S := postgres) hsave]
    exact ⟨fun _ hv => .inl (hversion hv), fun _ => hrecorded⟩

theorem recorded_step (hs : Orderly postgres false c s) (hrecorded : postgres.Recorded c s)
    (doing : Doing) : postgres.Recorded c (postgres.step c s doing) ↔ Whole c s doing := by
  cases doing with
  | load i => exact iff_of_true hrecorded trivial
  | fire i trigger now traceId =>
    refine iff_of_true ?_ trivial
    rw [SnapshotStore.step]
    cases s.hands i with
    | none => exact hrecorded
    | some h => exact hrecorded
  | save i =>
    rw [SnapshotStore.step]
    cases hi : s.hands i with
    | none =>
      refine iff_of_true hrecorded ?_
      intro h hh
      rw [hi] at hh
      cases hh
    | some h => exact recorded_saved hs hrecorded hi

end Ends

/-- **Both stores keep a lineal history**, whatever workers load, fire and save in whatever order.
In memory its end is always stored with it; in Postgres it is so throughout exactly if each save
that takes effect is made on top of a new conversation, or by a worker that has made twenty
transitions. -/
theorem histories_kept_iff (c : String) (doings : List Doing) :
    Throughout (inMemory.step c) (inMemory.Historical c) inMemory.start doings ∧
    Throughout (postgres.step c) (postgres.Lineal c) postgres.start doings ∧
    (Throughout (postgres.step c) (postgres.Historical c) postgres.start doings ↔
      Along (postgres.step c) (Whole c) postgres.start doings) := by
  refine ⟨?_, ?_, ?_⟩
  · exact (orderly_throughout inMemory_locks doings).mono fun s hs =>
      ⟨hs.lineal inMemory_locks, recorded_inMemory hs⟩
  · exact (orderly_throughout postgres_locks doings).mono fun s hs => hs.lineal postgres_locks
  · have hstart : Orderly postgres false c postgres.start := orderly_start postgres_locks
    have horderly : Along (postgres.step c) (fun s _ => Orderly postgres false c s) postgres.start
        doings :=
      .of_invariant hstart (.of_forall fun _ _ => trivial)
        fun _ doing hs _ => ⟨hs, hs.step postgres_locks doing⟩
    refine throughout_iff_along ⟨hstart.lineal postgres_locks, rfl⟩ horderly ?_
    rintro s doing ⟨-, hrecorded⟩ hs
    constructor
    · rintro ⟨-, hnext⟩
      exact (recorded_step hs hrecorded doing).mp hnext
    · intro hwhole
      exact ⟨(hs.step postgres_locks doing).lineal postgres_locks,
        (recorded_step hs hrecorded doing).mpr hwhole⟩

/-- The second message of a conversation wipes out the record of the first. -/
theorem history_lost : ¬ Throughout (postgres.step "c") (postgres.Historical "c") postgres.start
    [.load 0, .fire 0 .messageReceived 0 "a", .save 0,
      .load 1, .fire 1 .messageReceived 1 "b", .save 1] := by
  intro h
  have hend := (throughout_iff.mp h _ (List.prefix_refl _)).2
  revert hend
  unfold SnapshotStore.Recorded
  decide

end NxTutors.MatchAgent
