import NxTutors.Effect.Under
import NxTutors.MatchAgent.Wire

/-!
# The outbox in PostgreSQL

A row of the outbox waits, is claimed by a relay, and is closed when it has been delivered, or when
no retry can help. Each method of the repository is one transaction, which reads the rows of the
table and changes some of them (`Does`). One that raises has been rolled back, or has been committed
without an answer (`Answers`).

A transaction does nothing to a row but what `Changes` says, and it loses none (`Answers.row`,
`Answers.kept`).
-/

namespace NxTutors.MatchAgent

open Text Effect Store

/-! ## The table -/

/-- What a row may be; nothing sets the fourth. -/
inductive OutboxStatus
  | pending | claiming | delivered | failed | dead
  deriving DecidableEq, Repr

/-- A message as the repository takes it and gives it back. -/
structure QueuedMessage extends OutboxRow where
  conversationId : String
  dedupKey : String
  availableAt : Option Time := none
  attempts : Nat := 0

structure OutboxEvent extends QueuedMessage where
  createdAt : Time
  status : OutboxStatus := .pending
  claimedAt : Option Time := none
  lastError : Option String := none
  deliveredAt : Option Time := none

namespace OutboxEvent

/-- The primary key. -/
def key (e : OutboxEvent) : String := e.dedupKey

/-- It can be claimed. -/
def ready (now : Time) (e : OutboxEvent) : Bool :=
  e.status = .pending && e.availableAt.all (· ≤ now)

/-- It was claimed long ago. -/
def stale (olderThan : Time) (e : OutboxEvent) : Bool :=
  e.status = .claiming && e.claimedAt.any (· < olderThan)

/-! ### What is done to a row -/

def claim (now : Time) (e : OutboxEvent) : OutboxEvent :=
  { e with status := .claiming, claimedAt := some now }

def reclaim (e : OutboxEvent) : OutboxEvent := { e with status := .pending, claimedAt := none }

def deliver (deliveredAt : Time) (e : OutboxEvent) : OutboxEvent :=
  { e with status := .delivered, deliveredAt := some deliveredAt }

def fail (error : String) (retryAt : Time) (e : OutboxEvent) : OutboxEvent :=
  { e with attempts := e.attempts + 1, lastError := some (Text.take error 240)
           availableAt := some retryAt, claimedAt := none
           status := if 5 ≤ e.attempts + 1 then .dead else .pending }

def die (error : String) (e : OutboxEvent) : OutboxEvent :=
  { e with status := .dead, lastError := some (Text.take error 240), claimedAt := none }

end OutboxEvent

/-- The row of a message that is new. It has not been tried, whatever the message says. -/
def QueuedMessage.event (m : QueuedMessage) (createdAt : Time) : OutboxEvent :=
  { m with attempts := 0, createdAt }

abbrev OutboxTable := Table OutboxEvent.key

namespace OutboxTable

/-- `INSERT … ON CONFLICT DO NOTHING`. -/
def enqueue (rows : OutboxTable) (m : QueuedMessage) (createdAt : Time) : OutboxTable :=
  if (rows.find m.dedupKey).isSome then rows else rows.put (m.event createdAt)

/-- `UPDATE … WHERE`. -/
def update (rows : OutboxTable) (P : OutboxEvent → Bool) (f : OutboxEvent → OutboxEvent)
    (hf : ∀ e, (f e).key = e.key) : OutboxTable :=
  rows.map (fun e => if P e then f e else e) fun e => by
    split
    · exact hf e
    · rfl

/-- What a claim takes: the oldest of the rows that can be claimed and are not locked by another
transaction. -/
def Takes (rows : OutboxTable) (limit : Nat) (now : Time) (taken : List OutboxEvent) : Prop :=
  ∃ (locked : OutboxEvent → Bool) (order : List OutboxEvent),
    order.Perm (rows.rows.filter fun e => e.ready now && !locked e) ∧
    order.Pairwise (fun a b => a.createdAt ≤ b.createdAt) ∧ taken = order.take limit

def claimAll (rows : OutboxTable) (taken : List OutboxEvent) (now : Time) : OutboxTable :=
  rows.update (fun e => e.key ∈ taken.map OutboxEvent.key) (.claim now) fun _ => rfl

def reclaimStale (rows : OutboxTable) (olderThan : Time) : OutboxTable :=
  rows.update (OutboxEvent.stale olderThan) .reclaim fun _ => rfl

def markDelivered (rows : OutboxTable) (dedupKey : String) (deliveredAt : Time) : OutboxTable :=
  rows.update (·.key = dedupKey) (.deliver deliveredAt) fun _ => rfl

def markFailed (rows : OutboxTable) (dedupKey error : String) (retryAt : Time) : OutboxTable :=
  rows.update (·.key = dedupKey) (.fail error retryAt) fun _ => rfl

def markDead (rows : OutboxTable) (dedupKey error : String) : OutboxTable :=
  rows.update (·.key = dedupKey) (.die error) fun _ => rfl

end OutboxTable

/-! ## What is asked of it -/

/-- What a relay and the producers of messages call: the clock, the repository, and the queue. -/
inductive OutboxOp
  | now
  | enqueue (message : QueuedMessage)
  | reclaimStale (olderThan : Time)
  | claimBatch (limit : Nat) (now : Time)
  | markDelivered (dedupKey : String)
  | markFailed (dedupKey error : String) (retryAt : Time)
  | markDead (dedupKey error : String)
  /-- `dedupKey` is not sent: it is for the record, which row the body is of -/
  | sendMessage (queueUrl body : String) (dedupKey : String)

/-- What each answers. -/
def OutboxOp.Res : OutboxOp → Type
  | .now => Time
  | .reclaimStale _ => Nat
  | .claimBatch _ _ => List QueuedMessage
  | _ => Unit

def outboxPorts : Sig := ⟨OutboxOp, OutboxOp.Res⟩

/-- What a call may raise: a type and a message. -/
structure Raised where
  type : String
  message : String
  deriving DecidableEq, Repr

/-- **A transaction** that is committed. The clock may say anything, and the queue leaves the table
alone. -/
def Does : (o : OutboxOp) → OutboxTable → o.Res → OutboxTable → Prop
  | .now, rows, _, rows' => rows' = rows
  | .enqueue m, rows, _, rows' => ∃ createdAt, rows' = rows.enqueue m createdAt
  | .reclaimStale olderThan, rows, reclaimed, rows' =>
    reclaimed = rows.rows.countP (OutboxEvent.stale olderThan) ∧ rows' = rows.reclaimStale olderThan
  | .claimBatch limit now, rows, messages, rows' => ∃ taken, rows.Takes limit now taken ∧
    messages = taken.map OutboxEvent.toQueuedMessage ∧ rows' = rows.claimAll taken now
  | .markDelivered dedupKey, rows, _, rows' =>
    ∃ deliveredAt, rows' = rows.markDelivered dedupKey deliveredAt
  | .markFailed dedupKey error retryAt, rows, _, rows' =>
    rows' = rows.markFailed dedupKey error retryAt
  | .markDead dedupKey error, rows, _, rows' => rows' = rows.markDead dedupKey error
  | .sendMessage _ _ _, rows, _, rows' => rows' = rows

/-- What a call may be answered, and what it leaves behind. -/
def Answers (o : OutboxOp) (rows : OutboxTable) (r : Except Raised o.Res) (rows' : OutboxTable) :
    Prop :=
  match r with
  | .ok a => Does o rows a rows'
  | .error _ => rows' = rows ∨ ∃ a, Does o rows a rows'

/-! ## What a transaction does to a row -/

/-- What becomes of a row that a transaction does not leave alone. -/
def Changes : OutboxOp → OutboxEvent → OutboxEvent → Prop
  | .claimBatch _ now, e, e' => e.status = .pending ∧ e' = e.claim now
  | .reclaimStale olderThan, e, e' => e.stale olderThan = true ∧ e' = e.reclaim
  | .markDelivered dedupKey, e, e' => e.key = dedupKey ∧ ∃ deliveredAt, e' = e.deliver deliveredAt
  | .markFailed dedupKey error retryAt, e, e' => e.key = dedupKey ∧ e' = e.fail error retryAt
  | .markDead dedupKey error, e, e' => e.key = dedupKey ∧ e' = e.die error
  | _, _, _ => False

section Rows

variable {rows rows' : OutboxTable} {o : OutboxOp} {e e' : OutboxEvent}

/-- A row stays the row of its message. -/
theorem Changes.same (h : Changes o e e') :
    e'.key = e.key ∧ e'.toOutboxRow = e.toOutboxRow := by
  cases o with
  | claimBatch limit now =>
    obtain ⟨-, rfl⟩ := h
    exact ⟨rfl, rfl⟩
  | reclaimStale olderThan =>
    obtain ⟨-, rfl⟩ := h
    exact ⟨rfl, rfl⟩
  | markDelivered dedupKey =>
    obtain ⟨-, _, rfl⟩ := h
    exact ⟨rfl, rfl⟩
  | markFailed dedupKey error retryAt =>
    obtain ⟨-, rfl⟩ := h
    exact ⟨rfl, rfl⟩
  | markDead dedupKey error =>
    obtain ⟨-, rfl⟩ := h
    exact ⟨rfl, rfl⟩
  | now => exact h.elim
  | enqueue m => exact h.elim
  | sendMessage url body dedupKey => exact h.elim

theorem OutboxTable.mem_update {P : OutboxEvent → Bool} {f : OutboxEvent → OutboxEvent}
    {hf : ∀ e, (f e).key = e.key} :
    e' ∈ (rows.update P f hf).rows ↔ ∃ e ∈ rows.rows, (if P e then f e else e) = e' :=
  Table.mem_map

/-- The rows that a claim takes are rows that can be claimed. -/
theorem OutboxTable.Takes.mem {limit : Nat} {now : Time} {taken : List OutboxEvent}
    (h : rows.Takes limit now taken) (he : e ∈ taken) : e ∈ rows.rows ∧ e.ready now = true := by
  obtain ⟨locked, order, hperm, -, rfl⟩ := h
  have hmem := (hperm.mem_iff).mp (List.mem_of_mem_take he)
  obtain ⟨hrow, hready⟩ := List.mem_filter.mp hmem
  exact ⟨hrow, (Bool.and_eq_true_iff.mp hready).1⟩

/-- No row is taken twice. -/
theorem OutboxTable.Takes.nodup {limit : Nat} {now : Time} {taken : List OutboxEvent}
    (h : rows.Takes limit now taken) : (taken.map OutboxEvent.key).Nodup := by
  obtain ⟨locked, order, hperm, -, rfl⟩ := h
  have horder : (order.map OutboxEvent.key).Nodup :=
    (hperm.map _).nodup_iff.mpr (rows.nodup.sublist (List.filter_sublist.map _))
  exact horder.sublist ((List.take_sublist _ _).map _)

/-- What an update does to the rows it is for, it does. -/
theorem OutboxTable.row_of_update {P : OutboxEvent → Bool} {f : OutboxEvent → OutboxEvent}
    {hf : ∀ e, (f e).key = e.key} (hP : ∀ e ∈ rows.rows, P e = true → Changes o e (f e))
    (he' : e' ∈ (rows.update P f hf).rows) :
    ∃ e ∈ rows.rows, e' = e ∨ Changes o e e' := by
  obtain ⟨e, he, rfl⟩ := OutboxTable.mem_update.mp he'
  refine ⟨e, he, ?_⟩
  split
  · exact .inr (hP e he ‹_›)
  · exact .inl rfl

theorem OutboxTable.kept_of_update {P : OutboxEvent → Bool} {f : OutboxEvent → OutboxEvent}
    {hf : ∀ e, (f e).key = e.key} (hP : ∀ e ∈ rows.rows, P e = true → Changes o e (f e))
    (he : e ∈ rows.rows) : ∃ e' ∈ (rows.update P f hf).rows, e' = e ∨ Changes o e e' := by
  refine ⟨_, OutboxTable.mem_update.mpr ⟨e, he, rfl⟩, ?_⟩
  split
  · exact .inr (hP e he ‹_›)
  · exact .inl rfl

/-- Who a claim is for is pending. -/
theorem changes_claim {limit : Nat} {now : Time} {taken : List OutboxEvent}
    (h : rows.Takes limit now taken) (he : e ∈ rows.rows)
    (hkey : decide (e.key ∈ taken.map OutboxEvent.key) = true) :
    Changes (.claimBatch limit now) e (e.claim now) := by
  obtain ⟨x, hx, hkey'⟩ := List.mem_map.mp (of_decide_eq_true hkey)
  obtain ⟨hrow, hready⟩ := h.mem hx
  obtain rfl := rows.eq_of_key hrow he hkey'
  exact ⟨of_decide_eq_true (Bool.and_eq_true_iff.mp hready).1, rfl⟩

/-- A new row is one that has no key in the table. -/
inductive Fresh (rows : OutboxTable) : OutboxOp → OutboxEvent → Prop
  | enqueue (m : QueuedMessage) (createdAt : Time) (hnew : ∀ e ∈ rows.rows, e.key ≠ m.dedupKey) :
    Fresh rows (.enqueue m) (m.event createdAt)

/-- **A row after a transaction** is a row before it, or one that the transaction has changed or
put in. -/
theorem Does.row {a : o.Res} (h : Does o rows a rows') (he' : e' ∈ rows'.rows) :
    (∃ e ∈ rows.rows, e' = e ∨ Changes o e e') ∨ Fresh rows o e' := by
  cases o with
  | now =>
    obtain rfl : rows' = rows := h
    exact .inl ⟨e', he', .inl rfl⟩
  | sendMessage url body dedupKey =>
    obtain rfl : rows' = rows := h
    exact .inl ⟨e', he', .inl rfl⟩
  | enqueue m =>
    obtain ⟨createdAt, rfl⟩ := h
    rw [OutboxTable.enqueue] at he'
    split at he'
    · exact .inl ⟨e', he', .inl rfl⟩
    · have hnone : rows.find m.dedupKey = none := Option.not_isSome_iff_eq_none.mp ‹_›
      rcases Table.mem_put.mp he' with rfl | ⟨he, -⟩
      · exact .inr (.enqueue m createdAt (Table.find_eq_none_iff.mp hnone))
      · exact .inl ⟨e', he, .inl rfl⟩
  | reclaimStale olderThan =>
    obtain ⟨-, rfl⟩ := h
    exact .inl (OutboxTable.row_of_update (fun e _ hstale => ⟨hstale, rfl⟩) he')
  | claimBatch limit now =>
    obtain ⟨taken, htakes, -, rfl⟩ := h
    exact .inl (OutboxTable.row_of_update (fun e he hkey => changes_claim htakes he hkey) he')
  | markDelivered dedupKey =>
    obtain ⟨deliveredAt, rfl⟩ := h
    exact .inl (OutboxTable.row_of_update
      (fun e _ hkey => ⟨of_decide_eq_true hkey, deliveredAt, rfl⟩) he')
  | markFailed dedupKey error retryAt =>
    obtain rfl : rows' = _ := h
    exact .inl (OutboxTable.row_of_update (fun e _ hkey => ⟨of_decide_eq_true hkey, rfl⟩) he')
  | markDead dedupKey error =>
    obtain rfl : rows' = _ := h
    exact .inl (OutboxTable.row_of_update (fun e _ hkey => ⟨of_decide_eq_true hkey, rfl⟩) he')

/-- **No row is lost.** -/
theorem Does.kept {a : o.Res} (h : Does o rows a rows') (he : e ∈ rows.rows) :
    ∃ e' ∈ rows'.rows, e' = e ∨ Changes o e e' := by
  cases o with
  | now =>
    obtain rfl : rows' = rows := h
    exact ⟨e, he, .inl rfl⟩
  | sendMessage url body dedupKey =>
    obtain rfl : rows' = rows := h
    exact ⟨e, he, .inl rfl⟩
  | enqueue m =>
    obtain ⟨createdAt, rfl⟩ := h
    refine ⟨e, ?_, .inl rfl⟩
    rw [OutboxTable.enqueue]
    split
    · exact he
    · have hnone : rows.find m.dedupKey = none := Option.not_isSome_iff_eq_none.mp ‹_›
      exact Table.mem_put.mpr (.inr ⟨he, Table.find_eq_none_iff.mp hnone e he⟩)
  | reclaimStale olderThan =>
    obtain ⟨-, rfl⟩ := h
    exact OutboxTable.kept_of_update (fun e _ hstale => ⟨hstale, rfl⟩) he
  | claimBatch limit now =>
    obtain ⟨taken, htakes, -, rfl⟩ := h
    exact OutboxTable.kept_of_update (fun e he hkey => changes_claim htakes he hkey) he
  | markDelivered dedupKey =>
    obtain ⟨deliveredAt, rfl⟩ := h
    exact OutboxTable.kept_of_update
      (fun e _ hkey => ⟨of_decide_eq_true hkey, deliveredAt, rfl⟩) he
  | markFailed dedupKey error retryAt =>
    obtain rfl : rows' = _ := h
    exact OutboxTable.kept_of_update (fun e _ hkey => ⟨of_decide_eq_true hkey, rfl⟩) he
  | markDead dedupKey error =>
    obtain rfl : rows' = _ := h
    exact OutboxTable.kept_of_update (fun e _ hkey => ⟨of_decide_eq_true hkey, rfl⟩) he

variable {r : Except Raised o.Res}

/-- The same of a call, whatever it is answered. -/
theorem Answers.row (h : Answers o rows r rows') (he' : e' ∈ rows'.rows) :
    (∃ e ∈ rows.rows, e' = e ∨ Changes o e e') ∨ Fresh rows o e' := by
  cases r with
  | ok a => exact Does.row h he'
  | error f =>
    rcases h with rfl | ⟨a, hdoes⟩
    · exact .inl ⟨e', he', .inl rfl⟩
    · exact hdoes.row he'

theorem Answers.kept (h : Answers o rows r rows') (he : e ∈ rows.rows) :
    ∃ e' ∈ rows'.rows, e' = e ∨ Changes o e e' := by
  cases r with
  | ok a => exact Does.kept h he
  | error f =>
    rcases h with rfl | ⟨a, hdoes⟩
    · exact ⟨e, he, .inl rfl⟩
    · exact hdoes.kept he

/-- What has been enqueued is in the table. -/
theorem exists_of_enqueue {m : QueuedMessage} {a : Unit} (h : Does (.enqueue m) rows a rows') :
    ∃ e ∈ rows'.rows, e.key = m.dedupKey := by
  obtain ⟨createdAt, rfl⟩ := h
  rw [OutboxTable.enqueue]
  split
  · obtain ⟨e, hfind⟩ := Option.isSome_iff_exists.mp ‹(rows.find m.dedupKey).isSome = true›
    exact ⟨e, Table.find_eq_some_iff.mp hfind⟩
  · exact ⟨m.event createdAt, Table.mem_put.mpr (.inl rfl), rfl⟩

end Rows

end NxTutors.MatchAgent
