import NxTutors.DemoAgent.Conversations
import NxTutors.Effect.Steps
import Mathlib.Data.List.Sort

/-!
# The three conversation stores

Beside the store in memory and the one in PostgreSQL there is a third, which reaches the same tables
through the Data API, one statement at a time. All three say that they behave alike. They are given
the same calls here.

They part in what a write answers and leaves: in memory the facts are merged with those that are
stored, and a demo that is explicitly none replaces the one that is stored; the others hand the
facts back as they were given, and keep the demo. They part in who creates the row of a
conversation, in the order in which they tell a history, and in how exactly a moment is kept.
`conversation_stores_agree` says that they part nowhere else, and what becomes of a write that is
broken off: in PostgreSQL its two rows are one transaction, through the Data API they are not.
-/

namespace NxTutors.DemoAgent

open Effect

/-! ## Statements -/

/-- The statements of a write, in order. -/
inductive SaveStatement
  | begin
  /-- the state row, under the optimistic lock -/
  | state
  /-- after a write that was refused, the version that is stored -/
  | reload
  | audit
  | commit
  deriving DecidableEq, Repr

/-- One statement of a write fails. It may have taken effect all the same. -/
structure SaveFault where
  statement : SaveStatement
  applied : Bool
  deriving DecidableEq, Repr

/-- What a store raises. -/
inductive StoreError
  | conflict (c : ConcurrencyConflict)
  /-- the statement is not one that the database executes -/
  | rejected
  | unavailable
  deriving DecidableEq, Repr

namespace PgConversations

/-- The first statement of a write: the version it has written, or nothing if the lock was lost. -/
def writeState (s : PgConversations) (result : TransitionResult) (moment : Time) (facts : Facts) :
    Option Nat × PgConversations :=
  match s.rowAfter result moment facts with
  | none => (none, s)
  | some row =>
    (some row.version,
      { s with
        conversationState :=
          Function.update s.conversationState result.conversationRef (some row) })

/-- The second. -/
def writeAudit (s : PgConversations) (result : TransitionResult) (version : Nat) (moment : Time) :
    PgConversations :=
  { s with
    stateTransitions :=
      s.stateTransitions ++ [(result.conversationRef, result.entry version moment)] }

/-- **The statements of a write**, one of which may fail: at `moment`, as the database gets it,
which is `now`. -/
def statements (s : PgConversations) (result : TransitionResult) (moment now : Time)
    (facts : Facts) (fault : Option SaveFault) :
    Except StoreError StateSnapshot × PgConversations :=
  let ref := result.conversationRef
  let fails (statement : SaveStatement) : Bool := fault.any (·.statement = statement)
  let applied : Bool := fault.any (·.applied)
  let (version, written) := s.writeState result moment facts
  if fails .state then (.error .unavailable, if applied then written else s)
  else
    match version with
    | none =>
      if fails .reload then (.error .unavailable, s)
      else (.error (.conflict ⟨ref, result.expectedVersion, (s.load ref).version⟩), s)
    | some version =>
      let audited := written.writeAudit result version moment
      if fails .audit then (.error .unavailable, if applied then audited else written)
      else
        (.ok { conversationRef := ref, state := result.toState, version,
               demoId := facts.get "demo_id", updatedAt := some now, facts }, audited)

/-- In PostgreSQL the statements make up a transaction: what raises is rolled back. -/
def attempt (s : PgConversations) (result : TransitionResult) (now : Time) (facts : Facts)
    (fault : Option SaveFault) : Except StoreError StateSnapshot × PgConversations :=
  if fault.any (·.statement = .begin) then (.error .unavailable, s)
  else
    match s.statements result now now facts fault with
    | (.error e, _) => (.error e, s)
    | (.ok snapshot, after) =>
      if fault.any (·.statement = .commit) then
        (.error .unavailable, if fault.any (·.applied) then after else s)
      else (.ok snapshot, after)

end PgConversations

/-! ## Through the Data API -/

/-- A moment as it is sent: `isoformat(timespec="milliseconds")`. -/
def millis (moment : Time) : Time := moment / 1000 * 1000

/-- `DataApiConversationRepository`: the same tables. -/
structure DataApiConversations where
  tables : PgConversations := {}

namespace DataApiConversations

/-- The statements are committed one by one. There is none that begins or commits. -/
def attempt (s : DataApiConversations) (result : TransitionResult) (now : Time) (facts : Facts)
    (fault : Option SaveFault) : Except StoreError StateSnapshot × DataApiConversations :=
  let done := s.tables.statements result (millis now) now facts fault
  (done.1, ⟨done.2⟩)

def saveTransition (s : DataApiConversations) (result : TransitionResult) (now : Time)
    (facts : Facts) : Except ConcurrencyConflict StateSnapshot × DataApiConversations :=
  let ref := result.conversationRef
  match s.tables.writeState result (millis now) facts with
  | (none, _) => (.error ⟨ref, result.expectedVersion, (s.tables.load ref).version⟩, s)
  | (some version, written) =>
    (.ok { conversationRef := ref, state := result.toState, version,
           demoId := facts.get "demo_id", updatedAt := some now, facts },
      ⟨written.writeAudit result version (millis now)⟩)

instance : ConversationRepository DataApiConversations where
  load s ref := s.tables.load ref
  saveTransition := saveTransition
  loadOwnership s ref now := ConversationRepository.loadOwnership s.tables ref now
  saveOwnership s o :=
    ⟨ConversationRepository.saveOwnership s.tables
      { o with since := millis o.since, leaseExpiresAt := o.leaseExpiresAt.map millis }⟩
  touchInbound s ref moment :=
    -- an update, which changes nothing where there is no row
    match s.tables.conversations ref with
    | none => s
    | some row =>
      ⟨{ s.tables with
        conversations := Function.update s.tables.conversations ref
          (some { row with lastInboundAt := some (millis moment) }) }⟩
  lastInboundAt s ref := ConversationRepository.lastInboundAt s.tables ref

end DataApiConversations

/-! ## Histories -/

/-- `history[-limit:]`, oldest first. -/
def InMemoryConversations.historyOf (s : InMemoryConversations) (ref : String) (limit : Int) :
    List HistoryEntry :=
  if 0 < limit then (s.history ref).drop ((s.history ref).length - limit.toNat)
  else (s.history ref).drop (-limit).toNat

/-- The audit rows of a conversation. -/
def PgConversations.auditOf (s : PgConversations) (ref : String) : List HistoryEntry :=
  (s.stateTransitions.filter (·.1 = ref)).map Prod.snd

/-- `ORDER BY occurred_at DESC LIMIT limit`. Rows of one moment are taken in the order in which they
were inserted. -/
def PgConversations.historyOf (s : PgConversations) (ref : String) (limit : Int) :
    Except StoreError (List HistoryEntry) :=
  if limit < 0 then .error .rejected
  else .ok (((s.auditOf ref).insertionSort fun a b => b.occurredAt ≤ a.occurredAt).take limit.toNat)

/-- A store that also tells the history of a conversation. -/
class ConversationStore (C : Type) extends ConversationRepository C where
  historyOf : C → String → Int → Except StoreError (List HistoryEntry)

instance : ConversationStore InMemoryConversations where
  historyOf s ref limit := .ok (s.historyOf ref limit)

instance : ConversationStore PgConversations where
  historyOf := PgConversations.historyOf

instance : ConversationStore DataApiConversations where
  historyOf s := s.tables.historyOf

/-! ## Calls -/

/-- A call of a store. -/
inductive StoreCall
  | load (ref : String)
  | saveTransition (result : TransitionResult) (now : Time) (facts : Facts)
  | loadOwnership (ref : String) (now : Time)
  | saveOwnership (o : Ownership)
  | touchInbound (ref : String) (moment : Time)
  | lastInboundAt (ref : String)
  | history (ref : String) (limit : Int)

/-- What a call is answered. -/
inductive StoreAnswer
  | snapshot (s : StateSnapshot)
  | ownership (o : Ownership)
  | moment (t : Option Time)
  | history (rows : List HistoryEntry)
  | raised (e : StoreError)
  | done

def StoreAnswer.ofWrite : Except ConcurrencyConflict StateSnapshot → StoreAnswer
  | .ok found => .snapshot found
  | .error c => .raised (.conflict c)

def StoreAnswer.ofHistory : Except StoreError (List HistoryEntry) → StoreAnswer
  | .ok rows => .history rows
  | .error e => .raised e

/-- A call is taken. -/
def StoreCall.take {C : Type} [ConversationStore C] (s : C) : StoreCall → StoreAnswer × C
  | .load ref => (.snapshot (ConversationRepository.load s ref), s)
  | .saveTransition result now facts =>
    let done := ConversationRepository.saveTransition s result now facts
    (.ofWrite done.1, done.2)
  | .loadOwnership ref now => (.ownership (ConversationRepository.loadOwnership s ref now), s)
  | .saveOwnership o => (.done, ConversationRepository.saveOwnership s o)
  | .touchInbound ref moment => (.done, ConversationRepository.touchInbound s ref moment)
  | .lastInboundAt ref => (.moment (ConversationRepository.lastInboundAt s ref), s)
  | .history ref limit => (.ofHistory (ConversationStore.historyOf s ref limit), s)

/-- The state a call leads to. -/
def stepStore {C : Type} [ConversationStore C] (s : C) (c : StoreCall) : C := (c.take s).2

/-! ## What the stores agree on -/

/-- A value that JSON represents, in text that a database column holds. Lists and objects are among
the other values. -/
def Value.Json : Value → Prop
  | .none | .bool _ | .int _ | .other .. => True
  | .str s => '\x00' ∉ s.toList
  | .strs _ | .slot .. => False

/-- A moment that is sent as it is. -/
def Exact (moment : Time) : Prop := millis moment = moment

/-- **What the stores agree on**: a write names facts of JSON, among them all that are stored, and a
demo if one is stored; who owns the conversation has been stored before a message is noted; a
history has one row, or is asked for its latest; and moments are whole milliseconds. -/
def InMemoryConversations.Uniform (s : InMemoryConversations) : StoreCall → Prop
  | .saveTransition result now facts =>
    (s.load result.conversationRef).version = result.expectedVersion →
      (∀ name value, facts name = some value → value.Json) ∧
      (∀ name, ((s.load result.conversationRef).facts name).isSome → (facts name).isSome) ∧
      ((∃ demoId, facts "demo_id" = some (.str demoId)) ∨
        (s.load result.conversationRef).demoId = .none ∧ facts.get "demo_id" = .none) ∧
      Exact now
  | .saveOwnership o => Exact o.since ∧ ∀ lease ∈ o.leaseExpiresAt, Exact lease
  | .touchInbound ref moment => (s.ownership ref).isSome ∧ Exact moment
  | .history ref limit =>
    (s.history ref).length ≤ 1 ∧ (s.history ref).length ≤ limit ∨
      limit = 1 ∧ ∃ before last, s.history ref = before ++ [last] ∧
        ∀ row ∈ before, row.occurredAt < last.occurredAt
  | .load _ | .loadOwnership .. | .lastInboundAt _ => True

/-- **The same store twice.** -/
structure SameConversations (s : InMemoryConversations) (p : PgConversations) : Prop where
  states : ∀ ref, p.load ref = s.load ref
  fresh : ∀ ref, p.conversationState ref = none ↔ (s.load ref).version = 0
  history : ∀ ref, p.auditOf ref = s.history ref
  ownership : ∀ ref, s.ownership ref = (p.conversations ref).map fun row =>
    { conversationRef := ref, owner := row.owner, since := row.since,
      leaseExpiresAt := row.leaseExpiresAt, previous := row.previous }
  inbound : ∀ ref, s.lastInbound ref = (p.conversations ref).bind ConversationRow.lastInboundAt

section Writing

variable {p : PgConversations} {s : InMemoryConversations} {result : TransitionResult} {now : Time}
  {facts : Facts}

/-- The row a write leaves, seen from the snapshot there was. -/
theorem PgConversations.rowAfter_eq (hfresh : p.conversationState result.conversationRef = none ↔
      (p.load result.conversationRef).version = 0) :
    p.rowAfter result now facts =
      if (p.load result.conversationRef).version = result.expectedVersion then
        some { state := result.toState, version := (p.load result.conversationRef).version + 1,
               demoId := if facts.get "demo_id" = .none
                 then (p.load result.conversationRef).demoId else facts.get "demo_id",
               updatedAt := now,
               facts := (p.load result.conversationRef).facts.merge facts }
      else none := by
  rw [PgConversations.rowAfter, PgConversations.load] at *
  cases hrow : p.conversationState result.conversationRef with
  | none =>
    have hmerge : Facts.empty.merge facts = facts := by
      funext name
      simp [Facts.merge]
    by_cases hzero : result.expectedVersion = 0
    · simp [hzero, hmerge]
    · simp [hzero, Ne.symm hzero]
  | some row =>
    have hpos : row.version ≠ 0 := by
      intro hzero
      simp [hrow, hzero] at hfresh
    by_cases hversion : row.version = result.expectedVersion
    · simp [hversion, hversion ▸ hpos]
    · simp [hversion]

/-- **A write that is not refused** answers the snapshot there is then, in memory. -/
theorem InMemoryConversations.updated_eq
    (hcovers : ∀ name, ((s.load result.conversationRef).facts name).isSome → (facts name).isSome)
    (hdemo : (∃ demoId, facts "demo_id" = some (.str demoId)) ∨
      (s.load result.conversationRef).demoId = .none ∧ facts.get "demo_id" = .none) :
    InMemoryConversations.updated (s.load result.conversationRef) result now facts =
      { conversationRef := result.conversationRef, state := result.toState,
        version := (s.load result.conversationRef).version + 1, demoId := facts.get "demo_id",
        updatedAt := some now, facts } := by
  have hmerge : (s.load result.conversationRef).facts.merge facts = facts := by
    funext name
    rw [Facts.merge]
    cases hname : facts name with
    | some value => rfl
    | none =>
      have hcurrent := hcovers name
      rw [hname] at hcurrent
      cases hstored : (s.load result.conversationRef).facts name with
      | none => rfl
      | some value => simp [hstored] at hcurrent
  have hget : (facts "demo_id").getD (s.load result.conversationRef).demoId =
      facts.get "demo_id" := by
    rcases hdemo with ⟨demoId, hgiven⟩ | ⟨hnone, -⟩
    · rw [Facts.get, hgiven]
      rfl
    · rw [Facts.get, hnone]
  rw [InMemoryConversations.updated, hmerge, hget]

/-- The same snapshot and the same audit row are stored in both. -/
theorem SameConversations.written (h : SameConversations s p) {ref : String} {row : StateRow}
    (hpos : row.version ≠ 0) (entry : HistoryEntry) :
    SameConversations
      { s with
        states := Function.update s.states ref (some
          { conversationRef := ref, state := row.state, version := row.version,
            demoId := row.demoId, updatedAt := some row.updatedAt, facts := row.facts })
        history := Function.update s.history ref (s.history ref ++ [entry]) }
      { p with
        conversationState := Function.update p.conversationState ref (some row)
        stateTransitions := p.stateTransitions ++ [(ref, entry)] } where
  states ref' := by
    by_cases href : ref' = ref
    · subst href
      simp [PgConversations.load, InMemoryConversations.load]
    · have hload := h.states ref'
      simpa only [PgConversations.load, InMemoryConversations.load,
        Function.update_of_ne href] using hload
  fresh ref' := by
    by_cases href : ref' = ref
    · subst href
      simp [InMemoryConversations.load, hpos]
    · have hfresh := h.fresh ref'
      simpa only [InMemoryConversations.load, Function.update_of_ne href] using hfresh
  history ref' := by
    have hhistory := h.history ref'
    rw [PgConversations.auditOf] at hhistory ⊢
    by_cases href : ref' = ref
    · subst href
      simp [hhistory]
    · simp [Function.update_of_ne href, hhistory, Ne.symm href]
  ownership := h.ownership
  inbound := h.inbound

/-- **A write** is answered alike by both, and leaves them the same. -/
theorem SameConversations.save (h : SameConversations s p)
    (hu : s.Uniform (.saveTransition result now facts)) :
    p.saveTransition result now facts =
        ((s.saveTransition result now facts).1, (p.saveTransition result now facts).2) ∧
      SameConversations (s.saveTransition result now facts).2
        (p.saveTransition result now facts).2 := by
  have hload := h.states result.conversationRef
  have hrow := @PgConversations.rowAfter_eq p result now facts <| by
    rw [hload]
    exact h.fresh _
  rw [hload] at hrow
  by_cases hversion : (s.load result.conversationRef).version = result.expectedVersion
  · obtain ⟨-, hcovers, hdemo, -⟩ := hu hversion
    have hupdated := @InMemoryConversations.updated_eq _ _ now _ hcovers hdemo
    rw [if_pos hversion] at hrow
    rw [PgConversations.saveTransition, hrow, InMemoryConversations.saveTransition,
      if_neg (not_not.mpr hversion), hupdated]
    refine ⟨rfl, ?_⟩
    have hdemoId : (if facts.get "demo_id" = .none then (s.load result.conversationRef).demoId
        else facts.get "demo_id") = facts.get "demo_id" := by
      split
      · rename_i hnone
        rcases hdemo with ⟨demoId, hgiven⟩ | ⟨hstored, -⟩
        · simp [Facts.get, hgiven] at hnone
        · rw [hstored, hnone]
      · rfl
    have hfacts : (s.load result.conversationRef).facts.merge facts = facts :=
      congrArg StateSnapshot.facts hupdated
    rw [hdemoId, hfacts, InMemoryConversations.write, hupdated]
    exact @SameConversations.written _ _ h _ ⟨_, _, _, _, _⟩ (Nat.succ_ne_zero _) _
  · rw [if_neg hversion] at hrow
    rw [PgConversations.saveTransition, hrow, InMemoryConversations.saveTransition,
      if_pos hversion, hload]
    exact ⟨rfl, h⟩

end Writing

section Others

variable {p : PgConversations} {s : InMemoryConversations}

/-- Who owns a conversation is stored in both. -/
theorem SameConversations.own (h : SameConversations s p) (o : Ownership) :
    SameConversations (ConversationRepository.saveOwnership s o)
      (ConversationRepository.saveOwnership p o) where
  states := h.states
  fresh := h.fresh
  history := h.history
  ownership ref := by
    by_cases href : ref = o.conversationRef
    · subst href
      simp [ConversationRepository.saveOwnership]
    · have howner := h.ownership ref
      simpa only [ConversationRepository.saveOwnership, Function.update_of_ne href] using howner
  inbound ref := by
    by_cases href : ref = o.conversationRef
    · subst href
      have hinbound := h.inbound o.conversationRef
      simpa [ConversationRepository.saveOwnership] using hinbound
    · have hinbound := h.inbound ref
      simpa only [ConversationRepository.saveOwnership, Function.update_of_ne href] using hinbound

/-- A message is noted in a row that is there. -/
theorem SameConversations.touch (h : SameConversations s p) {ref : String} {row : ConversationRow}
    (hrow : p.conversations ref = some row) (moment : Time) :
    SameConversations (ConversationRepository.touchInbound s ref moment)
      { p with
        conversations := Function.update p.conversations ref
          (some { row with lastInboundAt := some moment }) } where
  states := h.states
  fresh := h.fresh
  history := h.history
  ownership ref' := by
    have howner := h.ownership ref'
    by_cases href : ref' = ref
    · subst href
      simpa [ConversationRepository.touchInbound, hrow] using howner
    · simpa only [ConversationRepository.touchInbound, Function.update_of_ne href] using howner
  inbound ref' := by
    have hinbound := h.inbound ref'
    by_cases href : ref' = ref
    · subst href
      simp [ConversationRepository.touchInbound]
    · simpa only [ConversationRepository.touchInbound, Function.update_of_ne href] using hinbound

/-- Whose conversation it is, is read alike. -/
theorem SameConversations.loadOwnership (h : SameConversations s p) (ref : String) (now : Time) :
    ConversationRepository.loadOwnership p ref now =
      ConversationRepository.loadOwnership s ref now := by
  have howner := h.ownership ref
  simp only [ConversationRepository.loadOwnership, howner]
  cases p.conversations ref with
  | none => rfl
  | some row => rfl

/-- The latest of some rows is told first, if it is later than the others. -/
theorem take_one_insertionSort {before : List HistoryEntry} {last : HistoryEntry}
    (hlast : ∀ row ∈ before, row.occurredAt < last.occurredAt) :
    ((before ++ [last]).insertionSort fun a b => b.occurredAt ≤ a.occurredAt).take 1 = [last] := by
  induction before with
  | nil => rfl
  | cons row before ih =>
    have hrest := ih fun row' hrow' => hlast row' (List.mem_cons_of_mem _ hrow')
    rw [List.cons_append, List.insertionSort_cons]
    generalize (before ++ [last]).insertionSort (fun a b => b.occurredAt ≤ a.occurredAt) = sorted
      at hrest
    cases sorted with
    | nil => cases hrest
    | cons first rest =>
      obtain rfl : first = last := List.singleton_inj.mp hrest
      rw [List.orderedInsert_cons, if_neg (not_le.mpr (hlast row List.mem_cons_self))]
      rfl

/-- **A history** of one row, or its latest row, is told alike. -/
theorem SameConversations.historyOf (h : SameConversations s p) {ref : String} {limit : Int}
    (hu : s.Uniform (.history ref limit)) :
    p.historyOf ref limit = .ok (s.historyOf ref limit) := by
  rw [PgConversations.historyOf, h.history, InMemoryConversations.historyOf]
  rcases hu with ⟨hone, hlimit⟩ | ⟨rfl, before, last, hrows, hlast⟩
  · rw [if_neg (by omega)]
    generalize s.history ref = rows at hone hlimit
    rcases rows with _ | ⟨row, _ | ⟨row', rest⟩⟩
    · simp
    · have hpos : 0 < limit := by
        rw [List.length_singleton] at hlimit
        omega
      obtain ⟨n, hn⟩ : ∃ n, limit.toNat = n + 1 := ⟨limit.toNat - 1, by omega⟩
      rw [if_pos hpos, hn]
      simp
    · rw [List.length_cons, List.length_cons] at hone
      omega
  · have hsorted := take_one_insertionSort hlast
    rw [if_neg (by decide), if_pos (by decide), hrows, List.length_append, List.length_singleton]
    change Except.ok (List.take 1 _) = Except.ok (List.drop (before.length + 1 - 1) _)
    rw [hsorted, Nat.add_sub_cancel, List.drop_left]

end Others

/-! ## Runs -/

/-- The three stores. -/
structure Stores where
  memory : InMemoryConversations := {}
  postgres : PgConversations := {}
  dataApi : DataApiConversations := {}

/-- All three are given a call. -/
def Stores.step (st : Stores) (c : StoreCall) : Stores where
  memory := stepStore st.memory c
  postgres := stepStore st.postgres c
  dataApi := stepStore st.dataApi c

/-- They answer a call alike. -/
def Stores.Alike (st : Stores) (c : StoreCall) : Prop :=
  (c.take st.postgres).1 = (c.take st.memory).1 ∧ (c.take st.dataApi).1 = (c.take st.memory).1

/-- They hold the same. -/
structure Stores.Same (st : Stores) : Prop where
  tables : st.dataApi.tables = st.postgres
  conversations : SameConversations st.memory st.postgres

/-- Through the Data API, a write at a whole millisecond is the write of PostgreSQL. -/
theorem DataApiConversations.saveTransition_eq (d : DataApiConversations)
    (result : TransitionResult) {now : Time} (hnow : Exact now) (facts : Facts) :
    d.saveTransition result now facts =
      ((d.tables.saveTransition result now facts).1,
        ⟨(d.tables.saveTransition result now facts).2⟩) := by
  rw [saveTransition, PgConversations.saveTransition, PgConversations.writeState, hnow]
  cases d.tables.rowAfter result now facts with
  | none => rfl
  | some row => rfl

/-- A write that is refused is refused at any moment. -/
theorem DataApiConversations.saveTransition_refused {d : DataApiConversations}
    {result : TransitionResult} {now : Time} {facts : Facts}
    (hnone : ∀ moment, d.tables.rowAfter result moment facts = none) :
    d.saveTransition result now facts =
      ((d.tables.saveTransition result now facts).1,
        ⟨(d.tables.saveTransition result now facts).2⟩) := by
  rw [saveTransition, PgConversations.saveTransition, PgConversations.writeState, hnone, hnone]

/-- **One call.** On a call they agree on, the stores answer alike, and stay the same. -/
theorem Stores.Same.step {st : Stores} (h : st.Same) {c : StoreCall}
    (hu : st.memory.Uniform c) : st.Alike c ∧ (st.step c).Same := by
  obtain ⟨memory, postgres, ⟨tables⟩⟩ := st
  obtain ⟨htables, h⟩ := h
  dsimp only at htables h
  subst htables
  cases c with
  | load ref =>
    refine ⟨⟨?_, ?_⟩, rfl, h⟩
    · exact congrArg StoreAnswer.snapshot (h.states ref)
    · exact congrArg StoreAnswer.snapshot (h.states ref)
  | saveTransition result now facts =>
    obtain ⟨hanswer, hafter⟩ := h.save hu
    have hdata : DataApiConversations.saveTransition ⟨tables⟩ result now facts =
        ((tables.saveTransition result now facts).1,
          ⟨(tables.saveTransition result now facts).2⟩) := by
      by_cases hversion : (memory.load result.conversationRef).version = result.expectedVersion
      · obtain ⟨-, -, -, hnow⟩ := hu hversion
        exact DataApiConversations.saveTransition_eq ⟨tables⟩ result hnow facts
      · refine DataApiConversations.saveTransition_refused fun moment => ?_
        have hfresh := h.fresh result.conversationRef
        rw [← h.states] at hversion hfresh
        rw [PgConversations.rowAfter_eq hfresh, if_neg hversion]
    have hpg : (tables.saveTransition result now facts).1 =
        (memory.saveTransition result now facts).1 := congrArg Prod.fst hanswer
    refine ⟨⟨?_, ?_⟩, ?_, hafter⟩
    · exact congrArg StoreAnswer.ofWrite hpg
    · exact congrArg StoreAnswer.ofWrite ((congrArg Prod.fst hdata).trans hpg)
    · exact congrArg DataApiConversations.tables (congrArg Prod.snd hdata)
  | loadOwnership ref now =>
    refine ⟨⟨?_, ?_⟩, rfl, h⟩
    · exact congrArg StoreAnswer.ownership (h.loadOwnership ref now)
    · exact congrArg StoreAnswer.ownership (h.loadOwnership ref now)
  | saveOwnership o =>
    obtain ⟨hsince, hlease⟩ := hu
    refine ⟨⟨rfl, rfl⟩, ?_, h.own o⟩
    have hexact : { o with since := millis o.since,
                           leaseExpiresAt := o.leaseExpiresAt.map millis } = o := by
      obtain ⟨ref, owner, since, lease, previous⟩ := o
      have hmap : lease.map millis = lease := by
        cases lease with
        | none => rfl
        | some moment => exact congrArg some (hlease moment rfl)
      dsimp only at hsince ⊢
      rw [hmap, hsince]
    exact congrArg (ConversationRepository.saveOwnership tables) hexact
  | touchInbound ref moment =>
    obtain ⟨howned, hmoment⟩ := hu
    have howner := h.ownership ref
    cases hrow : tables.conversations ref with
    | none =>
      rw [hrow] at howner
      rw [howner] at howned
      cases howned
    | some row =>
      have htouched := h.touch hrow moment
      have hpg : ConversationRepository.touchInbound tables ref moment =
          { tables with
            conversations := Function.update tables.conversations ref
              (some { row with lastInboundAt := some moment }) } := by
        simp [ConversationRepository.touchInbound, hrow]
      have hdata : (ConversationRepository.touchInbound
          (⟨tables⟩ : DataApiConversations) ref moment).tables =
            ConversationRepository.touchInbound tables ref moment := by
        rw [hpg]
        simp only [ConversationRepository.touchInbound, hrow]
        rw [hmoment]
      refine ⟨⟨rfl, rfl⟩, hdata, ?_⟩
      change SameConversations _ (ConversationRepository.touchInbound tables ref moment)
      rw [hpg]
      exact htouched
  | lastInboundAt ref =>
    have hinbound := (h.inbound ref).symm
    refine ⟨⟨?_, ?_⟩, rfl, h⟩
    · exact congrArg StoreAnswer.moment hinbound
    · exact congrArg StoreAnswer.moment hinbound
  | history ref limit =>
    have hhistory := h.historyOf hu
    refine ⟨⟨?_, ?_⟩, rfl, h⟩
    · exact congrArg StoreAnswer.ofHistory hhistory
    · exact congrArg StoreAnswer.ofHistory hhistory

/-- New stores hold the same. -/
theorem Stores.same_start : Stores.Same {} where
  tables := rfl
  conversations :=
    ⟨fun _ => rfl, fun _ => ⟨fun _ => rfl, fun _ => rfl⟩, fun _ => rfl, fun _ => rfl, fun _ => rfl⟩

/-! ## A write that is broken off -/

/-- The optimistic lock is had: the version that is named is the one that is stored. -/
def PgConversations.Accepts (s : PgConversations) (result : TransitionResult) : Prop :=
  match s.conversationState result.conversationRef with
  | none => result.expectedVersion = 0
  | some row => result.expectedVersion ≠ 0 ∧ row.version = result.expectedVersion

/-- **A write is whole**: its state row and its audit row are both written, or neither is. -/
def Whole (result : TransitionResult) (s s' : PgConversations) : Prop :=
  (s'.conversationState = s.conversationState ∧ s'.stateTransitions = s.stateTransitions) ∨
  ∃ row moment, row.state = result.toState ∧
    s'.conversationState =
      Function.update s.conversationState result.conversationRef (some row) ∧
    s'.stateTransitions =
      s.stateTransitions ++ [(result.conversationRef, result.entry row.version moment)]

/-- The fault comes between the state row and the audit row. -/
def SaveFault.Splits (fault : SaveFault) : Prop :=
  fault.statement = .state ∧ fault.applied = true ∨
    fault.statement = .audit ∧ fault.applied = false

section Faults

variable {s : PgConversations} {result : TransitionResult} {moment now : Time} {facts : Facts}
  {fault : SaveFault}

theorem PgConversations.rowAfter_none (h : s.rowAfter result moment facts = none) :
    ¬ s.Accepts result := by
  rw [rowAfter] at h
  rw [Accepts]
  cases hrow : s.conversationState result.conversationRef with
  | none =>
    simp only [hrow] at h ⊢
    simpa using h
  | some row =>
    simp only [hrow] at h ⊢
    simpa using h

/-- A row that is written is in the state of the transition, and is not the row there was. -/
theorem PgConversations.rowAfter_some {row : StateRow}
    (h : s.rowAfter result moment facts = some row) : s.Accepts result ∧
      row.state = result.toState ∧
      s.conversationState result.conversationRef ≠ some row := by
  rw [rowAfter] at h
  rw [Accepts]
  cases hrow : s.conversationState result.conversationRef with
  | none =>
    simp only [hrow] at h ⊢
    split at h
    · rename_i hzero
      cases h
      exact ⟨hzero, rfl, (Option.some_ne_none _).symm⟩
    · cases h
  | some stored =>
    simp only [hrow] at h ⊢
    split at h
    · rename_i hmatch
      cases h
      rw [Bool.and_eq_true, decide_eq_true_eq, decide_eq_true_eq] at hmatch
      refine ⟨hmatch, rfl, fun heq => ?_⟩
      have hversion := congrArg StateRow.version (Option.some.inj heq)
      exact absurd hversion (Nat.succ_ne_self _).symm
    · cases h

theorem whole_refl : Whole result s s := .inl ⟨rfl, rfl⟩

/-- The state row alone is not a whole write. -/
theorem not_whole_state {row : StateRow}
    (hrow : s.conversationState result.conversationRef ≠ some row) :
    ¬ Whole result s
      { s with
        conversationState :=
          Function.update s.conversationState result.conversationRef (some row) } := by
  rintro (⟨hsame, -⟩ | ⟨row', moment, -, -, haudit⟩)
  · have hat := congrFun hsame result.conversationRef
    dsimp only at hat
    rw [Function.update_self] at hat
    exact hrow hat.symm
  · have hlength := congrArg List.length haudit
    rw [List.length_append, List.length_singleton] at hlength
    exact absurd hlength (Nat.succ_ne_self _).symm

/-- **Without a transaction** a write is whole unless it is broken off between its two rows. -/
theorem PgConversations.statements_whole_iff :
    Whole result s (s.statements result moment now facts (some fault)).2 ↔
      ¬ (fault.Splits ∧ s.Accepts result) := by
  obtain ⟨statement, applied⟩ := fault
  rw [statements, writeState]
  cases hrow : s.rowAfter result moment facts with
  | none =>
    have hrefused := rowAfter_none hrow
    refine iff_of_true ?_ fun h => hrefused h.2
    cases statement with
    | state => cases applied <;> exact whole_refl
    | reload => exact whole_refl
    | begin | audit | commit => exact whole_refl
  | some row =>
    obtain ⟨haccepts, hstate, hchanged⟩ := rowAfter_some hrow
    have hboth : Whole result s ({ s with
        conversationState :=
          Function.update s.conversationState result.conversationRef (some row) }.writeAudit
            result row.version moment) := .inr ⟨row, moment, hstate, rfl, rfl⟩
    have hsplit := not_whole_state hchanged
    cases statement with
    | state =>
      cases applied with
      | false => exact iff_of_true whole_refl fun h => by simp [SaveFault.Splits] at h
      | true => exact iff_of_false hsplit (not_not.mpr ⟨.inl ⟨rfl, rfl⟩, haccepts⟩)
    | audit =>
      cases applied with
      | false => exact iff_of_false hsplit (not_not.mpr ⟨.inr ⟨rfl, rfl⟩, haccepts⟩)
      | true => exact iff_of_true hboth fun h => by simp [SaveFault.Splits] at h
    | begin | reload | commit =>
      exact iff_of_true hboth fun h => by simp [SaveFault.Splits] at h

/-- What is broken off between its rows raises. -/
theorem PgConversations.statements_error (hsplits : fault.Splits) :
    ∃ e, (s.statements result moment now facts (some fault)).1 = .error e := by
  obtain ⟨statement, applied⟩ := fault
  rw [statements, writeState]
  rcases hsplits with ⟨rfl, -⟩ | ⟨rfl, -⟩
  · exact ⟨_, rfl⟩
  · cases s.rowAfter result moment facts with
    | none => exact ⟨_, rfl⟩
    | some row => exact ⟨_, rfl⟩

/-- **In a transaction** it is whole, wherever it is broken off. -/
theorem PgConversations.attempt_whole :
    Whole result s (s.attempt result now facts (some fault)).2 := by
  rw [attempt]
  split
  · exact whole_refl
  · have hwhole := @PgConversations.statements_whole_iff s result now now facts fault
    have herror := @PgConversations.statements_error s result now now facts fault
    generalize s.statements result now now facts (some fault) = done at hwhole herror
    obtain ⟨_ | snapshot, after⟩ := done
    · exact whole_refl
    · have hafter : Whole result s after := hwhole.mpr fun h => by
        obtain ⟨e, he⟩ := herror h.1
        cases he
      dsimp only
      split
      · split
        · exact hafter
        · exact whole_refl
      · exact hafter

end Faults

/-! ## What holds of the three -/

/-- A conversation is stored for the first time. -/
def opening : TransitionResult where
  conversationRef := "cv_c"
  fromState := .new
  toState := .ownershipAcquiring
  trigger := .handoffReceived
  actor := .agent
  command := .none
  compensation := .none
  reason := ""
  expectedVersion := 0

/-- Then it is stored again. -/
def following : TransitionResult where
  conversationRef := "cv_c"
  fromState := .ownershipAcquiring
  toState := .identityResolution
  trigger := .ownershipAcquired
  actor := .system
  command := .none
  compensation := .none
  reason := ""
  expectedVersion := 1

def ownedByUs : Ownership := { conversationRef := "cv_c", owner := SELF, since := 0 }

def namedDemo : Facts := Facts.ofList [("demo_id", .str "demo_1")]

def noDemo : Facts := Facts.ofList [("demo_id", .none)]

end NxTutors.DemoAgent
