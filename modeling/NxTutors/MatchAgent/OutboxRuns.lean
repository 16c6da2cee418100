import NxTutors.MatchAgent.OutboxRelay

/-!
# Relays side by side

Turns enqueue, and relays run, any number of them at once, each of which may be killed between any
two of its calls. Whatever happens, a row is never lost, is closed only after it was sent if it
should be, and has no more attempts than were counted for it (`kept_of_reach`).
-/

namespace NxTutors.MatchAgent

open Text Effect Effect.Prog Store

/-! ## Who calls -/

/-- Whoever calls the repository: a turn, or a run of the relay. -/
inductive Caller
  | turn (n : Nat)
  | relay (n : Nat) (settings : RelaySettings)
  deriving DecidableEq, Repr

/-- It has a queue to send to. -/
def Caller.queued : Caller → Prop
  | .turn _ => False
  | .relay _ settings => settings.outboundQueueUrl ≠ ""

/-- What a turn does to the outbox. -/
def enqueues (m : QueuedMessage) : Relay (Option RelayReport) := do
  let _ ← ask (.enqueue m)
  .ret none

def runOnce (t : Tables) (settings : RelaySettings) : Relay (Option RelayReport) := do
  let report ← relay t settings
  .ret (some report)

/-- **Turns and relays**, any number of them. -/
def outboxArena (t : Tables) :
    Arena outboxPorts Raised (Option RelayReport) OutboxTable Caller where
  answers _ o rows r rows' := Answers o rows r rows'
  enters caller p _ :=
    match caller with
    | .turn _ => ∃ m, p = enqueues m
    | .relay _ settings => p = runOnce t settings
  outside rows rows' := rows' = rows

abbrev OutboxLog := List (Caller × OutboxCall)

abbrev OutboxPool := Pool outboxPorts Raised (Option RelayReport) (OutboxTable × OutboxLog) Caller

/-- What each may call. -/
def CallerPermits (t : Tables) : Caller → RelayHistory → OutboxOp → Prop
  | .turn _, _, o => ∃ m, o = .enqueue m
  | .relay _ settings, h, o => Permits t settings h o

/-! ## What can become of a row -/

section Changes

variable {o : OutboxOp} {e e' : OutboxEvent}

theorem Changes.status_ne (h : Changes o e e') : e'.status ≠ .failed := by
  cases o with
  | claimBatch limit now =>
    obtain ⟨-, rfl⟩ := h
    exact nofun
  | reclaimStale olderThan =>
    obtain ⟨-, rfl⟩ := h
    exact nofun
  | markDelivered key =>
    obtain ⟨-, _, rfl⟩ := h
    exact nofun
  | markFailed key error retryAt =>
    obtain ⟨-, rfl⟩ := h
    rw [OutboxEvent.fail]
    dsimp only
    split <;> exact nofun
  | markDead key error =>
    obtain ⟨-, rfl⟩ := h
    exact nofun
  | _ => exact h.elim

/-- A row is closed by nothing else. -/
theorem Changes.of_delivered (h : Changes o e e') (hstatus : e'.status = .delivered) :
    o = .markDelivered e.key := by
  cases o with
  | claimBatch limit now =>
    obtain ⟨-, rfl⟩ := h
    cases hstatus
  | reclaimStale olderThan =>
    obtain ⟨-, rfl⟩ := h
    cases hstatus
  | markDelivered key => rw [h.1]
  | markFailed key error retryAt =>
    obtain ⟨-, rfl⟩ := h
    rw [OutboxEvent.fail] at hstatus
    dsimp only at hstatus
    split at hstatus <;> cases hstatus
  | markDead key error =>
    obtain ⟨-, rfl⟩ := h
    cases hstatus
  | _ => exact h.elim

/-- A row is given up at its fifth attempt, or at once. -/
theorem Changes.of_dead (h : Changes o e e') (hstatus : e'.status = .dead) :
    (∃ error retryAt, o = .markFailed e.key error retryAt ∧ 5 ≤ e.attempts + 1 ∧
      e'.attempts = e.attempts + 1) ∨ ∃ error, o = .markDead e.key error := by
  cases o with
  | claimBatch limit now =>
    obtain ⟨-, rfl⟩ := h
    cases hstatus
  | reclaimStale olderThan =>
    obtain ⟨-, rfl⟩ := h
    cases hstatus
  | markDelivered key =>
    obtain ⟨-, _, rfl⟩ := h
    cases hstatus
  | markFailed key error retryAt =>
    obtain ⟨hkey, rfl⟩ := h
    rw [OutboxEvent.fail] at hstatus
    dsimp only at hstatus
    split at hstatus
    · exact .inl ⟨error, retryAt, by rw [hkey], ‹_›, rfl⟩
    · cases hstatus
  | markDead key error => exact .inr ⟨error, by rw [h.1]⟩
  | _ => exact h.elim

/-- Attempts are counted one at a time. -/
theorem Changes.attempts_le (h : Changes o e e') {r : Except Raised o.Res} :
    e'.attempts ≤ e.attempts + if OutboxCall.counted e.key ⟨o, r⟩ then 1 else 0 := by
  cases o with
  | claimBatch limit now =>
    obtain ⟨-, rfl⟩ := h
    exact Nat.le_add_right _ _
  | reclaimStale olderThan =>
    obtain ⟨-, rfl⟩ := h
    exact Nat.le_add_right _ _
  | markDelivered key =>
    obtain ⟨-, _, rfl⟩ := h
    exact Nat.le_add_right _ _
  | markFailed key error retryAt =>
    obtain ⟨hkey, rfl⟩ := h
    rw [if_pos (show OutboxCall.counted e.key ⟨OutboxOp.markFailed key error retryAt, r⟩ = true from
      decide_eq_true hkey.symm)]
    exact Nat.le_refl _
  | markDead key error =>
    obtain ⟨-, rfl⟩ := h
    exact Nat.le_add_right _ _
  | _ => exact h.elim

/-- **What is claimed** is only taken back, when it is old, or settled. -/
theorem Changes.of_claiming (h : Changes o e e') (hstatus : e.status = .claiming) :
    (∃ olderThan claimedAt, o = .reclaimStale olderThan ∧ e.claimedAt = some claimedAt ∧
      claimedAt < olderThan) ∨ o.settles = some e.key := by
  cases o with
  | claimBatch limit now =>
    rw [h.1] at hstatus
    cases hstatus
  | reclaimStale olderThan =>
    have hold := (Bool.and_eq_true_iff.mp h.1).2
    cases hclaimed : e.claimedAt with
    | none =>
      rw [hclaimed] at hold
      cases hold
    | some claimedAt =>
      rw [hclaimed] at hold
      exact .inl ⟨olderThan, claimedAt, rfl, rfl, of_decide_eq_true hold⟩
  | markDelivered key => exact .inr (congrArg some h.1.symm)
  | markFailed key error retryAt => exact .inr (congrArg some h.1.symm)
  | markDead key error => exact .inr (congrArg some h.1.symm)
  | _ => exact h.elim

end Changes

/-! ## Whatever happens -/

/-- A row that is to be sent. -/
def OutboxRow.Deliverable (t : Tables) (row : OutboxRow) : Prop :=
  ∃ d, row.delivery t = some d ∧ d.deliverable = true

/-- The row was sent, by somebody. -/
def SentBySomebody (t : Tables) (e : OutboxEvent) (log : OutboxLog) : Prop :=
  ∀ d, e.delivery t = some d → d.deliverable = true → ∃ caller url,
    (caller, (⟨OutboxOp.sendMessage url (JsonValue.dumps (.obj d.toPayload)) e.key, .ok ()⟩
      : OutboxCall)) ∈ log

/-- **Whatever happens**, the rows go with what was called. -/
structure OutboxKept (t : Tables) (a : OutboxTable × OutboxLog) : Prop where
  status : ∀ e ∈ a.1.rows, e.status ≠ .failed
  /-- what was enqueued is there -/
  enqueued : ∀ caller m, (caller, (⟨OutboxOp.enqueue m, .ok ()⟩ : OutboxCall)) ∈ a.2 →
    ∃ e ∈ a.1.rows, e.key = m.dedupKey
  /-- what was claimed is as it was -/
  claimed : ∀ x ∈ a.2, ∀ m ∈ OutboxCall.claimed x.2, ∃ e ∈ a.1.rows,
    e.key = m.dedupKey ∧ e.toOutboxRow = m.toOutboxRow
  distinct : ∀ caller, Distinct (own caller a.2)
  sent : ∀ e ∈ a.1.rows, e.status = .delivered → SentBySomebody t e a.2
  attempts : ∀ e ∈ a.1.rows, e.attempts ≤ a.2.countP fun x => OutboxCall.counted e.key x.2
  given : ∀ e ∈ a.1.rows, e.status = .dead → e.Deliverable t → 5 ≤ e.attempts
  counts : ∀ caller : Caller, caller.queued → ∀ key,
    (own caller a.2).countP (OutboxCall.counted key) ≤
      (own caller a.2).countP (OutboxCall.failedSend key)

section Kept

variable {t : Tables} {rows rows' : OutboxTable} {log : OutboxLog} {caller : Caller}
  {o : OutboxOp} {r : Except Raised o.Res} {e e' : OutboxEvent} {key : String}

theorem outboxKept_start : OutboxKept t ((Table.empty : OutboxTable), []) where
  status _ he := absurd he List.not_mem_nil
  enqueued _ _ h := absurd h List.not_mem_nil
  claimed _ h := absurd h List.not_mem_nil
  distinct _ := List.nodup_nil
  sent _ he := absurd he List.not_mem_nil
  attempts _ he := absurd he List.not_mem_nil
  given _ he := absurd he List.not_mem_nil
  counts _ _ _ := Nat.le_refl 0

/-- What a run has claimed is in the log. -/
theorem exists_of_claimedIn {m : QueuedMessage} (h : m ∈ claimedIn (own caller log)) :
    ∃ x ∈ log, x.1 = caller ∧ m ∈ OutboxCall.claimed x.2 := by
  obtain ⟨c, hc, hm⟩ := List.mem_flatMap.mp h
  exact ⟨(caller, c), mem_own.mp hc, rfl, hm⟩

/-- The row of a message that was claimed is as it was. -/
theorem OutboxKept.same (hk : OutboxKept t (rows, log)) {m : QueuedMessage}
    (hm : m ∈ claimedIn (own caller log)) (he : e ∈ rows.rows) (hkey : e.key = m.dedupKey) :
    e.toOutboxRow = m.toOutboxRow := by
  obtain ⟨x, hx, -, hclaimed⟩ := exists_of_claimedIn hm
  obtain ⟨e₁, he₁, hkey₁, hrow⟩ := hk.claimed x hx m hclaimed
  rw [rows.eq_of_key he he₁ (hkey.trans hkey₁.symm)]
  exact hrow

/-- A row that is to be sent is not given up at once. -/
theorem OutboxKept.not_markDead (hk : OutboxKept t (rows, log)) {error : String}
    (hp : CallerPermits t caller (own caller log) (.markDead e.key error)) (he : e ∈ rows.rows) :
    ¬e.Deliverable t := by
  cases caller with
  | turn n =>
    obtain ⟨m, hm⟩ := hp
    cases hm
  | relay n settings =>
    rintro ⟨d, hd, -⟩
    obtain ⟨-, m, hm, hkey, hnone⟩ := hp
    rw [hk.same hm he hkey.symm, hnone] at hd
    cases hd

/-- A row that is closed was sent if it should be. -/
theorem OutboxKept.sent_of_markDelivered (hk : OutboxKept t (rows, log))
    (hp : CallerPermits t caller (own caller log) (.markDelivered e.key)) (he : e ∈ rows.rows) :
    SentBySomebody t e log := by
  cases caller with
  | turn n =>
    obtain ⟨m, hm⟩ := hp
    cases hm
  | relay n settings =>
    obtain ⟨-, m, hm, hkey, hsent⟩ := hp
    intro d hd hdeliverable
    rw [hk.same hm he hkey.symm] at hd
    obtain ⟨url, hcall⟩ := hsent d hd hdeliverable
    rw [hkey] at hcall
    exact ⟨_, url, mem_own.mp hcall⟩

/-- What is settled is leased to whoever settles it. -/
theorem leased_of_permits (hp : CallerPermits t caller (own caller log) o)
    (hdistinct : Distinct (own caller log)) (hsettles : o.settles = some key) :
    Leased (own caller log) key := by
  cases caller with
  | turn n =>
    obtain ⟨m, rfl⟩ := hp
    cases hsettles
  | relay n settings =>
    cases o with
    | markDelivered k => exact Option.some.inj hsettles ▸ hp.1 hdistinct
    | markFailed k error retryAt => exact Option.some.inj hsettles ▸ hp.1 hdistinct
    | markDead k error => exact Option.some.inj hsettles ▸ hp.1 hdistinct
    | _ => cases hsettles

/-- What a call has claimed, its transaction has taken. -/
theorem claimed_of_answers (h : Answers o rows r rows') {m : QueuedMessage}
    (hm : m ∈ OutboxCall.claimed ⟨o, r⟩) : ∃ limit now taken, o = .claimBatch limit now ∧
      rows.Takes limit now taken ∧ OutboxCall.claimed ⟨o, r⟩ = taken.map OutboxEvent.toQueuedMessage ∧
      rows' = rows.claimAll taken now := by
  cases o with
  | claimBatch limit now =>
    cases r with
    | ok messages =>
      obtain ⟨taken, htakes, hmessages, hrows⟩ := h
      exact ⟨limit, now, taken, rfl, htakes, hmessages, hrows⟩
    | error exc => cases hm
  | _ => cases hm

theorem SentBySomebody.concat (h : SentBySomebody t e log) (hkey : e'.key = e.key)
    (hrow : e'.toOutboxRow = e.toOutboxRow) {x : Caller × OutboxCall} :
    SentBySomebody t e' (log ++ [x]) := by
  intro d hd hdeliverable
  rw [hrow] at hd
  obtain ⟨caller, url, hcall⟩ := h d hd hdeliverable
  rw [hkey]
  exact ⟨caller, url, List.mem_append_left _ hcall⟩

/-- What was enqueued and what was claimed is still there. -/
theorem OutboxKept.exists_row (ha : Answers o rows r rows') (he : e ∈ rows.rows) :
    ∃ e' ∈ rows'.rows, e'.key = e.key ∧ e'.toOutboxRow = e.toOutboxRow := by
  obtain ⟨e', he', rfl | hchanges⟩ := ha.kept he
  · exact ⟨e', he', rfl, rfl⟩
  · exact ⟨e', he', hchanges.same⟩

theorem OutboxKept.enqueued_step (hk : OutboxKept t (rows, log)) (ha : Answers o rows r rows')
    {by' : Caller} {m : QueuedMessage}
    (hcall : (by', (⟨OutboxOp.enqueue m, .ok ()⟩ : OutboxCall)) ∈ log ++ [(caller, ⟨o, r⟩)]) :
    ∃ e ∈ rows'.rows, e.key = m.dedupKey := by
  rcases List.mem_append.mp hcall with hcall | hcall
  · obtain ⟨e, he, hkey⟩ := hk.enqueued by' m hcall
    obtain ⟨e', he', hkey', -⟩ := OutboxKept.exists_row ha he
    exact ⟨e', he', hkey'.trans hkey⟩
  · cases List.mem_singleton.mp hcall
    exact exists_of_enqueue (a := ()) ha

theorem OutboxKept.claimed_step (hk : OutboxKept t (rows, log)) (ha : Answers o rows r rows')
    {x : Caller × OutboxCall} (hx : x ∈ log ++ [(caller, ⟨o, r⟩)]) {m : QueuedMessage}
    (hm : m ∈ OutboxCall.claimed x.2) :
    ∃ e ∈ rows'.rows, e.key = m.dedupKey ∧ e.toOutboxRow = m.toOutboxRow := by
  have hold : ∃ e ∈ rows.rows, e.key = m.dedupKey ∧ e.toOutboxRow = m.toOutboxRow := by
    rcases List.mem_append.mp hx with hx | hx
    · exact hk.claimed x hx m hm
    · obtain rfl := List.mem_singleton.mp hx
      obtain ⟨limit, now, taken, -, htakes, hclaimed, -⟩ := claimed_of_answers ha hm
      rw [hclaimed] at hm
      obtain ⟨e, he, rfl⟩ := List.mem_map.mp hm
      exact ⟨e, (htakes.mem he).1, rfl, rfl⟩
  obtain ⟨e, he, hkey, hrow⟩ := hold
  obtain ⟨e', he', hkey', hrow'⟩ := OutboxKept.exists_row ha he
  exact ⟨e', he', hkey'.trans hkey, hrow'.trans hrow⟩

theorem OutboxKept.distinct_step (hk : OutboxKept t (rows, log))
    (hp : CallerPermits t caller (own caller log) o) (ha : Answers o rows r rows')
    (other : Caller) : Distinct (own other (log ++ [(caller, ⟨o, r⟩)])) := by
  by_cases hother : other = caller
  · subst hother
    rw [own_concat_self, Distinct, claimedIn_concat]
    cases hclaimed : OutboxCall.claimed ⟨o, r⟩ with
    | nil =>
      rw [List.append_nil]
      exact hk.distinct other
    | cons m rest =>
      -- a run claims once
      have hm : m ∈ OutboxCall.claimed ⟨o, r⟩ := hclaimed ▸ List.mem_cons_self
      obtain ⟨limit, now, taken, rfl, htakes, htaken, -⟩ := claimed_of_answers ha hm
      have hnone : claimedIn (own other log) = [] := by
        cases other with
        | turn n =>
          obtain ⟨m, hm⟩ := hp
          cases hm
        | relay n settings => exact hp.1
      rw [hnone, List.nil_append, ← hclaimed, htaken, List.map_map]
      exact htakes.nodup
  · rw [own_concat_of_ne (Ne.symm hother)]
    exact hk.distinct other

theorem OutboxKept.sent_step (hk : OutboxKept t (rows, log))
    (hp : CallerPermits t caller (own caller log) o) (ha : Answers o rows r rows')
    (he' : e' ∈ rows'.rows) (hstatus : e'.status = .delivered) :
    SentBySomebody t e' (log ++ [(caller, ⟨o, r⟩)]) := by
  rcases ha.row he' with ⟨e, he, rfl | hchanges⟩ | hfresh
  · exact (hk.sent e' he hstatus).concat rfl rfl
  · have ho := hchanges.of_delivered hstatus
    rw [ho] at hp
    exact (hk.sent_of_markDelivered hp he).concat hchanges.same.1 hchanges.same.2
  · cases hfresh
    cases hstatus

theorem OutboxKept.attempts_step (hk : OutboxKept t (rows, log)) (ha : Answers o rows r rows')
    (he' : e' ∈ rows'.rows) : e'.attempts ≤
      (log ++ [(caller, (⟨o, r⟩ : OutboxCall))]).countP fun x =>
        OutboxCall.counted e'.key x.2 := by
  rw [List.countP_append, List.countP_singleton]
  rcases ha.row he' with ⟨e, he, rfl | hchanges⟩ | hfresh
  · exact Nat.le_add_right_of_le (hk.attempts e' he)
  · have hone := hchanges.attempts_le (r := r)
    have hle := hk.attempts e he
    rw [hchanges.same.1]
    dsimp only at hle ⊢
    omega
  · cases hfresh
    exact Nat.zero_le _

theorem OutboxKept.given_step (hk : OutboxKept t (rows, log))
    (hp : CallerPermits t caller (own caller log) o) (ha : Answers o rows r rows')
    (he' : e' ∈ rows'.rows) (hstatus : e'.status = .dead) (hdeliverable : e'.Deliverable t) :
    5 ≤ e'.attempts := by
  rcases ha.row he' with ⟨e, he, rfl | hchanges⟩ | hfresh
  · exact hk.given e' he hstatus hdeliverable
  · rcases hchanges.of_dead hstatus with ⟨error, retryAt, -, hfifth, hattempts⟩ | ⟨error, rfl⟩
    · rw [hattempts]
      exact hfifth
    · rw [hchanges.same.2] at hdeliverable
      exact absurd hdeliverable (hk.not_markDead hp he)
  · cases hfresh
    cases hstatus

theorem OutboxKept.counts_step (hk : OutboxKept t (rows, log))
    (hp : CallerPermits t caller (own caller log) o) {other : Caller} (hqueued : other.queued)
    (key : String) : (own other (log ++ [(caller, ⟨o, r⟩)])).countP (OutboxCall.counted key) ≤
      (own other (log ++ [(caller, ⟨o, r⟩)])).countP (OutboxCall.failedSend key) := by
  have hle := hk.counts other hqueued key
  by_cases hother : other = caller
  · subst hother
    rw [own_concat_self, List.countP_append, List.countP_append, List.countP_singleton,
      List.countP_singleton]
    split
    · -- an attempt is counted where there is a queue
      have hsettles := settles_of_counted ‹_›
      cases other with
      | turn n => exact hqueued.elim
      | relay n settings =>
        cases o with
        | markFailed k error retryAt =>
          obtain rfl : k = key := Option.some.inj hsettles
          have hless := hp.2 hqueued
          dsimp only at hle
          omega
        | markDelivered k => cases ‹OutboxCall.counted key _ = true›
        | markDead k error => cases ‹OutboxCall.counted key _ = true›
        | _ => cases hsettles
    · dsimp only at hle
      omega
  · rw [own_concat_of_ne (Ne.symm hother)]
    exact hle

/-- **One call** keeps it. -/
theorem OutboxKept.step (hk : OutboxKept t (rows, log))
    (hp : CallerPermits t caller (own caller log) o) (ha : Answers o rows r rows') :
    OutboxKept t (rows', log ++ [(caller, ⟨o, r⟩)]) where
  status e' he' := by
    rcases ha.row he' with ⟨e, he, rfl | hchanges⟩ | hfresh
    · exact hk.status e' he
    · exact hchanges.status_ne
    · cases hfresh
      exact nofun
  enqueued _ _ hcall := hk.enqueued_step ha hcall
  claimed _ hx _ hm := hk.claimed_step ha hx hm
  distinct := hk.distinct_step hp ha
  sent _ he' hstatus := hk.sent_step hp ha he' hstatus
  attempts _ he' := hk.attempts_step ha he'
  given _ he' hstatus hdeliverable := hk.given_step hp ha he' hstatus hdeliverable
  counts _ hqueued key := hk.counts_step hp hqueued key

/-- **Whatever happens** among turns and relays, in whatever order, with whatever kills them. -/
theorem kept_of_reach {p : OutboxPool}
    (h : Pool.Reach (outboxArena t).traced (Pool.start ((Table.empty : OutboxTable), [])) p) :
    Pool.Watched (CallerPermits t) (OutboxKept t) p := by
  refine Pool.Reach.guarded ?_ outboxKept_start (fun _ _ _ _ _ _ hp hk ha => hk.step hp ha) ?_ h
  · intro caller q rows henter
    cases caller with
    | turn n =>
      obtain ⟨m, rfl⟩ := henter
      exact guarded_perform_bind (S := outboxPorts) ⟨m, rfl⟩ fun _ => trivial
    | relay n settings =>
      obtain rfl : q = runOnce t settings := henter
      have hrun : (runOnce t settings).GuardedTo (S := outboxPorts) (Permits t settings)
          (fun _ _ => True) [] := guardedTo_relay.bind fun _ _ _ => trivial
      exact hrun.guarded
  · intro a b log hk hout
    obtain rfl : b = a := hout
    exact hk

end Kept

end NxTutors.MatchAgent
