import NxTutors.MatchAgent.OutboxRuns

/-!
# What becomes of a row

Each row is meant to be with one relay at a time, to be closed when it has been sent, and to be
given up when five sends have failed. Two things need care. A run that outlives its lease may still
settle rows that another has claimed. And a run without a queue counts an attempt where nothing was
sent, so a row is given up when five of these have come by (`given_up_unsent`).

In a run where neither happens, everything is as it is meant to be (`conserved_along`).
-/

namespace NxTutors.MatchAgent

open Text Effect Effect.Prog Store

/-! ## What is meant -/

/-- The keys of the rows in a status. -/
def OutboxTable.keysIn (rows : OutboxTable) (status : OutboxStatus) : List String :=
  (rows.rows.filter fun e => e.status = status).map OutboxEvent.key

/-- **A row is with a live run**: the run has neither ended nor been killed, and the row is leased
to it. -/
def Held (p : OutboxPool) (caller : Caller) (key : String) : Prop :=
  caller ∈ p.running.map Prod.fst ∧ Leased (own caller p.world.2) key

/-- **Rows are conserved**, and die only of real failures. -/
structure Conserved (t : Tables) (p : OutboxPool) : Prop where
  once : ∀ caller m, (caller, (⟨OutboxOp.enqueue m, .ok ()⟩ : OutboxCall)) ∈ p.world.2 →
    (p.world.1.keysIn .pending ++ p.world.1.keysIn .claiming ++ p.world.1.keysIn .delivered ++
      p.world.1.keysIn .dead).count m.dedupKey = 1
  alone : ∀ i j key, Held p i key → Held p j key → i = j
  sent : ∀ e ∈ p.world.1.rows, e.status = .delivered → SentBySomebody t e p.world.2
  died : ∀ e ∈ p.world.1.rows, e.status = .dead → e.Deliverable t →
    5 ≤ p.world.2.countP fun x => OutboxCall.failedSend e.key x.2

/-- **A step with care.** When abandoned rows are taken back, whoever is live and still has rows to
settle has not claimed them that long ago. When a row that is to be sent is tried for the last time,
all the attempts that are counted for it are of runs with a queue. -/
structure Careful (t : Tables) (p q : OutboxPool) : Prop where
  lease : ∀ caller olderThan r,
    q.world.2 = p.world.2 ++ [(caller, (⟨OutboxOp.reclaimStale olderThan, r⟩ : OutboxCall))] →
    ∀ i key, Held p i key → ∀ limit now messages,
      (i, (⟨OutboxOp.claimBatch limit now, .ok messages⟩ : OutboxCall)) ∈ p.world.2 →
        olderThan ≤ now
  queue : ∀ caller key error retryAt r,
    q.world.2 = p.world.2 ++ [(caller, (⟨OutboxOp.markFailed key error retryAt, r⟩ : OutboxCall))] →
    ∀ e ∈ p.world.1.rows, e.key = key → e.Deliverable t → 5 ≤ e.attempts + 1 →
      ∀ x ∈ q.world.2, OutboxCall.counted key x.2 = true → x.1.queued

/-! ## One row for each key -/

/-- A row that has not failed is in one of the four. -/
theorem count_keysIn {l : List OutboxEvent} (h : ∀ e ∈ l, e.status ≠ .failed) (key : String) :
    (((l.filter fun e => e.status = .pending).map OutboxEvent.key) ++
      ((l.filter fun e => e.status = .claiming).map OutboxEvent.key) ++
      ((l.filter fun e => e.status = .delivered).map OutboxEvent.key) ++
      ((l.filter fun e => e.status = .dead).map OutboxEvent.key)).count key =
    (l.map OutboxEvent.key).count key := by
  induction l with
  | nil => rfl
  | cons e l ih =>
    have hrest := ih fun x hx => h x (List.mem_cons_of_mem _ hx)
    have hne := h e List.mem_cons_self
    simp only [List.count_append] at hrest ⊢
    rw [List.map_cons, List.count_cons]
    cases hstatus : e.status with
    | failed => exact absurd hstatus hne
    | pending => simp [hstatus, List.count_cons]; omega
    | claiming => simp [hstatus, List.count_cons]; omega
    | delivered => simp [hstatus, List.count_cons]; omega
    | dead => simp [hstatus, List.count_cons]; omega

theorem OutboxKept.once {t : Tables} {a : OutboxTable × OutboxLog} (hk : OutboxKept t a)
    {caller : Caller} {m : QueuedMessage}
    (hcall : (caller, (⟨OutboxOp.enqueue m, .ok ()⟩ : OutboxCall)) ∈ a.2) :
    (a.1.keysIn .pending ++ a.1.keysIn .claiming ++ a.1.keysIn .delivered ++
      a.1.keysIn .dead).count m.dedupKey = 1 := by
  obtain ⟨e, he, hkey⟩ := hk.enqueued caller m hcall
  have hcount := count_keysIn hk.status m.dedupKey
  rw [OutboxTable.keysIn, OutboxTable.keysIn, OutboxTable.keysIn, OutboxTable.keysIn, hcount]
  exact List.count_eq_one_of_mem a.1.nodup (hkey ▸ List.mem_map_of_mem he)

/-! ## One run for each row -/

section Leases

variable {t : Tables} {rows rows' : OutboxTable} {log : OutboxLog} {caller i j : Caller}
  {o : OutboxOp} {r : Except Raised o.Res} {e e' : OutboxEvent} {key : String}
  {h : RelayHistory} {c : OutboxCall} {p q : OutboxPool}

theorem not_leased_nil : ¬Leased [] key := by
  rintro ⟨⟨m, hm, -⟩, -⟩
  cases hm

/-- A row is leased that was leased before and is not settled now, or is claimed now. -/
theorem leased_concat (hl : Leased (h ++ [c]) key) :
    Leased h key ∧ c.1.settles ≠ some key ∨ ∃ m ∈ OutboxCall.claimed c, m.dedupKey = key := by
  obtain ⟨⟨m, hm, hkey⟩, hun⟩ := hl
  rw [claimedIn_concat] at hm
  rcases List.mem_append.mp hm with hm | hm
  · refine .inl ⟨⟨⟨m, hm, hkey⟩, fun x hx => hun x (List.mem_append_left _ hx)⟩, ?_⟩
    exact hun c (List.mem_append_right _ (List.mem_singleton.mpr rfl))
  · exact .inr ⟨m, hm, hkey⟩

/-- The row is claimed, since the run has claimed it. -/
def ClaimedBy (rows : OutboxTable) (log : OutboxLog) (caller : Caller) (key : String) : Prop :=
  ∃ e ∈ rows.rows, e.key = key ∧ e.status = .claiming ∧ ∃ limit now messages,
    (caller, (⟨OutboxOp.claimBatch limit now, .ok messages⟩ : OutboxCall)) ∈ log ∧
      e.claimedAt = some now

/-- **Leases are kept**: what is with a live run is claimed by it, and by nobody else; and what was
given up has failed five times. -/
structure Leasing (t : Tables) (p : OutboxPool) : Prop where
  claimed : ∀ i key, Held p i key → ClaimedBy p.world.1 p.world.2 i key
  alone : ∀ i j key, Held p i key → Held p j key → i = j
  died : ∀ e ∈ p.world.1.rows, e.status = .dead → e.Deliverable t →
    5 ≤ p.world.2.countP fun x => OutboxCall.failedSend e.key x.2

/-- What is only done by fewer is done as well. -/
theorem Leasing.mono (hl : Leasing t p) (hworld : q.world = p.world)
    (hheld : ∀ i key, Held q i key → Held p i key) : Leasing t q where
  claimed i key hi := by
    rw [hworld]
    exact hl.claimed i key (hheld i key hi)
  alone i j key hi hj := hl.alone i j key (hheld i key hi) (hheld j key hj)
  died := by
    rw [hworld]
    exact hl.died

/-- **A lease survives a call** that does not settle it, if the caller takes care. -/
theorem ClaimedBy.step (hclaimed : ClaimedBy rows log i key) (ha : Answers o rows r rows')
    (hlease : ∀ olderThan, o = .reclaimStale olderThan → ∀ limit now messages,
      (i, (⟨OutboxOp.claimBatch limit now, .ok messages⟩ : OutboxCall)) ∈ log → olderThan ≤ now)
    (hsettles : o.settles ≠ some key) :
    ClaimedBy rows' (log ++ [(caller, ⟨o, r⟩)]) i key := by
  obtain ⟨e, he, hkey, hstatus, limit, now, messages, hcall, hat⟩ := hclaimed
  obtain ⟨e', he', rfl | hchanges⟩ := ha.kept he
  · exact ⟨e', he', hkey, hstatus, limit, now, messages, List.mem_append_left _ hcall, hat⟩
  · exfalso
    rcases hchanges.of_claiming hstatus with ⟨olderThan, claimedAt, ho, hsome, hless⟩ | hsome
    · rw [hat] at hsome
      have hle := hlease olderThan ho limit now messages hcall
      rw [Option.some.inj hsome] at hle
      exact absurd hless (not_lt.mpr hle)
    · exact hsettles (hkey ▸ hsome)

/-- What a run has just claimed is claimed by it. -/
theorem claimedBy_of_claim (ha : Answers o rows r rows') {m : QueuedMessage}
    (hm : m ∈ OutboxCall.claimed ⟨o, r⟩) :
    ClaimedBy rows' (log ++ [(caller, ⟨o, r⟩)]) caller m.dedupKey := by
  cases o with
  | claimBatch limit now =>
    cases r with
    | ok messages =>
      obtain ⟨taken, htakes, rfl, rfl⟩ := ha
      obtain ⟨e, he, rfl⟩ := List.mem_map.mp hm
      refine ⟨e.claim now, ?_, rfl, rfl, limit, now, _,
        List.mem_append_right _ (List.mem_singleton.mpr rfl), rfl⟩
      refine OutboxTable.mem_update.mpr ⟨e, (htakes.mem he).1, if_pos ?_⟩
      exact decide_eq_true (List.mem_map_of_mem he)
    | error exc => cases hm
  | _ => cases hm

/-- What can be claimed is with nobody. -/
theorem not_claimedBy_of_claim (ha : Answers o rows r rows') {m : QueuedMessage}
    (hm : m ∈ OutboxCall.claimed ⟨o, r⟩) : ¬ClaimedBy rows log i m.dedupKey := by
  rintro ⟨e, he, hkey, hstatus, -⟩
  obtain ⟨limit, now, taken, -, htakes, hclaimed, -⟩ := claimed_of_answers ha hm
  rw [hclaimed] at hm
  obtain ⟨x, hx, rfl⟩ := List.mem_map.mp hm
  obtain ⟨hrow, hready⟩ := htakes.mem hx
  obtain rfl := rows.eq_of_key he hrow hkey
  have hpending : e.status = .pending := of_decide_eq_true (Bool.and_eq_true_iff.mp hready).1
  rw [hstatus] at hpending
  cases hpending

/-! ### A call -/

/-- A call with care, in a pool that keeps the leases. -/
structure CarefulCall (t : Tables) (p q : OutboxPool) (rows rows' : OutboxTable) (log : OutboxLog)
    (caller : Caller) (o : OutboxOp) (r : Except Raised o.Res) : Prop where
  world : p.world = (rows, log)
  world' : q.world = (rows', log ++ [(caller, ⟨o, r⟩)])
  live : caller ∈ p.running.map Prod.fst
  names : q.running.map Prod.fst = p.running.map Prod.fst
  permits : CallerPermits t caller (own caller log) o
  answers : Answers o rows r rows'
  kept : OutboxKept t (rows, log)
  kept' : OutboxKept t q.world
  leasing : Leasing t p
  careful : Careful t p q

namespace CarefulCall

/-- A row that is with a run after the call was with it before and is not settled by it now, or the
run has claimed it now. -/
theorem held (hc : CarefulCall t p q rows rows' log caller o r) (hi : Held q i key) :
    Held p i key ∧ (i = caller → o.settles ≠ some key) ∨
      i = caller ∧ ∃ m ∈ OutboxCall.claimed ⟨o, r⟩, m.dedupKey = key := by
  obtain ⟨hrunning, hleased⟩ := hi
  rw [hc.names] at hrunning
  rw [hc.world'] at hleased
  by_cases hcaller : i = caller
  · subst hcaller
    rw [own_concat_self] at hleased
    rcases leased_concat hleased with ⟨hbefore, hsettles⟩ | hclaimed
    · refine .inl ⟨⟨hrunning, ?_⟩, fun _ => hsettles⟩
      rw [hc.world]
      exact hbefore
    · exact .inr ⟨rfl, hclaimed⟩
  · rw [own_concat_of_ne (Ne.symm hcaller)] at hleased
    refine .inl ⟨⟨hrunning, ?_⟩, fun heq => absurd heq hcaller⟩
    rw [hc.world]
    exact hleased

/-- A row that is with a run is settled by nobody else. -/
theorem settles_ne (hc : CarefulCall t p q rows rows' log caller o r) (hi : Held p i key)
    (hown : i = caller → o.settles ≠ some key) : o.settles ≠ some key := by
  intro hsettles
  have hleased : Leased (own caller p.world.2) key := by
    rw [hc.world]
    exact leased_of_permits hc.permits (hc.kept.distinct caller) hsettles
  exact hown (hc.leasing.alone i caller key hi ⟨hc.live, hleased⟩) hsettles

/-- **What is with a run is claimed by it**, still or now. -/
theorem claimed (hc : CarefulCall t p q rows rows' log caller o r) (hi : Held q i key) :
    ClaimedBy q.world.1 q.world.2 i key := by
  rw [hc.world']
  rcases hc.held hi with ⟨hheld, hown⟩ | ⟨rfl, m, hm, rfl⟩
  · have hclaimed := hc.leasing.claimed i key hheld
    rw [hc.world] at hclaimed
    refine hclaimed.step hc.answers ?_ (hc.settles_ne hheld hown)
    rintro olderThan rfl limit now messages hcall
    refine hc.careful.lease caller olderThan r ?_ i key hheld limit now messages ?_
    · rw [hc.world, hc.world']
    · rw [hc.world]
      exact hcall
  · exact claimedBy_of_claim hc.answers hm

/-- **What is with a run is with no other.** -/
theorem alone (hc : CarefulCall t p q rows rows' log caller o r) (hi : Held q i key)
    (hj : Held q j key) : i = j := by
  have hapart : ∀ {x : Caller} {m : QueuedMessage}, m ∈ OutboxCall.claimed ⟨o, r⟩ →
      ¬Held p x m.dedupKey := by
    intro x m hm hx
    have hclaimed := hc.leasing.claimed x m.dedupKey hx
    rw [hc.world] at hclaimed
    exact not_claimedBy_of_claim hc.answers hm hclaimed
  rcases hc.held hi with ⟨hheld, -⟩ | ⟨rfl, m, hm, rfl⟩
  · rcases hc.held hj with ⟨hheld', -⟩ | ⟨rfl, m, hm, rfl⟩
    · exact hc.leasing.alone i j key hheld hheld'
    · exact absurd hheld (hapart hm)
  · rcases hc.held hj with ⟨hheld', -⟩ | ⟨rfl, -⟩
    · exact absurd hheld' (hapart hm)
    · rfl

/-- **What is given up** has failed five times. -/
theorem died (hc : CarefulCall t p q rows rows' log caller o r) (he' : e' ∈ q.world.1.rows)
    (hstatus : e'.status = .dead) (hdeliverable : e'.Deliverable t) :
    5 ≤ q.world.2.countP fun x => OutboxCall.failedSend e'.key x.2 := by
  have hrow : e' ∈ rows'.rows := by
    rw [hc.world'] at he'
    exact he'
  rcases hc.answers.row hrow with ⟨e, he, rfl | hchanges⟩ | hfresh
  · have hdied := hc.leasing.died e' (by rw [hc.world]; exact he) hstatus hdeliverable
    rw [hc.world] at hdied
    rw [hc.world', List.countP_append]
    exact Nat.le_add_right_of_le hdied
  · obtain ⟨hkey, hsame⟩ := hchanges.same
    have hbefore : e.Deliverable t := by
      rw [← hsame]
      exact hdeliverable
    rcases hchanges.of_dead hstatus with ⟨error, retryAt, rfl, hfifth, -⟩ | ⟨error, rfl⟩
    · -- each attempt that is counted is of a run with a queue, and a send of it has failed
      have hqueued := hc.careful.queue caller e.key error retryAt r (by rw [hc.world, hc.world']) e
        (by rw [hc.world]; exact he) rfl hbefore hfifth
      have hown : ∀ x, (own x q.world.2).countP (OutboxCall.counted e.key) ≤
          (own x q.world.2).countP (OutboxCall.failedSend e.key) := by
        intro x
        by_cases hx : x.queued
        · exact hc.kept'.counts x hx e.key
        · have hzero : (own x q.world.2).countP (OutboxCall.counted e.key) = 0 := by
            refine List.countP_eq_zero.mpr fun c hmem hcounted => hx ?_
            exact hqueued (x, c) (mem_own.mp hmem) hcounted
          rw [hzero]
          exact Nat.zero_le _
      rw [hkey]
      calc 5 ≤ e'.attempts := hc.kept'.given e' he' hstatus hdeliverable
        _ ≤ q.world.2.countP fun x => OutboxCall.counted e'.key x.2 := hc.kept'.attempts e' he'
        _ = q.world.2.countP fun x => OutboxCall.counted e.key x.2 := by rw [hkey]
        _ ≤ q.world.2.countP fun x => OutboxCall.failedSend e.key x.2 := countP_le_of_own hown
    · exact absurd hbefore (hc.kept.not_markDead hc.permits he)
  · cases hfresh
    cases hstatus

/-- **One call** with care keeps the leases. -/
theorem leases (hc : CarefulCall t p q rows rows' log caller o r) : Leasing t q where
  claimed _ _ hi := hc.claimed hi
  alone _ _ _ hi hj := hc.alone hi hj
  died _ he hstatus hdeliverable := hc.died he hstatus hdeliverable

end CarefulCall

/-! ### A run with care -/

/-- **One step** with care keeps the leases. -/
theorem Leasing.step (hl : Leasing t p)
    (hreach : Pool.Reach (outboxArena t).traced (Pool.start ((Table.empty : OutboxTable), [])) p)
    (hstep : Pool.Step (outboxArena t).traced p q) (hcare : Careful t p q) : Leasing t q := by
  have hwatched := kept_of_reach hreach
  have hwatched' := kept_of_reach (hreach.tail hstep)
  cases hstep with
  | @enter w run fin caller p henter hfresh =>
    refine hl.mono rfl fun i key hi => ⟨?_, hi.2⟩
    have hmem := hi.1
    rw [List.map_append] at hmem
    rcases List.mem_append.mp hmem with hmem | hmem
    · exact hmem
    · -- nobody has claimed anything who enters
      have hleased := hi.2
      rw [List.mem_singleton.mp hmem, henter.2] at hleased
      exact absurd hleased not_leased_nil
  | @call a b l rest fin caller o k res hcall =>
    obtain ⟨rows, log⟩ := a
    obtain ⟨rows', log'⟩ := b
    obtain ⟨ha, rfl⟩ := hcall
    have hans : Answers o rows res rows' := ha
    refine CarefulCall.leases (o := o) (r := res)
      { world := rfl, world' := rfl, live := by simp, names := by simp
        permits := (hwatched.running (caller, .call o k) (by simp)).1, answers := hans
        kept := hwatched.inv, kept' := hwatched'.inv, leasing := hl, careful := hcare }
  | @finish w l rest fin caller p out hend =>
    refine hl.mono rfl fun i key hi => ⟨?_, hi.2⟩
    have hmem := hi.1
    simp only [List.map_append, List.map_cons, List.mem_append, List.mem_cons] at hmem ⊢
    exact hmem.imp_right .inr
  | @crash w l rest fin x =>
    refine hl.mono rfl fun i key hi => ⟨?_, hi.2⟩
    have hmem := hi.1
    simp only [List.map_append, List.map_cons, List.mem_append, List.mem_cons] at hmem ⊢
    exact hmem.imp_right .inr
  | @outside a b run fin hout =>
    obtain ⟨rows, log⟩ := a
    obtain ⟨rows', log'⟩ := b
    obtain ⟨hrows, hlog⟩ := hout
    obtain rfl : rows' = rows := hrows
    obtain rfl : log' = log := hlog
    exact hl.mono rfl fun i key hi => hi

/-- **Rows are conserved in a run with care**: whatever turns and relays do, in whatever order, with
whatever kills them. -/
theorem conserved_along (h : Pool.Under (Careful t) (outboxArena t).traced
    (Pool.start ((Table.empty : OutboxTable), [])) p) : Conserved t p := by
  have hstart : Leasing t (Pool.start ((Table.empty : OutboxTable), []) : OutboxPool) :=
    ⟨fun i key hi => absurd hi.1 List.not_mem_nil, fun i j key hi => absurd hi.1 List.not_mem_nil,
      fun e he => absurd he List.not_mem_nil⟩
  have hl := h.inv hstart fun a b hreach hla hstep hcare => hla.step hreach hstep hcare
  have hk := (kept_of_reach h.reach).inv
  exact
    { once := fun caller m hcall => hk.once hcall
      alone := hl.alone
      sent := hk.sent
      died := hl.died }

end Leases

/-! ## Without a queue -/

/-- A reply to a message, as the repository takes it. -/
def helloReply : QueuedMessage where
  toOutboxRow := (TurnService.replyMessage smallService hello "Which class?").row
  conversationId := "wa:1"
  dedupKey := "reply:m1"

theorem deliverable_helloReply : helloReply.Deliverable smallService.t :=
  ⟨(TurnService.delivery smallService hello "Which class?").v1,
    delivery_row (by decide) (.refl _), by decide⟩

/-- The oldest rows that can be claimed, where nothing is locked. -/
def OutboxTable.oldest (rows : OutboxTable) (limit : Nat) (now : Time) : List OutboxEvent :=
  ((rows.rows.filter fun e => e.ready now && !false).insertionSort
    fun a b => a.createdAt ≤ b.createdAt).take limit

theorem OutboxTable.takes_oldest (rows : OutboxTable) (limit : Nat) (now : Time) :
    rows.Takes limit now (rows.oldest limit now) :=
  ⟨fun _ => false, _, List.perm_insertionSort _ _, List.pairwise_insertionSort _ _, rfl⟩

/-- Answers where nothing fails and the clock stands still. -/
def unfailing (_ : Nat) : (o : OutboxOp) → OutboxTable → Except Raised o.Res × OutboxTable
  | .now, rows => (.ok (0 : Int), rows)
  | .enqueue m, rows => (.ok (), rows.enqueue m 0)
  | .reclaimStale olderThan, rows =>
    (.ok (rows.rows.countP (OutboxEvent.stale olderThan)), rows.reclaimStale olderThan)
  | .claimBatch limit now, rows =>
    (.ok ((rows.oldest limit now).map OutboxEvent.toQueuedMessage),
      rows.claimAll (rows.oldest limit now) now)
  | .markDelivered key, rows => (.ok (), rows.markDelivered key 0)
  | .markFailed key error retryAt, rows => (.ok (), rows.markFailed key error retryAt)
  | .markDead key error, rows => (.ok (), rows.markDead key error)
  | .sendMessage _ _ _, rows => (.ok (), rows)

theorem answers_unfailing (n : Nat) (o : OutboxOp) (rows : OutboxTable) :
    Answers o rows (unfailing n o rows).1 (unfailing n o rows).2 := by
  cases o with
  | now => exact rfl
  | enqueue m => exact ⟨0, rfl⟩
  | reclaimStale olderThan => exact ⟨rfl, rfl⟩
  | claimBatch limit now => exact ⟨_, rows.takes_oldest limit now, rfl, rfl⟩
  | markDelivered key => exact ⟨0, rfl⟩
  | markFailed key error retryAt => exact rfl
  | markDead key error => exact rfl
  | sendMessage url body key => exact rfl

/-- A reply is enqueued, and five runs without a queue come by. -/
def unqueuedRuns : List (Caller × Relay (Option RelayReport)) :=
  (.turn 0, enqueues helloReply) ::
    (List.range 5).map fun n => (.relay n {}, runOnce smallService.t {})

/-- What they leave. -/
def afterUnqueuedRuns : OutboxTable × OutboxLog :=
  Pool.tracePlays (S := outboxPorts) unfailing unqueuedRuns ((Table.empty : OutboxTable), [])

theorem reach_unqueuedRuns : ∃ p : OutboxPool, p.world = afterUnqueuedRuns ∧
    Pool.Reach (outboxArena smallService.t).traced (Pool.start ((Table.empty : OutboxTable), []))
      p := by
  have henter : ∀ x ∈ unqueuedRuns, ∀ rows, (outboxArena smallService.t).enters x.1 x.2 rows := by
    intro x hx rows
    rcases List.mem_cons.mp hx with rfl | hx
    · exact ⟨helloReply, rfl⟩
    · obtain ⟨n, -, rfl⟩ := List.mem_map.mp hx
      exact rfl
  have hnodup : (unqueuedRuns.map Prod.fst).Nodup := by decide
  obtain ⟨fin, hreach⟩ := Pool.Reach.traced_plays (A := outboxArena smallService.t)
    (f := unfailing) (fun _ n o rows => answers_unfailing n o rows) henter hnodup
    ((Table.empty : OutboxTable), []) [] (fun _ _ => rfl) (fun _ _ => List.not_mem_nil)
  exact ⟨_, rfl, hreach⟩

/-- **A reply is given up unsent**: it could be sent, and no send of it has failed. -/
theorem given_up_unsent : ∃ p : OutboxPool,
    Pool.Reach (outboxArena smallService.t).traced (Pool.start ((Table.empty : OutboxTable), []))
      p ∧
    (∃ e ∈ p.world.1.rows, e.Deliverable smallService.t ∧ e.status = .dead ∧
      p.world.2.countP (fun x => OutboxCall.failedSend e.key x.2) = 0) ∧
    ¬Conserved smallService.t p := by
  obtain ⟨p, hworld, hreach⟩ := reach_unqueuedRuns
  have hrow : ∃ e, afterUnqueuedRuns.1.rows = [e] ∧ e.toOutboxRow = helloReply.toOutboxRow ∧
      e.status = .dead ∧ e.key = "reply:m1" := ⟨_, rfl, rfl, rfl, rfl⟩
  obtain ⟨e, hrows, hsame, hstatus, hkey⟩ := hrow
  have he : e ∈ p.world.1.rows := by
    rw [hworld, hrows]
    exact List.mem_singleton.mpr rfl
  have hdeliverable : e.Deliverable smallService.t := hsame ▸ deliverable_helloReply
  have hunsent : p.world.2.countP (fun x => OutboxCall.failedSend e.key x.2) = 0 := by
    rw [hworld, hkey]
    decide
  refine ⟨p, hreach, ⟨e, he, hdeliverable, hstatus, hunsent⟩, fun hconserved => ?_⟩
  have hfive := hconserved.died e he hstatus hdeliverable
  rw [hunsent] at hfive
  exact absurd hfive (by decide)

/-! ### One run without a queue -/

section Careful

variable {t : Tables} {p q : OutboxPool} {caller : Caller} {o : OutboxOp}
  {r : Except Raised o.Res}

/-- Where nothing is called there is nothing to take care of. -/
theorem careful_of_same (h : q.world.2 = p.world.2) : Careful t p q where
  lease _ _ _ hcall := by
    rw [h] at hcall
    exact absurd (List.self_eq_append_right.mp hcall) (List.cons_ne_nil _ _)
  queue _ _ _ _ _ hcall := by
    rw [h] at hcall
    exact absurd (List.self_eq_append_right.mp hcall) (List.cons_ne_nil _ _)

/-- A call is careful, if nobody has claimed anything when it takes rows back, and if no row has
been tried so often when it counts an attempt. -/
theorem careful_of_call (h : q.world.2 = p.world.2 ++ [(caller, ⟨o, r⟩)])
    (hlease : ∀ olderThan, o = .reclaimStale olderThan →
      ∀ x ∈ p.world.2, OutboxCall.claimed x.2 = [])
    (hqueue : ∀ key error retryAt, o = .markFailed key error retryAt →
      ∀ e ∈ p.world.1.rows, e.attempts < 4) : Careful t p q where
  lease by' olderThan r' hcall i key hheld := by
    rw [h] at hcall
    cases List.singleton_inj.mp (List.append_cancel_left hcall)
    obtain ⟨m, hm, -⟩ := hheld.2.claimed
    obtain ⟨x, hx, -, hclaimed⟩ := exists_of_claimedIn hm
    rw [hlease olderThan rfl x hx] at hclaimed
    cases hclaimed
  queue by' key error retryAt r' hcall e he _ _ hfifth := by
    rw [h] at hcall
    cases List.singleton_inj.mp (List.append_cancel_left hcall)
    have hfew := hqueue key error retryAt rfl e he
    omega

/-- The only program that runs makes a call, nothing fails, and care is taken. -/
theorem under_unfailing {k : Except Raised o.Res → Relay (Option RelayReport)} {rows : OutboxTable}
    {log : OutboxLog} {fin : List (Caller × Except Raised (Option RelayReport))}
    (hlease : ∀ olderThan, o = .reclaimStale olderThan →
      ∀ x ∈ log, OutboxCall.claimed x.2 = [])
    (hqueue : ∀ key error retryAt, o = .markFailed key error retryAt →
      ∀ e ∈ rows.rows, e.attempts < 4)
    (hrest : Pool.Under (Careful t) (outboxArena t).traced
      ⟨((unfailing 0 o rows).2, log ++ [(caller, ⟨o, (unfailing 0 o rows).1⟩)]),
        [(caller, k (unfailing 0 o rows).1)], fin⟩ q) :
    Pool.Under (Careful t) (outboxArena t).traced ⟨(rows, log), [(caller, .call o k)], fin⟩ q :=
  Pool.Under.traced_call (A := outboxArena t) (answers_unfailing 0)
    (careful_of_call rfl hlease hqueue) hrest

end Careful

/-- **One run without a queue** does no harm yet: the reply has one attempt, and waits. -/
theorem counted_once : ∃ p : OutboxPool,
    Pool.Under (Careful smallService.t) (outboxArena smallService.t).traced
      (Pool.start ((Table.empty : OutboxTable), [])) p ∧
    p.world.1.rows.map (fun e => (e.status, e.attempts)) = [(.pending, 1)] ∧
    Conserved smallService.t p := by
  have hturn : (outboxArena smallService.t).enters (.turn 0) (enqueues helloReply) Table.empty :=
    ⟨helloReply, rfl⟩
  have hrelay : ∀ rows, (outboxArena smallService.t).enters (.relay 0 {})
      (runOnce smallService.t {}) rows := fun _ => rfl
  have hrun : ∃ p : OutboxPool, Pool.Under (Careful smallService.t)
      (outboxArena smallService.t).traced (Pool.start ((Table.empty : OutboxTable), [])) p ∧
      p.world.1.rows.map (fun e => (e.status, e.attempts)) = [(.pending, 1)] := by
    refine ⟨?p, ?path, ?row⟩
    case path =>
      -- the turn
      refine .head ⟨.enter ⟨hturn, rfl⟩ nofun, careful_of_same rfl⟩ ?_
      refine under_unfailing (o := .enqueue helloReply) nofun nofun ?_
      refine .head ⟨.finish (l := []) (r := []) rfl, careful_of_same rfl⟩ ?_
      -- the run, which finds no queue
      refine .head ⟨.enter ⟨hrelay _, rfl⟩ (by decide), careful_of_same rfl⟩ ?_
      refine under_unfailing (o := .now) nofun nofun ?_
      refine under_unfailing (o := .reclaimStale _) ?_ nofun ?_
      · intro _ _ x hx
        rcases List.mem_append.mp hx with hx | hx
        · rw [List.mem_singleton.mp hx]
          rfl
        · rw [List.mem_singleton.mp hx]
          rfl
      refine under_unfailing (o := .claimBatch _ _) nofun nofun ?_
      refine under_unfailing (o := .markFailed _ _ _) nofun ?_ ?_
      · intro _ _ _ _ e he
        rw [List.mem_singleton.mp he]
        decide
      refine .head ⟨.finish (l := []) (r := []) rfl, careful_of_same rfl⟩ ?_
      exact .refl
    case row => rfl
  obtain ⟨p, hunder, hrow⟩ := hrun
  exact ⟨p, hunder, hrow, conserved_along hunder⟩

end NxTutors.MatchAgent
