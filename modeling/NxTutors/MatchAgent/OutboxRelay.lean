import NxTutors.MatchAgent.PostgresOutbox

/-!
# The relay of the outbox

A run of the relay takes abandoned rows back, claims a batch, and settles one row after the other:
what cannot be read is dead, what was only for the record is closed, the rest is sent, and is closed
if it went out and tried again if it did not. Without a queue it sends nothing, and counts an
attempt for each row all the same.

A run settles what it has claimed, once, and has a reason for how it does (`guardedTo_relay`).
-/

namespace NxTutors.MatchAgent

open Text Effect Effect.Prog

/-! ## The job -/

def BATCH_SIZE : Nat := 25

def BACKOFF_SECONDS : List Int := [30, 120, 600, 1800, 3600]

def CLAIM_LEASE_SECONDS : Int := 900

/-- What the relay reads of the settings. -/
structure RelaySettings where
  outboundQueueUrl : String := ""
  deriving DecidableEq, Repr

/-- `_retry_at`. -/
def retryAt (attempts : Nat) (now : Time) : Time :=
  let index := min attempts (BACKOFF_SECONDS.length - 1)
  now + BACKOFF_SECONDS.getD index 0 * 1000000

/-- What a run returns. -/
inductive RelayReport
  | idle (reclaimed : Nat)
  | skipped (pending reclaimed : Nat)
  | drained (relayed audited failed invalid reclaimed : Nat)
  deriving DecidableEq, Repr

structure Tally where
  relayed : Nat := 0
  audited : Nat := 0
  failed : Nat := 0
  invalid : Nat := 0
  deriving DecidableEq, Repr

/-- `f"{type(exc).__name__}: {exc}"`. -/
def Raised.text (exc : Raised) : String := exc.type ++ ": " ++ exc.message

abbrev Relay (α : Type) := Prog outboxPorts Raised α

def ask (o : OutboxOp) : Relay o.Res := perform (S := outboxPorts) o

/-- There is no queue: each row is to be tried again at once. -/
def release (now : Time) : List QueuedMessage → Relay Unit
  | [] => .ret ()
  | message :: rest => do
    let _ ← ask (.markFailed message.dedupKey "no_outbound_queue_configured" now)
    release now rest

/-- One row. -/
def settle (t : Tables) (settings : RelaySettings) (now : Time) (message : QueuedMessage)
    (tally : Tally) : Relay Tally :=
  match message.delivery t with
  | none => do
    let _ ← ask (.markDead message.dedupKey "invalid_delivery_payload")
    .ret { tally with invalid := tally.invalid + 1 }
  | some delivery =>
    if !delivery.deliverable then do
      let _ ← ask (.markDelivered message.dedupKey)
      .ret { tally with audited := tally.audited + 1 }
    else do
      let sent ← (ask (.sendMessage settings.outboundQueueUrl
        (JsonValue.dumps (.obj delivery.toPayload)) message.dedupKey)).attempt
      match sent with
      | .error exc => do
        let _ ← ask (.markFailed message.dedupKey exc.text (retryAt message.attempts now))
        .ret { tally with failed := tally.failed + 1 }
      | .ok _ => do
        let _ ← ask (.markDelivered message.dedupKey)
        .ret { tally with relayed := tally.relayed + 1 }

def drain (t : Tables) (settings : RelaySettings) (now : Time) :
    List QueuedMessage → Tally → Relay Tally
  | [], tally => .ret tally
  | message :: rest, tally => do
    let tally ← settle t settings now message tally
    drain t settings now rest tally

/-- One run. -/
def relay (t : Tables) (settings : RelaySettings) : Relay RelayReport := do
  let now : Time ← ask .now
  let reclaimed : Nat ← ask (.reclaimStale (now - CLAIM_LEASE_SECONDS * 1000000))
  let pending : List QueuedMessage ← ask (.claimBatch BATCH_SIZE now)
  if pending.isEmpty then .ret (.idle reclaimed)
  else if settings.outboundQueueUrl = "" then do
    -- the rows are claimed
    let _ ← release now pending
    .ret (.skipped pending.length reclaimed)
  else do
    let tally ← drain t settings now pending {}
    .ret (.drained tally.relayed tally.audited tally.failed tally.invalid reclaimed)

/-! ## What a run has done -/

abbrev OutboxCall := Call outboxPorts Raised

abbrev RelayHistory := History outboxPorts Raised

/-- The key of the row that a call settles. -/
def OutboxOp.settles : OutboxOp → Option String
  | .markDelivered key => some key
  | .markFailed key _ _ => some key
  | .markDead key _ => some key
  | _ => none

/-- What a call has claimed. -/
def OutboxCall.claimed : OutboxCall → List QueuedMessage
  | ⟨OutboxOp.claimBatch _ _, .ok messages⟩ => messages
  | _ => []

/-- A row was to be sent, and that has failed. -/
def OutboxCall.failedSend (key : String) : OutboxCall → Bool
  | ⟨OutboxOp.sendMessage _ _ k, .error _⟩ => k = key
  | _ => false

/-- An attempt is counted for a row. -/
def OutboxCall.counted (key : String) : OutboxCall → Bool
  | ⟨OutboxOp.markFailed k _ _, _⟩ => k = key
  | _ => false

section History

variable {t : Tables} {settings : RelaySettings} {h : RelayHistory} {c : OutboxCall}
  {pending done rest : List QueuedMessage} {m : QueuedMessage} {key : String}

/-- What a run has claimed. -/
def claimedIn (h : RelayHistory) : List QueuedMessage := h.flatMap OutboxCall.claimed

theorem claimedIn_concat : claimedIn (h ++ [c]) = claimedIn h ++ OutboxCall.claimed c := by
  simp [claimedIn]

/-- **A row is leased** to a run that has claimed it and has not settled it. -/
structure Leased (h : RelayHistory) (key : String) : Prop where
  claimed : ∃ m ∈ claimedIn h, m.dedupKey = key
  unsettled : ∀ c ∈ h, c.1.settles ≠ some key

/-- A row is sent if it should be. -/
def Sent (t : Tables) (m : QueuedMessage) (h : RelayHistory) : Prop :=
  ∀ d, m.delivery t = some d → d.deliverable = true →
    ∃ url, (⟨OutboxOp.sendMessage url (JsonValue.dumps (.obj d.toPayload)) m.dedupKey, .ok ()⟩
      : OutboxCall) ∈ h

/-- The keys of a batch are distinct, as those of a table are. -/
def Distinct (h : RelayHistory) : Prop := ((claimedIn h).map (·.dedupKey)).Nodup

/-- **What a run may call**: it claims once, before it settles anything; it settles what is leased
to it; what it closes can be read, and was sent if it should be, and what it gives up cannot be
read; an attempt is counted only after a send has failed, if there is a queue. -/
def Permits (t : Tables) (settings : RelaySettings) (h : RelayHistory) : OutboxOp → Prop
  | .enqueue _ => False
  | .claimBatch _ _ => claimedIn h = [] ∧ ∀ c ∈ h, c.1.settles = none
  | .markDelivered key => (Distinct h → Leased h key) ∧
      ∃ m ∈ claimedIn h, m.dedupKey = key ∧ Sent t m h
  | .markDead key _ => (Distinct h → Leased h key) ∧
      ∃ m ∈ claimedIn h, m.dedupKey = key ∧ m.delivery t = none
  | .markFailed key _ _ => (Distinct h → Leased h key) ∧
      (settings.outboundQueueUrl ≠ "" →
        h.countP (OutboxCall.counted key) < h.countP (OutboxCall.failedSend key))
  | _ => True

/-- **In the middle of a batch**: what is settled is among `done`, and no more attempts are counted
than sends have failed, if there is a queue. -/
structure Batch (settings : RelaySettings) (pending done : List QueuedMessage) (h : RelayHistory) :
    Prop where
  claimed : claimedIn h = pending
  settled : ∀ c ∈ h, ∀ key, c.1.settles = some key → key ∈ done.map (·.dedupKey)
  counts : settings.outboundQueueUrl ≠ "" → ∀ key,
    h.countP (OutboxCall.counted key) ≤ h.countP (OutboxCall.failedSend key)

/-- What comes next is leased. -/
theorem Batch.leased (hb : Batch settings pending done h) (hpending : pending = done ++ m :: rest)
    (hdistinct : Distinct h) : Leased h m.dedupKey := by
  rw [Distinct, hb.claimed, hpending, List.map_append, List.map_cons] at hdistinct
  refine ⟨⟨m, ?_, rfl⟩, fun c hc hsettles => ?_⟩
  · rw [hb.claimed, hpending]
    exact List.mem_append_right _ List.mem_cons_self
  · exact (List.disjoint_of_nodup_append hdistinct) (hb.settled c hc _ hsettles) List.mem_cons_self

/-- A call that claims nothing and settles nothing but `m`. -/
theorem Batch.concat (hb : Batch settings pending done h) (hclaimed : OutboxCall.claimed c = [])
    {done' : List QueuedMessage} (hdone : done ⊆ done')
    (hsettles : ∀ key, c.1.settles = some key → key ∈ done'.map (·.dedupKey))
    (hcounts : settings.outboundQueueUrl ≠ "" → ∀ key, OutboxCall.counted key c = true →
      h.countP (OutboxCall.counted key) < h.countP (OutboxCall.failedSend key)) :
    Batch settings pending done' (h ++ [c]) := by
  refine ⟨?_, fun x hx key hkey => ?_, fun hqueue key => ?_⟩
  · rw [claimedIn_concat, hclaimed, List.append_nil, hb.claimed]
  · rcases List.mem_append.mp hx with hx | hx
    · exact List.map_subset _ hdone (hb.settled x hx key hkey)
    · obtain rfl := List.mem_singleton.mp hx
      exact hsettles key hkey
  · rw [List.countP_append, List.countP_append, List.countP_singleton, List.countP_singleton]
    split
    · have hless := hcounts hqueue key ‹_›
      omega
    · have hle := hb.counts hqueue key
      omega

/-- A row is settled, and the next comes. -/
theorem Batch.settle {o : OutboxOp} {r : Except Raised o.Res}
    (hb : Batch settings pending done h) (hkey : o.settles = some m.dedupKey)
    (hclaimed : OutboxCall.claimed ⟨o, r⟩ = [])
    (hcounts : settings.outboundQueueUrl ≠ "" → ∀ key, OutboxCall.counted key ⟨o, r⟩ = true →
      h.countP (OutboxCall.counted key) < h.countP (OutboxCall.failedSend key)) :
    Batch settings pending (done ++ [m]) (h ++ [⟨o, r⟩]) := by
  refine hb.concat hclaimed (List.subset_append_left _ _) (fun key hsettles => ?_) hcounts
  rw [show (⟨o, r⟩ : OutboxCall).1.settles = some m.dedupKey from hkey] at hsettles
  rw [← Option.some.inj hsettles, List.map_append]
  exact List.mem_append_right _ (List.mem_singleton.mpr rfl)

/-- **Without a queue**, the rows are settled one after the other. -/
theorem guardedTo_release {now : Time} (hqueue : settings.outboundQueueUrl = "")
    (hb : Batch settings pending done h) (hpending : pending = done ++ rest) :
    (release now rest).GuardedTo (S := outboxPorts) (Permits t settings) (fun _ _ => True) h := by
  induction rest generalizing done h with
  | nil => trivial
  | cons m rest ih =>
    refine guardedTo_perform_bind (S := outboxPorts)
      ⟨hb.leased hpending, fun hsome => absurd hqueue hsome⟩ fun _ => ?_
    refine ih (hb.settle (m := m) rfl rfl fun hsome => absurd hqueue hsome) ?_
    rw [hpending, List.append_assoc]
    rfl

/-- **One row** is settled with a reason. -/
theorem guardedTo_settle {now : Time} {tally : Tally} (hb : Batch settings pending done h)
    (hpending : pending = done ++ m :: rest) :
    (settle t settings now m tally).GuardedTo (S := outboxPorts) (Permits t settings)
      (fun _ h' => Batch settings pending (done ++ [m]) h') h := by
  have hmem : m ∈ claimedIn h := by
    rw [hb.claimed, hpending]
    exact List.mem_append_right _ List.mem_cons_self
  unfold settle
  split
  · rename_i hnone
    refine guardedTo_perform_bind (S := outboxPorts)
      ⟨hb.leased hpending, m, hmem, rfl, hnone⟩ fun _ => ?_
    exact hb.settle rfl rfl fun _ _ hcounted => nomatch hcounted
  · rename_i d hsome
    split
    · rename_i haudit
      refine guardedTo_perform_bind (S := outboxPorts)
        ⟨hb.leased hpending, m, hmem, rfl, fun d' hd' hdeliverable => ?_⟩ fun _ => ?_
      · rw [hsome] at hd'
        rw [← Option.some.inj hd'] at hdeliverable
        rw [hdeliverable] at haudit
        cases haudit
      · exact hb.settle rfl rfl fun _ _ hcounted => nomatch hcounted
    · refine guardedTo_attempt_bind (S := outboxPorts) trivial fun r => ?_
      have hsent := hb.concat (c := ⟨OutboxOp.sendMessage settings.outboundQueueUrl
        (JsonValue.dumps (.obj d.toPayload)) m.dedupKey, r⟩) rfl (List.Subset.refl _)
        (fun _ hsettles => nomatch hsettles) fun _ _ hcounted => nomatch hcounted
      have hmem' := hsent.claimed.symm ▸ hb.claimed ▸ hmem
      cases r with
      | ok a =>
        refine guardedTo_perform_bind (S := outboxPorts)
          ⟨hsent.leased hpending, m, hmem', rfl, fun d' hd' _ => ?_⟩ fun _ => ?_
        · rw [hsome] at hd'
          rw [← Option.some.inj hd']
          exact ⟨_, List.mem_append_right _ (List.mem_singleton.mpr rfl)⟩
        · exact hsent.settle rfl rfl fun _ _ hcounted => nomatch hcounted
      | error exc =>
        -- the send that has failed is the one that the attempt is counted for
        have hless : settings.outboundQueueUrl ≠ "" → ∀ key, m.dedupKey = key →
            (h ++ [⟨OutboxOp.sendMessage settings.outboundQueueUrl
              (JsonValue.dumps (.obj d.toPayload)) m.dedupKey, .error exc⟩] : RelayHistory).countP
              (OutboxCall.counted key) <
            (h ++ [⟨OutboxOp.sendMessage settings.outboundQueueUrl
              (JsonValue.dumps (.obj d.toPayload)) m.dedupKey, .error exc⟩] : RelayHistory).countP
              (OutboxCall.failedSend key) := by
          rintro hqueue key rfl
          have hle := hb.counts hqueue m.dedupKey
          rw [List.countP_append, List.countP_append, List.countP_singleton,
            List.countP_singleton, if_neg (by exact Bool.false_ne_true),
            if_pos (show OutboxCall.failedSend m.dedupKey ⟨OutboxOp.sendMessage _ _ _, .error exc⟩ =
              true from decide_eq_true rfl)]
          omega
        refine guardedTo_perform_bind (S := outboxPorts)
          ⟨hsent.leased hpending, fun hqueue => hless hqueue _ rfl⟩ fun _ => ?_
        exact hsent.settle rfl rfl fun hqueue key hcounted =>
          hless hqueue key (of_decide_eq_true hcounted)

/-- **All rows** are. -/
theorem guardedTo_drain {now : Time} {tally : Tally} (hb : Batch settings pending done h)
    (hpending : pending = done ++ rest) :
    (drain t settings now rest tally).GuardedTo (S := outboxPorts) (Permits t settings)
      (fun _ _ => True) h := by
  induction rest generalizing done h tally with
  | nil => trivial
  | cons m rest ih =>
    refine (guardedTo_settle hb hpending).bind fun tally' h' hb' => ih hb' ?_
    rw [hpending, List.append_assoc]
    rfl

/-- Whoever is counted is settled. -/
theorem settles_of_counted (hc : OutboxCall.counted key c = true) : c.1.settles = some key := by
  obtain ⟨o, r⟩ := c
  cases o with
  | markFailed k error retryAt => exact congrArg some (of_decide_eq_true hc)
  | _ => cases hc

/-- A batch that has just been claimed. -/
theorem Batch.start {limit : Nat} {now : Time} (hclaimed : claimedIn h = [])
    (hsettles : ∀ c ∈ h, c.1.settles = none) :
    Batch settings pending [] (h ++ [⟨OutboxOp.claimBatch limit now, .ok pending⟩]) := by
  have hnone : ∀ c ∈ h ++ [(⟨OutboxOp.claimBatch limit now, .ok pending⟩ : OutboxCall)],
      c.1.settles = none := by
    intro c hc
    rcases List.mem_append.mp hc with hc | hc
    · exact hsettles c hc
    · rw [List.mem_singleton.mp hc]
      rfl
  refine ⟨?_, fun c hc key hkey => ?_, fun _ key => ?_⟩
  · rw [claimedIn_concat, hclaimed]
    rfl
  · rw [hnone c hc] at hkey
    cases hkey
  · have hzero : (h ++ [(⟨OutboxOp.claimBatch limit now, .ok pending⟩ : OutboxCall)]).countP
        (OutboxCall.counted key) = 0 := by
      refine List.countP_eq_zero.mpr fun c hc hcounted => ?_
      have hsome := settles_of_counted hcounted
      rw [hnone c hc] at hsome
      cases hsome
    rw [hzero]
    exact Nat.zero_le _

/-- **A run** keeps to what it may call. -/
theorem guardedTo_relay : (relay t settings).GuardedTo (S := outboxPorts) (Permits t settings)
    (fun _ _ => True) [] := by
  unfold relay
  refine guardedTo_perform_bind (S := outboxPorts) trivial fun (now : Time) => ?_
  refine guardedTo_perform_bind (S := outboxPorts) trivial fun (reclaimed : Nat) => ?_
  have hsettles : ∀ c ∈ ([] ++ [⟨OutboxOp.now, .ok now⟩] ++ [⟨OutboxOp.reclaimStale
      (now - CLAIM_LEASE_SECONDS * 1000000), .ok reclaimed⟩] : RelayHistory),
      c.1.settles = none := by
    intro c hc
    rcases List.mem_cons.mp hc with rfl | hc
    · rfl
    · rw [List.mem_singleton.mp hc]
      rfl
  refine guardedTo_perform_bind (S := outboxPorts) ⟨rfl, hsettles⟩
    fun (pending : List QueuedMessage) => ?_
  have hb := @Batch.start settings _ pending BATCH_SIZE now rfl hsettles
  split
  · trivial
  · split
    · exact (guardedTo_release ‹_› hb rfl).bind fun _ _ _ => trivial
    · exact (guardedTo_drain hb rfl).bind fun _ _ _ => trivial

end History

end NxTutors.MatchAgent
