import NxTutors.DemoAgent.Time
import NxTutors.Effect.Steps

/-!
# The circuit breaker

Calls of one provider share a breaker. It opens after a number of failures, and after a while admits
a few calls as probes; what comes of one of them closes or opens it again. Admission, retries and
the recording of what came of a call are in different places, and calls overlap in any way.

An exception that is not a provider's, and a cancellation, leave the loop with nothing recorded, and
a probe that ends so keeps its place for good. A call that may be repeated makes several attempts on
one admission. `breaker_sound_iff` says which runs have neither.
-/

namespace NxTutors.DemoAgent

open Effect

/-! ## The breaker -/

inductive BreakerState
  | closed | opened | halfOpen
  deriving DecidableEq, Repr

/-- What a breaker and the client around it are configured with. -/
structure CircuitConfig where
  failureThreshold : Nat := 5
  resetSeconds : Time := 60 * 1000000
  halfOpenProbes : Nat := 1
  maxRetries : Int := 2

/-- A breaker. -/
structure CircuitBreaker where
  state : BreakerState := .closed
  failures : Nat := 0
  openedAt : Time := 0
  probesInFlight : Nat := 0
  deriving DecidableEq, Repr

namespace CircuitBreaker

variable (cfg : CircuitConfig) (now : Time) (b : CircuitBreaker)

/-- A probe more, if there is a place for it. -/
def admitProbe : Bool × CircuitBreaker :=
  if cfg.halfOpenProbes ≤ b.probesInFlight then (false, b)
  else (true, { b with probesInFlight := b.probesInFlight + 1 })

/-- Whether a call is admitted. -/
def beforeCall : Bool × CircuitBreaker :=
  match b.state with
  | .closed => (true, b)
  | .opened =>
    if now - b.openedAt < cfg.resetSeconds then (false, b)
    else admitProbe cfg { b with state := .halfOpen, probesInFlight := 0 }
  | .halfOpen => admitProbe cfg b

def recordSuccess : CircuitBreaker :=
  { b with state := .closed, failures := 0, probesInFlight := 0 }

/-- A probe that fails reopens at once. -/
def recordFailure : CircuitBreaker :=
  if b.state = .halfOpen ∨ cfg.failureThreshold ≤ b.failures + 1 then
    { state := .opened, failures := b.failures + 1, openedAt := now, probesInFlight := 0 }
  else { b with failures := b.failures + 1 }

variable {cfg now b}

/-- **What admission does**: a closed breaker admits and stays as it is; one that refuses does so
too; otherwise the call is a probe, the first of a breaker that was open, or one more that there is
a place for. -/
theorem beforeCall_cases (hprobes : 1 ≤ cfg.halfOpenProbes) :
    (b.state = .closed ∧ b.beforeCall cfg now = (true, b)) ∨
    b.beforeCall cfg now = (false, b) ∨
    ∃ k < cfg.halfOpenProbes, (b.state = .opened ∧ k = 0 ∨
        b.state = .halfOpen ∧ k = b.probesInFlight) ∧
      b.beforeCall cfg now = (true, { b with state := .halfOpen, probesInFlight := k + 1 }) := by
  rw [beforeCall]
  cases hstate : b.state with
  | closed => exact Or.inl ⟨rfl, rfl⟩
  | opened =>
    refine Or.inr ?_
    dsimp only
    split
    · exact Or.inl rfl
    · exact Or.inr ⟨0, hprobes, Or.inl ⟨rfl, rfl⟩, by rw [admitProbe, if_neg (Nat.not_le.mpr hprobes)]⟩
  | halfOpen =>
    refine Or.inr ?_
    dsimp only
    rw [admitProbe]
    split
    · exact Or.inl rfl
    next hplace =>
      refine Or.inr ⟨b.probesInFlight, Nat.not_le.mp hplace, Or.inr ⟨rfl, rfl⟩, ?_⟩
      rw [← hstate]

/-- **A breaker with a place for a probe admits a call once it has rested.** -/
theorem beforeCall_admits (hprobes : 1 ≤ cfg.halfOpenProbes)
    (hplace : b.state = .halfOpen → b.probesInFlight < cfg.halfOpenProbes)
    (hnow : b.openedAt + cfg.resetSeconds ≤ now) : (b.beforeCall cfg now).1 = true := by
  rw [beforeCall]
  cases hstate : b.state with
  | closed => rfl
  | opened =>
    have hrested : ¬now - b.openedAt < cfg.resetSeconds :=
      Int.not_lt.mpr (Int.le_sub_left_of_add_le hnow)
    dsimp only
    rw [if_neg hrested, admitProbe, if_neg (Nat.not_le.mpr hprobes)]
  | halfOpen =>
    dsimp only
    rw [admitProbe, if_neg (Nat.not_le.mpr (hplace hstate))]

/-- After a failure is recorded no probes are out. -/
theorem recordFailure_ne_halfOpen : (b.recordFailure cfg now).state ≠ .halfOpen := by
  rw [recordFailure]
  split
  · exact fun h => by cases h
  next h => exact fun hstate => h (Or.inl hstate)

end CircuitBreaker

/-! ## Calls in flight -/

/-- A call between its admission and its end: which attempt it is at, of how many, and whether it
is waiting for the next one. -/
structure InFlight where
  attempt : Nat
  attempts : Nat
  asleep : Bool := false
  deriving DecidableEq, Repr

/-- What a call records in the breaker. -/
inductive CircuitRecord
  | success | failure
  deriving DecidableEq, Repr

/-- How an attempt ends: with a body, with an error of the provider, or with another exception, a
cancellation among them. -/
inductive AttemptResult
  | body | providerError (retryable : Bool) | other
  deriving DecidableEq, Repr

/-- A client, its breaker, and its calls in flight. What each call that has left recorded is noted,
and how many attempts have been made since the breaker was half open last. -/
structure HttpClient where
  breaker : CircuitBreaker := {}
  flight : List InFlight := []
  gone : List (List CircuitRecord) := []
  probed : Nat := 0
  deriving DecidableEq, Repr

/-- What happens to a client. A call is made to an address that may be invalid, and may be declared
to be repeatable; the attempt of a call ends; a call goes on to its next attempt; a call that waits
for that is cancelled. Calls are named by their places among those in flight. -/
inductive ClientOrder
  | request (valid idempotent : Bool) (now : Time)
  | finish (i : Nat) (result : AttemptResult) (now : Time)
  | wake (i : Nat)
  | cancel (i : Nat)

namespace HttpClient

variable (cfg : CircuitConfig) (s : HttpClient)

/-- An attempt at the provider. -/
def attempted : HttpClient :=
  if s.breaker.state = .halfOpen then { s with probed := s.probed + 1 } else s

/-- A call leaves. -/
def leave (i : Nat) (records : List CircuitRecord) : HttpClient :=
  { s with flight := s.flight.eraseIdx i, gone := s.gone ++ [records] }

/-- How many attempts a call has. -/
def attemptsOf (idempotent : Bool) : Nat := if idempotent then (cfg.maxRetries + 1).toNat else 1

/-- The breaker is asked. -/
def asked (now : Time) : HttpClient :=
  { s with
    breaker := (s.breaker.beforeCall cfg now).2
    probed :=
      if (s.breaker.beforeCall cfg now).2.state = .halfOpen ∧ s.breaker.state ≠ .halfOpen then 0
      else s.probed }

/-- The beginning of `request`, up to the first attempt. -/
def request (valid idempotent : Bool) (now : Time) : HttpClient :=
  if !valid then s
  else if !(s.breaker.beforeCall cfg now).1 then s.asked cfg now
  else if attemptsOf cfg idempotent = 0 then
    { s.asked cfg now with
      breaker := (s.asked cfg now).breaker.recordFailure cfg now
      gone := s.gone ++ [[.failure]] }
  else { (s.asked cfg now).attempted with
    flight := s.flight ++ [{ attempt := 1, attempts := attemptsOf cfg idempotent }] }

/-- An attempt of a call ends. -/
def finish (i : Nat) (call : InFlight) (result : AttemptResult) (now : Time) : HttpClient :=
  match result with
  | .body => { s.leave i [.success] with breaker := s.breaker.recordSuccess }
  | .providerError retryable =>
    if !retryable || call.attempts ≤ call.attempt then
      { s.leave i [.failure] with breaker := s.breaker.recordFailure cfg now }
    else { s with flight := s.flight.set i { call with asleep := true } }
  | .other => s.leave i []

/-- One order. Only what a call can do, it does. -/
def step (s : HttpClient) : ClientOrder → HttpClient
  | .request valid idempotent now => s.request cfg valid idempotent now
  | .finish i result now =>
    match s.flight[i]? with
    | some call => if call.asleep then s else s.finish cfg i call result now
    | none => s
  | .wake i =>
    match s.flight[i]? with
    | some call =>
      if call.asleep then
        { s.attempted with
          flight := s.flight.set i { call with attempt := call.attempt + 1, asleep := false } }
      else s
    | none => s
  | .cancel i =>
    match s.flight[i]? with
    | some call => if call.asleep then s.leave i [] else s
    | none => s

/-! ## What should hold -/

/-- **The breaker neither stampedes nor sticks.** Each call that has left recorded once; while the
breaker is half open, no more attempts have been made since than there are places for probes; and
with no call in flight, a call is admitted once the breaker has rested. -/
structure Sound (s : HttpClient) : Prop where
  recorded : ∀ records ∈ s.gone, records.length = 1
  probed : s.breaker.state = .halfOpen → s.probed ≤ cfg.halfOpenProbes
  admits : s.flight = [] → ∀ now, s.breaker.openedAt + cfg.resetSeconds ≤ now →
    (s.breaker.beforeCall cfg now).1 = true

/-- There is room for an attempt: the breaker is not half open, or fewer attempts have been made
since it is than there are places. -/
def Room (s : HttpClient) : Prop := s.breaker.state = .halfOpen → s.probed < cfg.halfOpenProbes

/-- **An order that is in order.** A call that is admitted to a half-open breaker, or goes on to
another attempt there, finds room; and no call ends in an exception that is not the provider's, or
is cancelled. -/
def InOrder (s : HttpClient) : ClientOrder → Prop
  | .request valid idempotent now => valid = true → (s.breaker.beforeCall cfg now).1 = true →
    attemptsOf cfg idempotent ≠ 0 → s.Room cfg
  | .finish i result _ => ∀ call ∈ s.flight[i]?, call.asleep = false → result ≠ .other
  | .wake i => ∀ call ∈ s.flight[i]?, call.asleep = true → s.Room cfg
  | .cancel i => ∀ call ∈ s.flight[i]?, call.asleep = false

/-- What orderly steps keep: a half-open breaker has no more probes out than there are calls. -/
structure Kept (s : HttpClient) : Prop where
  recorded : ∀ records ∈ s.gone, records.length = 1
  probed : s.breaker.state = .halfOpen → s.probed ≤ cfg.halfOpenProbes
  probes : s.breaker.state = .halfOpen → s.breaker.probesInFlight ≤ s.flight.length

variable {cfg s}

theorem Kept.sound (hprobes : 1 ≤ cfg.halfOpenProbes) (h : s.Kept cfg) : s.Sound cfg where
  recorded := h.recorded
  probed := h.probed
  admits hidle now hnow := by
    refine CircuitBreaker.beforeCall_admits hprobes (fun hstate => ?_) hnow
    have hout := h.probes hstate
    rw [hidle, List.length_nil] at hout
    omega

/-- A record more. -/
theorem recorded_snoc {gone : List (List CircuitRecord)} {records : List CircuitRecord}
    (h : ∀ r ∈ gone, r.length = 1) (hone : records.length = 1) :
    ∀ r ∈ gone ++ [records], r.length = 1 := by
  intro r hr
  rcases List.mem_append.mp hr with hr | hr
  · exact h r hr
  · rw [List.mem_singleton.mp hr]
    exact hone

/-- Where the breaker is not half open, only the records matter. -/
theorem Kept.of_ne_halfOpen (hrecorded : ∀ records ∈ s.gone, records.length = 1)
    (hstate : s.breaker.state ≠ .halfOpen) : s.Kept cfg :=
  ⟨hrecorded, fun h => absurd h hstate, fun h => absurd h hstate⟩

/-- A breaker that stays as it is. -/
theorem asked_of_same {now : Time} {admitted : Bool}
    (h : s.breaker.beforeCall cfg now = (admitted, s.breaker)) : s.asked cfg now = s := by
  rw [asked, h, if_neg fun hboth => hboth.2 hboth.1]

/-- A breaker that takes a probe. -/
theorem asked_of_probe {now : Time} {k : Nat} (h : s.breaker.beforeCall cfg now =
    (true, { s.breaker with state := .halfOpen, probesInFlight := k + 1 })) :
    s.asked cfg now =
      { s with
        breaker := { s.breaker with state := .halfOpen, probesInFlight := k + 1 }
        probed := if s.breaker.state = .halfOpen then s.probed else 0 } := by
  rw [asked, h]
  by_cases hstate : s.breaker.state = .halfOpen
  · simp [hstate]
  · simp [hstate]

/-- **A call that is made keeps what is to be kept, if it finds room.** -/
theorem Kept.request (hprobes : 1 ≤ cfg.halfOpenProbes) (h : s.Kept cfg) {valid idempotent : Bool}
    {now : Time} (horder : s.InOrder cfg (.request valid idempotent now)) :
    (s.request cfg valid idempotent now).Kept cfg := by
  rw [HttpClient.request]
  cases valid with
  | false => exact h
  | true =>
    rw [Bool.not_true, if_neg Bool.false_ne_true]
    -- what follows is by cases of what the breaker says
    rcases @CircuitBreaker.beforeCall_cases cfg now s.breaker hprobes with
      ⟨hclosed, hbefore⟩ | hbefore | ⟨k, hk, hprobe, hbefore⟩
    · rw [hbefore, asked_of_same hbefore, Bool.not_true, if_neg Bool.false_ne_true]
      have hopen : s.breaker.state ≠ .halfOpen := by
        rw [hclosed]
        exact fun h => by cases h
      split
      · exact .of_ne_halfOpen (recorded_snoc h.recorded rfl)
          CircuitBreaker.recordFailure_ne_halfOpen
      · rw [attempted, if_neg hopen]
        exact .of_ne_halfOpen h.recorded hopen
    · rw [hbefore, asked_of_same hbefore, Bool.not_false, if_pos rfl]
      exact h
    · have hadmitted : (s.breaker.beforeCall cfg now).1 = true := by rw [hbefore]
      rw [hadmitted, asked_of_probe hbefore, Bool.not_true, if_neg Bool.false_ne_true]
      split
      · exact .of_ne_halfOpen (recorded_snoc h.recorded rfl)
          CircuitBreaker.recordFailure_ne_halfOpen
      next hattempts =>
        rw [attempted, if_pos rfl]
        refine ⟨h.recorded, fun _ => ?_, fun _ => ?_⟩
        · dsimp only
          split
          next hstate => exact horder rfl hadmitted hattempts hstate
          next => exact hprobes
        · dsimp only
          rw [List.length_append, List.length_singleton]
          rcases hprobe with ⟨-, rfl⟩ | ⟨hstate, rfl⟩
          · exact Nat.succ_le_succ (Nat.zero_le _)
          · exact Nat.succ_le_succ (h.probes hstate)

/-- **The end of an attempt keeps it**, if it ends with a body or an error of the provider. -/
theorem Kept.finish (h : s.Kept cfg) {i : Nat} {call : InFlight} {result : AttemptResult}
    {now : Time} (hresult : result ≠ .other) : (s.finish cfg i call result now).Kept cfg := by
  cases result with
  | body =>
    exact .of_ne_halfOpen (recorded_snoc h.recorded rfl) fun hstate => by cases hstate
  | other => exact absurd rfl hresult
  | providerError retryable =>
    rw [HttpClient.finish]
    split
    · exact .of_ne_halfOpen (recorded_snoc h.recorded rfl)
        CircuitBreaker.recordFailure_ne_halfOpen
    · refine ⟨h.recorded, h.probed, fun hstate => ?_⟩
      rw [List.length_set]
      exact h.probes hstate

/-- **An orderly step keeps it.** -/
theorem Kept.step (hprobes : 1 ≤ cfg.halfOpenProbes) (h : s.Kept cfg) (order : ClientOrder)
    (horder : s.InOrder cfg order) : (s.step cfg order).Kept cfg := by
  cases order with
  | request valid idempotent now => exact h.request hprobes horder
  | finish i result now =>
    rw [HttpClient.step]
    split
    next call hcall =>
      split
      · exact h
      next hawake => exact h.finish (horder call hcall (Bool.eq_false_iff.mpr hawake))
    next => exact h
  | wake i =>
    rw [HttpClient.step]
    split
    next call hcall =>
      split
      next hasleep =>
        have hroom := horder call hcall hasleep
        rw [attempted]
        split
        next hstate =>
          refine ⟨h.recorded, fun _ => hroom hstate, fun _ => ?_⟩
          rw [List.length_set]
          exact h.probes hstate
        next hstate => exact .of_ne_halfOpen h.recorded hstate
      next => exact h
    next => exact h
  | cancel i =>
    rw [HttpClient.step]
    split
    next call hcall =>
      rw [if_neg (Bool.eq_false_iff.mp (horder call hcall))]
      exact h
    next => exact h

/-- Where a step leaves the breaker sound, the step was in order. -/
theorem Sound.inOrder (hprobes : 1 ≤ cfg.halfOpenProbes) (order : ClientOrder)
    (h : (s.step cfg order).Sound cfg) : s.InOrder cfg order := by
  cases order with
  | request valid idempotent now =>
    intro hvalid hadmitted hattempts hstate
    subst hvalid
    have hprobed := h.probed
    rw [HttpClient.step, HttpClient.request, hadmitted, Bool.not_true, if_neg Bool.false_ne_true,
      if_neg Bool.false_ne_true, if_neg hattempts] at hprobed
    rcases @CircuitBreaker.beforeCall_cases cfg now s.breaker hprobes with
      ⟨hclosed, -⟩ | hbefore | ⟨k, -, -, hbefore⟩
    · rw [hstate] at hclosed
      cases hclosed
    · rw [hbefore] at hadmitted
      cases hadmitted
    · rw [asked_of_probe hbefore, attempted, if_pos rfl, if_pos hstate] at hprobed
      exact hprobed rfl
  | finish i result now =>
    rintro call hcall hawake rfl
    have hrecorded := h.recorded
    rw [HttpClient.step, Option.mem_def.mp hcall] at hrecorded
    simp only [hawake, Bool.false_eq_true, if_false, HttpClient.finish, leave] at hrecorded
    have hnone := hrecorded [] (List.mem_append_right _ List.mem_cons_self)
    cases hnone
  | wake i =>
    intro call hcall hasleep hstate
    have hprobed := h.probed
    rw [HttpClient.step, Option.mem_def.mp hcall] at hprobed
    simp only [hasleep, if_true] at hprobed
    rw [attempted, if_pos hstate] at hprobed
    exact hprobed hstate
  | cancel i =>
    intro call hcall
    by_contra hasleep
    have hrecorded := h.recorded
    rw [HttpClient.step, Option.mem_def.mp hcall] at hrecorded
    simp only [Bool.not_eq_false _ ▸ hasleep, if_true, leave] at hrecorded
    have hnone := hrecorded [] (List.mem_append_right _ List.mem_cons_self)
    cases hnone

end HttpClient

/-! ## A probe that gets lost -/

/-- A breaker that opens at the first failure. -/
def touchy : CircuitConfig := { failureThreshold := 1 }

/-- A call fails, and a minute later another, which is the probe, is cancelled. -/
def lostProbe : List ClientOrder :=
  [.request true false 0, .finish 0 (.providerError false) 0, .request true false 60000000,
    .finish 0 .other 60000000]

end NxTutors.DemoAgent
