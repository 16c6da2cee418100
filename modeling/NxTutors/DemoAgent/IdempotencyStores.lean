import Mathlib
import NxTutors.DemoAgent.World
import NxTutors.Effect.Steps
import NxTutors.Store.Leases

/-!
# The two idempotency stores

A key is claimed in a scope for a number of seconds. The memory keeps the moment at which the
claim of each key runs out, and refuses a claim before that moment. The database keeps a row for
each key, and replaces it in one statement if it ran out before the moment of the claim.

So the two part at the moment at which a claim runs out, which is late enough for the one and too
early for the other, and where that moment has a date that only one of them can write.
`claims_agree_iff` says that they part nowhere else. In both, claims of one key that are granted
are as far apart as the first of them was to last.
-/

namespace NxTutors.DemoAgent

open Effect Store

/-- `claim(key, scope=…, now=…, ttl_seconds=…)`. -/
structure ClaimCall where
  key : String
  scope : String
  now : Time
  ttlSeconds : Int

namespace ClaimCall

def bucket (c : ClaimCall) : String × String := (c.scope, c.key)

/-- The moment at which the claim runs out, if it is granted. -/
def expiry (c : ClaimCall) : Time := c.now + c.ttlSeconds * 1000000

/-- The moment has a year from 1 to 9999. Python raises `OverflowError` for any other. -/
def Representable (c : ClaimCall) : Prop :=
  -62135596800000000 ≤ c.expiry ∧ c.expiry ≤ 253402300799999999

/-- The interval has a 64-bit number of microseconds, and the moment is from 4713 BC to the year
294276. Postgres raises `datetime_field_overflow` for any other. -/
def Storable (c : ClaimCall) : Prop :=
  -2 ^ 63 ≤ c.ttlSeconds * 1000000 ∧ c.ttlSeconds * 1000000 < 2 ^ 63 ∧
    -210866803200000000 ≤ c.expiry ∧ c.expiry < 9224318016000000000

instance (c : ClaimCall) : Decidable c.Representable := inferInstanceAs (Decidable (_ ∧ _))

instance (c : ClaimCall) : Decidable c.Storable := inferInstanceAs (Decidable (_ ∧ _ ∧ _ ∧ _))

end ClaimCall

/-! ## In memory -/

/-- `InMemoryIdempotencyRepository`: when the claim of each key runs out. -/
structure InMemoryIdempotency where
  claims : String × String → Option Time := fun _ => none

def InMemoryIdempotency.claim (s : InMemoryIdempotency) (c : ClaimCall) :
    Except Exn Bool × InMemoryIdempotency :=
  if (s.claims c.bucket).any fun expiry => c.now < expiry then (.ok false, s)
  else if c.Representable then
    (.ok true, { s with claims := Function.update s.claims c.bucket (some c.expiry) })
  else (.error (.other "OverflowError"), s)

/-! ## In the database -/

/-- A row of `dcc_idempotency_keys`. -/
structure IdempotencyRow where
  scope : String
  idempotencyKey : String
  claimedAt : Time
  expiresAt : Time

def IdempotencyRow.primaryKey (r : IdempotencyRow) : String × String := (r.scope, r.idempotencyKey)

/-- `PgIdempotencyRepository`. -/
structure PgIdempotency where
  table : Table IdempotencyRow.primaryKey := .empty

/-- `INSERT … ON CONFLICT DO UPDATE … WHERE expires_at < now RETURNING`. The values are computed
before a conflict is looked for. -/
def PgIdempotency.claim (s : PgIdempotency) (c : ClaimCall) : Except Exn Bool × PgIdempotency :=
  if c.Storable then
    match s.table.find c.bucket with
    | none => (.ok true, { s with table := s.table.put ⟨c.scope, c.key, c.now, c.expiry⟩ })
    | some stored =>
      if stored.expiresAt < c.now then
        (.ok true,
          { s with table := s.table.put { stored with claimedAt := c.now, expiresAt := c.expiry } })
      else (.ok false, s)
  else (.error (.other "DatetimeFieldOverflowError"), s)

/-- When the claim of each key runs out. -/
def PgIdempotency.claims (s : PgIdempotency) (bucket : String × String) : Option Time :=
  (s.table.find bucket).map IdempotencyRow.expiresAt

/-! ## Both let keys -/

/-- The memory grants a claim at the moment at which the last one runs out, or later. -/
def InMemoryIdempotency.lessor : Lessor ClaimCall (String × String) Time where
  key := ClaimCall.bucket
  now := ClaimCall.now
  ends := ClaimCall.expiry
  grants := fun expiry c => expiry.all (fun e => e ≤ c.now) && c.Representable
  waits := by
    intro u c h
    simp only [Option.all_some, Bool.and_eq_true, decide_eq_true_eq] at h
    exact h.1

/-- The database grants it later than that. -/
def PgIdempotency.lessor : Lessor ClaimCall (String × String) Time where
  key := ClaimCall.bucket
  now := ClaimCall.now
  ends := ClaimCall.expiry
  grants := fun expiry c => expiry.all (fun e => e < c.now) && c.Storable
  waits := by
    intro u c h
    simp only [Option.all_some, Bool.and_eq_true, decide_eq_true_eq] at h
    exact le_of_lt h.1

/-- **What the memory does with a claim**: it lets the key if it grants the claim, and nothing
otherwise. -/
theorem InMemoryIdempotency.claim_spec (s : InMemoryIdempotency) (c : ClaimCall) :
    ((s.claim c).1 = .ok true ↔ lessor.grants (s.claims c.bucket) c = true) ∧
      (s.claim c).2.claims = lessor.bid s.claims c := by
  have hheld : (s.claims c.bucket).any (fun expiry => c.now < expiry) =
      !(s.claims c.bucket).all fun expiry => expiry ≤ c.now := by
    cases s.claims c.bucket with
    | none => rfl
    | some expiry => simp only [Option.any_some, Option.all_some, ← decide_not, not_le]
  have hgrants : lessor.grants (s.claims c.bucket) c =
      (!((s.claims c.bucket).any fun expiry => c.now < expiry) && c.Representable) := by
    rw [hheld, Bool.not_not]
    rfl
  have hbid : lessor.bid s.claims c =
      if lessor.grants (s.claims c.bucket) c then
        Function.update s.claims c.bucket (some c.expiry) else s.claims := rfl
  rw [hbid, hgrants, claim]
  split
  · rename_i hany
    simp [hany]
  · rename_i hany
    split
    · rename_i hrep
      simp [hany, hrep]
    · rename_i hrep
      simp [hrep]

/-- A row that is put lets its key. -/
theorem PgIdempotency.claims_put (s : PgIdempotency) (row : IdempotencyRow) :
    PgIdempotency.claims { table := s.table.put row } =
      Function.update s.claims row.primaryKey (some row.expiresAt) := by
  funext bucket
  rw [claims, Table.find_put]
  by_cases h : row.primaryKey = bucket
  · rw [if_pos h, ← h, Function.update_self]
    rfl
  · rw [if_neg h, Function.update_of_ne (Ne.symm h)]
    rfl

/-- **What the database does with a claim**, likewise. -/
theorem PgIdempotency.claim_spec (s : PgIdempotency) (c : ClaimCall) :
    ((s.claim c).1 = .ok true ↔ lessor.grants (s.claims c.bucket) c = true) ∧
      (s.claim c).2.claims = lessor.bid s.claims c := by
  have hgrants : lessor.grants (s.claims c.bucket) c =
      ((s.claims c.bucket).all (fun expiry => expiry < c.now) && decide c.Storable) := rfl
  have hbid : lessor.bid s.claims c =
      if lessor.grants (s.claims c.bucket) c then
        Function.update s.claims c.bucket (some c.expiry) else s.claims := rfl
  rw [hbid, hgrants, claim]
  split
  case isFalse hstorable => simp [hstorable]
  case isTrue hstorable =>
    cases hfind : s.table.find c.bucket with
    | none =>
      have hclaims : s.claims c.bucket = none := by rw [claims, hfind]; rfl
      have hput := s.claims_put ⟨c.scope, c.key, c.now, c.expiry⟩
      simp only [hclaims, hstorable, Option.all_none, decide_true, Bool.and_self, if_true, true_and]
      exact hput
    | some stored =>
      have hclaims : s.claims c.bucket = some stored.expiresAt := by rw [claims, hfind]; rfl
      have hkey : stored.primaryKey = c.bucket := (Table.find_eq_some_iff.mp hfind).2
      have hput := s.claims_put { stored with claimedAt := c.now, expiresAt := c.expiry }
      dsimp only
      split
      · rename_i hlt
        refine ⟨by simp [hclaims, hstorable, hlt], ?_⟩
        rw [hclaims, if_pos (by simp [hstorable, hlt]), ← hkey]
        exact hput
      · rename_i hlt
        simp [hclaims, hlt]

/-! ## The claims that are granted -/

/-- The calls that a store grants, in their order. -/
def grantedBy {σ : Type} (claim : σ → ClaimCall → Except Exn Bool × σ) :
    σ → List ClaimCall → List ClaimCall
  | _, [] => []
  | s, c :: cs =>
    if (claim s c).1 = .ok true then c :: grantedBy claim (claim s c).2 cs
    else grantedBy claim (claim s c).2 cs

/-- No two claims of one key are less than what the first asked for apart. -/
def ClaimsApart (granted : List ClaimCall) : Prop :=
  granted.Pairwise fun a b => a.bucket = b.bucket → a.ttlSeconds * 1000000 ≤ b.now - a.now

section Lessors

variable {σ : Type} {claim : σ → ClaimCall → Except Exn Bool × σ}
  {claims : σ → String × String → Option Time} {L : Lessor ClaimCall (String × String) Time}

/-- A store that lets keys grants what its lessor does. -/
theorem grantedBy_eq
    (hspec : ∀ s c, ((claim s c).1 = .ok true ↔ L.grants (claims s (L.key c)) c = true) ∧
      claims (claim s c).2 = L.bid (claims s) c) (s : σ) (calls : List ClaimCall) :
    grantedBy claim s calls = L.granted (claims s) calls := by
  induction calls generalizing s with
  | nil => rfl
  | cons c cs ih =>
    rw [grantedBy, Lessor.granted, ih, (hspec s c).2]
    exact if_congr (hspec s c).1 rfl rfl

end Lessors

theorem apart_of_ends {a b : ClaimCall} (h : a.now + a.ttlSeconds * 1000000 ≤ b.now) :
    a.ttlSeconds * 1000000 ≤ b.now - a.now := by
  dsimp only [Time] at *
  omega

theorem InMemoryIdempotency.granted_apart {calls : List ClaimCall}
    (hlater : calls.Pairwise fun a b => a.now ≤ b.now) (s : InMemoryIdempotency) :
    ClaimsApart (grantedBy claim s calls) := by
  rw [grantedBy_eq (L := lessor) claim_spec s calls]
  exact (Lessor.granted_apart (L := lessor) hlater s.claims).imp fun h hbucket =>
    apart_of_ends (h hbucket)

theorem PgIdempotency.granted_apart {calls : List ClaimCall}
    (hlater : calls.Pairwise fun a b => a.now ≤ b.now) (s : PgIdempotency) :
    ClaimsApart (grantedBy claim s calls) := by
  rw [grantedBy_eq (L := lessor) claim_spec s calls]
  exact (Lessor.granted_apart (L := lessor) hlater s.claims).imp fun h hbucket =>
    apart_of_ends (h hbucket)

/-! ## Both stores on the same calls -/

/-- Both grant the claim, or neither does. -/
def GrantAlike (s : InMemoryIdempotency) (p : PgIdempotency) (c : ClaimCall) : Prop :=
  (s.claim c).1 = .ok true ↔ (p.claim c).1 = .ok true

/-- Both stores are given the calls, and each claim is granted by both of them or by neither. -/
def ClaimsAgree (calls : List ClaimCall) : Prop :=
  Along (fun st c => ((st.1.claim c).2, (st.2.claim c).2)) (fun st c => GrantAlike st.1 st.2 c)
    (({} : InMemoryIdempotency), ({} : PgIdempotency)) calls

/-- What the stores agree on: if the key is free, the last claim of it did not run out at this
very moment, and both can write the moment at which this one does, or neither. -/
def InMemoryIdempotency.Uniform (s : InMemoryIdempotency) (c : ClaimCall) : Prop :=
  ((∀ expiry ∈ s.claims c.bucket, expiry < c.now) → (c.Representable ↔ c.Storable)) ∧
    (s.claims c.bucket = some c.now → ¬ c.Representable)

instance (s : InMemoryIdempotency) (c : ClaimCall) : Decidable (s.Uniform c) :=
  inferInstanceAs (Decidable (_ ∧ _))

/-- Where the same keys are claimed, both do alike exactly with these. -/
theorem grantAlike_iff {s : InMemoryIdempotency} {p : PgIdempotency} (hsame : p.claims = s.claims)
    (c : ClaimCall) : GrantAlike s p c ↔ s.Uniform c := by
  have hmemory : InMemoryIdempotency.lessor.grants (s.claims c.bucket) c =
      ((s.claims c.bucket).all (fun e => e ≤ c.now) && decide c.Representable) := rfl
  have hdatabase : PgIdempotency.lessor.grants (s.claims c.bucket) c =
      ((s.claims c.bucket).all (fun e => e < c.now) && decide c.Storable) := rfl
  rw [GrantAlike, (s.claim_spec c).1, (p.claim_spec c).1, hsame, hmemory, hdatabase]
  unfold InMemoryIdempotency.Uniform
  cases s.claims c.bucket with
  | none => simp
  | some expiry =>
    rcases lt_trichotomy expiry c.now with hlt | heq | hgt
    · simp [hlt, hlt.le, hlt.ne]
    · simp [heq]
    · simp [not_lt.mpr hgt.le, not_le.mpr hgt, hgt.ne']

/-- **The stores agree** on every run, exactly if no claim of it comes at the moment at which the
last one of its key runs out, and none is to run out at a moment only one of them can write. -/
theorem claims_agree_iff (calls : List ClaimCall)
    (hlater : calls.Pairwise fun a b => a.now ≤ b.now) :
    (ClaimsAgree calls ∧
      ClaimsApart (grantedBy InMemoryIdempotency.claim {} calls) ∧
      ClaimsApart (grantedBy PgIdempotency.claim {} calls)) ↔
    Along (fun s c => (s.claim c).2) InMemoryIdempotency.Uniform {} calls := by
  have hiff : ClaimsAgree calls ↔
      Along (fun s c => (s.claim c).2) InMemoryIdempotency.Uniform {} calls := by
    have hsame : ({} : PgIdempotency).claims = ({} : InMemoryIdempotency).claims := rfl
    refine Along.simulate_iff (f := fun s c => (s.claim c).2) (g := fun p c => (p.claim c).2)
      (R := fun s p => p.claims = s.claims) (A := GrantAlike) hsame ?_ ?_
    · intro s p c hsame
      exact grantAlike_iff hsame c
    · intro s p c hsame huniform
      have halike := (grantAlike_iff hsame c).mpr huniform
      rw [GrantAlike, (s.claim_spec c).1, (p.claim_spec c).1, hsame] at halike
      change (p.claim c).2.claims = (s.claim c).2.claims
      rw [(s.claim_spec c).2, (p.claim_spec c).2, hsame, Lessor.bid, Lessor.bid]
      exact if_congr halike.symm rfl rfl
  rw [hiff]
  exact and_iff_left ⟨InMemoryIdempotency.granted_apart hlater {},
    PgIdempotency.granted_apart hlater {}⟩

/-- A message that is delivered again within a day is refused by both, and a day later taken. -/
theorem claimed_alike :
    let calls : List ClaimCall :=
      [⟨"m1", "inbound", 0, 86400⟩, ⟨"m1", "inbound", 5 * minute, 86400⟩,
        ⟨"m1", "inbound", day + 1, 86400⟩]
    ClaimsAgree calls ∧
      ClaimsApart (grantedBy InMemoryIdempotency.claim {} calls) ∧
      ClaimsApart (grantedBy PgIdempotency.claim {} calls) := by
  intro calls
  exact (claims_agree_iff calls (by decide)).mpr (by decide)

/-- **The stores part** on a claim that comes when the first one runs out, and on one that lasts
until the year 10000. -/
theorem claims_part :
    ¬ ClaimsAgree [⟨"m1", "inbound", 0, 86400⟩, ⟨"m1", "inbound", day, 86400⟩] ∧
    ¬ ClaimsAgree [⟨"m1", "inbound", 0, 253402300800⟩] := by
  constructor
  · intro h
    have halike : GrantAlike _ _ _ := h.2.1
    revert halike
    unfold GrantAlike
    decide
  · intro h
    have halike : GrantAlike _ _ _ := h.1
    revert halike
    unfold GrantAlike
    decide

end NxTutors.DemoAgent
