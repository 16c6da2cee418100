import NxTutors.Numbers.TokenBucket

/-!
# Rate limits

There is a bucket for each key, in one of two stores. In memory a refusal writes back how full the
bucket is by then; in the database it leaves the row as it is, but for when it expires. That makes
no difference to what is granted: what either store finds from then on is what one bucket with that
level would hold (`Serves`), and all that is said of what they grant is said of that bucket.

Levels and times are exact numbers, of tokens and of seconds. The database answers.
-/

namespace NxTutors.MatchAgent

open TokenBucket TokenBucket.Limits

structure BucketState where
  tokens : ℚ
  allowed : Bool
  retryAfterSeconds : ℚ

/-! ## In memory -/

/-- The buckets: how full each was, and when. -/
abbrev InMemoryBucketStore := String → Option (ℚ × ℚ)

def InMemoryBucketStore.consume (buckets : InMemoryBucketStore) (key : String)
    (capacity refillPerSecond cost current : ℚ) : BucketState × InMemoryBucketStore :=
  let (tokens, updated) := (buckets key).getD (capacity, current)
  let tokens := min capacity (tokens + max 0 (current - updated) * refillPerSecond)
  if tokens < cost then
    let deficit := cost - tokens
    let retry := if refillPerSecond > 0 then deficit / refillPerSecond else 60
    (⟨tokens, false, retry⟩, Function.update buckets key (some (tokens, current)))
  else
    (⟨tokens - cost, true, 0⟩, Function.update buckets key (some (tokens - cost, current)))

/-! ## In the database -/

def BUCKET_TTL_SECONDS : ℚ := 3600

structure BucketRow where
  tokens : ℚ
  updatedAt : ℚ
  expiresAt : ℚ

/-- The table `rate_bucket`, by key. -/
abbrev PostgresRateLimitStore := String → Option BucketRow

namespace PostgresRateLimitStore

/-- `_REFILLED`: the level of a row now. -/
def REFILLED (capacity refill now : ℚ) (b : BucketRow) : ℚ :=
  min capacity (b.tokens + (now - b.updatedAt) * refill)

/-- The first statement. It returns the level that is left, or nothing where the bucket is short. -/
def insertOrUpdate (rows : PostgresRateLimitStore) (key : String) (capacity refill cost now : ℚ) :
    Option ℚ × PostgresRateLimitStore :=
  match rows key with
  | none =>
    let b : BucketRow := ⟨capacity - cost, now, now + BUCKET_TTL_SECONDS⟩
    (some b.tokens, Function.update rows key (some b))
  | some b =>
    if REFILLED capacity refill now b ≥ cost then
      let b : BucketRow := ⟨REFILLED capacity refill now b - cost, now, now + BUCKET_TTL_SECONDS⟩
      (some b.tokens, Function.update rows key (some b))
    else (none, rows)

/-- The second statement: the row is kept for longer, and its level is read. -/
def touch (rows : PostgresRateLimitStore) (key : String) (capacity refill now : ℚ) :
    Option ℚ × PostgresRateLimitStore :=
  match rows key with
  | none => (none, rows)
  | some b =>
    (some (REFILLED capacity refill now b),
      Function.update rows key (some { b with expiresAt := now + BUCKET_TTL_SECONDS }))

def consume (rows : PostgresRateLimitStore) (key : String)
    (capacity refillPerSecond cost now : ℚ) : BucketState × PostgresRateLimitStore :=
  if cost > capacity then (⟨0, false, 60⟩, rows)
  else
    match insertOrUpdate rows key capacity refillPerSecond cost now with
    | (some tokens, rows) => (⟨tokens, true, 0⟩, rows)
    | (none, rows) =>
      let (refused, rows) := touch rows key capacity refillPerSecond now
      let level := refused.getD 0
      let deficit := max (cost - level) 0
      let retry := if refillPerSecond > 0 then deficit / refillPerSecond else 60
      (⟨level, false, retry⟩, rows)

end PostgresRateLimitStore

/-! ## Serving requests

What is said of a store is said of one of its keys, with fixed limits: it answers a request and is
another store after it.
-/

/-- A store, as it answers the requests on one of its keys. -/
abbrev Consume (σ : Type) := σ → Request ℚ → BucketState × σ

/-- The answers to some requests, one after the other, and the store after them. -/
def serveAll {σ : Type} (consume : Consume σ) (s : σ) : List (Request ℚ) → List BucketState × σ
  | [] => ([], s)
  | r :: rs =>
    let rest := serveAll consume (consume s r).2 rs
    ((consume s r).1 :: rest.1, rest.2)

def InMemoryBucketStore.serving (key : String) (limits : Limits ℚ) : Consume InMemoryBucketStore :=
  fun buckets r => buckets.consume key limits.capacity limits.refill r.cost r.time

def PostgresRateLimitStore.serving (key : String) (limits : Limits ℚ) :
    Consume PostgresRateLimitStore :=
  fun rows r => rows.consume key limits.capacity limits.refill r.cost r.time

/-- **A store serves as one bucket**: `view` is the level it would find at a time, and `stored` what
is written in it. -/
structure Serves {σ : Type} (limits : Limits ℚ) (consume : Consume σ) (view : σ → ℚ → ℚ)
    (stored : σ → Option ℚ) : Prop where
  /-- it grants what the bucket grants -/
  allowed : ∀ ⦃s t level r⦄, limits.Shows (view s) t level → t ≤ r.time →
    (consume s r).1.allowed = grants (limits.refilled level (r.time - t)) r.cost
  /-- then it shows what the bucket has left -/
  shows : ∀ ⦃s t level r⦄, limits.Shows (view s) t level → t ≤ r.time →
    limits.Shows (view (consume s r).2) r.time (left (limits.refilled level (r.time - t)) r.cost)
  /-- what it writes is that, or what was there before -/
  stored : ∀ ⦃s t level r x⦄, limits.Shows (view s) t level → t ≤ r.time →
    stored (consume s r).2 = some x →
    x = left (limits.refilled level (r.time - t)) r.cost ∨ stored s = some x
  /-- it says how long what is missing takes to flow in -/
  retryAfter : ∀ ⦃s t level r⦄, limits.Shows (view s) t level → t ≤ r.time →
    r.cost ≤ limits.capacity → (consume s r).1.allowed = false →
    (consume s r).1.retryAfterSeconds
      = (r.cost - limits.refilled level (r.time - t)) / limits.refill

namespace Serves

variable {σ : Type} {limits : Limits ℚ} {consume : Consume σ} {view : σ → ℚ → ℚ}
  {stored : σ → Option ℚ} {s : σ} {t level start stop later : ℚ} {r : Request ℚ}
  {rs : List (Request ℚ)}

/-- All that is granted is what the bucket grants. -/
theorem allowed_serve (h : Serves limits consume view stored) (hshows : limits.Shows (view s) t level)
    (hordered : Ordered t rs) :
    (serveAll consume s rs).1.map BucketState.allowed = limits.run t level rs := by
  induction rs generalizing s t level with
  | nil => rfl
  | cons r rs ih =>
    rw [serveAll, List.map_cons, h.allowed hshows hordered.head,
      ih (h.shows hshows hordered.head) hordered.tail]
    rfl

/-- After some requests a store still shows a level, not above what the bucket can hold, and as of
when the last request came. -/
theorem shows_serve (h : Serves limits consume view stored) (hrefill : 0 ≤ limits.refill)
    (hshows : limits.Shows (view s) t level) (hordered : Ordered t rs) (hlater : t ≤ later)
    (hlast : ∀ r ∈ rs, r.time ≤ later) :
    ∃ level', limits.Shows (view (serveAll consume s rs).2) later level' := by
  induction rs generalizing s t level with
  | nil => exact ⟨_, hshows.later hrefill hlater⟩
  | cons r rs ih =>
    exact ih (h.shows hshows hordered.head) hordered.tail (hlast r List.mem_cons_self)
      fun r' hr' => hlast r' (List.mem_cons_of_mem _ hr')

/-- What is stored is never less than nothing nor more than the bucket can hold. -/
theorem stored_serve (h : Serves limits consume view stored) (hcapacity : 0 ≤ limits.capacity)
    (hrefill : 0 ≤ limits.refill) (hshows : limits.Shows (view s) t level) (hlevel : 0 ≤ level)
    (hordered : Ordered t rs) (hcosts : ∀ r ∈ rs, 0 ≤ r.cost)
    (hstored : ∀ x, stored s = some x → 0 ≤ x ∧ x ≤ limits.capacity) :
    ∀ x, stored (serveAll consume s rs).2 = some x → 0 ≤ x ∧ x ≤ limits.capacity := by
  induction rs generalizing s t level with
  | nil => exact hstored
  | cons r rs ih =>
    have hnow : 0 ≤ limits.refilled level (r.time - t) :=
      refilled_nonneg hcapacity hrefill hlevel (sub_nonneg.mpr hordered.head)
    refine ih (h.shows hshows hordered.head) (left_nonneg hnow) hordered.tail
      (fun r' hr' => hcosts r' (List.mem_cons_of_mem _ hr')) fun x hx => ?_
    rcases h.stored hshows hordered.head hx with rfl | hx
    · exact ⟨left_nonneg hnow,
        (left_le (hcosts r List.mem_cons_self)).trans refilled_le_capacity⟩
    · exact hstored x hx

/-- **A refused request is granted when it comes again** after as long as it was told to wait. -/
theorem retry (h : Serves limits consume view stored) (hrefill : 0 < limits.refill)
    (hshows : limits.Shows (view s) t level) (ht : t ≤ r.time) (hcost : r.cost ≤ limits.capacity)
    (hrefused : (consume s r).1.allowed = false)
    (hlater : r.time + (consume s r).1.retryAfterSeconds ≤ later) :
    (consume (consume s r).2 ⟨later, r.cost⟩).1.allowed = true := by
  have hshort : limits.refilled level (r.time - t) < r.cost := by
    rw [h.allowed hshows ht] at hrefused
    simpa [grants] using hrefused
  rw [h.retryAfter hshows ht hcost hrefused] at hlater
  have hwait : 0 ≤ (r.cost - limits.refilled level (r.time - t)) / limits.refill :=
    div_nonneg (by linarith) hrefill.le
  have henough : r.cost ≤ limits.refilled (limits.refilled level (r.time - t)) (later - r.time) :=
    le_refilled_of_missing hrefill hcost (by linarith)
  rw [h.allowed (h.shows hshows ht) (r := ⟨later, r.cost⟩) (by simp only; linarith), left,
    if_pos hshort]
  simpa [grants] using henough

end Serves

/-! ## What the two stores show -/

/-- The level the store in memory would find. -/
def InMemoryBucketStore.view (key : String) (limits : Limits ℚ) (buckets : InMemoryBucketStore)
    (now : ℚ) : ℚ :=
  match buckets key with
  | none => limits.capacity
  | some (tokens, updated) => limits.refilled tokens (max 0 (now - updated))

def InMemoryBucketStore.stored (key : String) (buckets : InMemoryBucketStore) : Option ℚ :=
  (buckets key).map Prod.fst

/-- The level the database would find. -/
def PostgresRateLimitStore.view (key : String) (limits : Limits ℚ) (rows : PostgresRateLimitStore)
    (now : ℚ) : ℚ :=
  match rows key with
  | none => limits.capacity
  | some b => REFILLED limits.capacity limits.refill now b

def PostgresRateLimitStore.stored (key : String) (rows : PostgresRateLimitStore) : Option ℚ :=
  (rows key).map BucketRow.tokens

section

variable {key : String} {limits : Limits ℚ} {buckets : InMemoryBucketStore}
  {rows : PostgresRateLimitStore} {r : Request ℚ} {t level tokens : ℚ}

/-- What is found now is there from now on. -/
theorem InMemoryBucketStore.shows_update :
    limits.Shows (view key limits (Function.update buckets key (some (tokens, t)))) t tokens := by
  intro u htu
  rw [view, Function.update_self]
  simp only [max_eq_right (sub_nonneg.mpr htu)]

/-- The buckets in memory after a request: its level, and when. -/
theorem InMemoryBucketStore.serving_eq :
    serving key limits buckets r
      = (⟨left (view key limits buckets r.time) r.cost,
          grants (view key limits buckets r.time) r.cost,
          if view key limits buckets r.time < r.cost then
            if limits.refill > 0 then (r.cost - view key limits buckets r.time) / limits.refill
            else 60
          else 0⟩,
        Function.update buckets key
          (some (left (view key limits buckets r.time) r.cost, r.time))) := by
  rcases hb : (buckets key).getD (limits.capacity, r.time) with ⟨tokens, updated⟩
  have hfound : view key limits buckets r.time
      = min limits.capacity (tokens + max 0 (r.time - updated) * limits.refill) := by
    unfold view
    cases hkey : buckets key with
    | none =>
      rw [hkey] at hb
      cases hb
      simp
    | some b =>
      rw [hkey] at hb
      cases hb
      rfl
  rw [serving, consume, hb]
  simp only [← hfound]
  by_cases hshort : view key limits buckets r.time < r.cost
  · simp only [hshort, if_true, left, grants, decide_true, Bool.not_true]
  · simp only [hshort, if_false, left, grants, decide_false, Bool.not_false]

theorem InMemoryBucketStore.serves (hrefill : 0 < limits.refill) :
    Serves limits (serving key limits) (view key limits) (stored key) where
  allowed s t level r hshows ht := by
    rw [serving_eq, hshows r.time ht]
  shows s t level r hshows ht := by
    rw [serving_eq, hshows r.time ht]
    exact shows_update
  stored s t level r x hshows ht hx := by
    rw [serving_eq, hshows r.time ht] at hx
    simp only [stored, Function.update_self, Option.map_some, Option.some.injEq] at hx
    exact .inl hx.symm
  retryAfter s t level r hshows ht hcost hrefused := by
    rw [serving_eq, hshows r.time ht] at hrefused ⊢
    have hshort : limits.refilled level (r.time - t) < r.cost := by simpa [grants] using hrefused
    simp only [hshort, if_true, gt_iff_lt, hrefill]

/-- A request for more than the bucket can hold is refused, and nothing is written. -/
theorem PostgresRateLimitStore.serving_of_gt (h : r.cost > limits.capacity) :
    serving key limits rows r = (⟨0, false, 60⟩, rows) := if_pos h

/-- What is written when a request is granted is what is left of what was found. -/
theorem PostgresRateLimitStore.serving_of_le (hcost : r.cost ≤ limits.capacity)
    (h : r.cost ≤ view key limits rows r.time) :
    serving key limits rows r
      = (⟨view key limits rows r.time - r.cost, true, 0⟩,
        Function.update rows key (some ⟨view key limits rows r.time - r.cost,
          r.time, r.time + BUCKET_TTL_SECONDS⟩)) := by
  have hheld : ¬r.cost > limits.capacity := not_lt.mpr hcost
  unfold view at h ⊢
  rw [serving, consume, if_neg hheld, insertOrUpdate]
  cases hrow : rows key with
  | none => rfl
  | some b =>
    rw [hrow] at h
    simp only [ge_iff_le, h, if_true]

/-- A bucket that is short has a row, and only the time when it expires is written. -/
theorem PostgresRateLimitStore.serving_of_lt (hcost : r.cost ≤ limits.capacity)
    (h : view key limits rows r.time < r.cost) :
    ∃ b, rows key = some b ∧ serving key limits rows r
      = (⟨view key limits rows r.time, false,
          if limits.refill > 0 then (r.cost - view key limits rows r.time) / limits.refill else 60⟩,
        Function.update rows key (some { b with expiresAt := r.time + BUCKET_TTL_SECONDS })) := by
  have hheld : ¬r.cost > limits.capacity := not_lt.mpr hcost
  unfold view at h ⊢
  cases hrow : rows key with
  | none =>
    rw [hrow] at h
    exact absurd h hheld
  | some b =>
    rw [hrow] at h
    have hmissing : 0 ≤ r.cost - REFILLED limits.capacity limits.refill r.time b := by linarith
    refine ⟨b, rfl, ?_⟩
    rw [serving, consume, if_neg hheld, insertOrUpdate]
    simp only [hrow, ge_iff_le, not_le.mpr h, if_false, touch,
      Option.getD_some, max_eq_left hmissing]

/-- **A refusal**: the bucket is short, and after it the store shows and holds what it did. -/
theorem PostgresRateLimitStore.serving_refused
    (hview : view key limits rows r.time ≤ limits.capacity)
    (h : ¬(r.cost ≤ limits.capacity ∧ r.cost ≤ view key limits rows r.time)) :
    view key limits rows r.time < r.cost
      ∧ (serving key limits rows r).1.allowed = false
      ∧ view key limits (serving key limits rows r).2 = view key limits rows
      ∧ stored key (serving key limits rows r).2 = stored key rows
      ∧ (r.cost ≤ limits.capacity → limits.refill > 0 →
        (serving key limits rows r).1.retryAfterSeconds
          = (r.cost - view key limits rows r.time) / limits.refill) := by
  by_cases hcost : r.cost ≤ limits.capacity
  · have hshort : view key limits rows r.time < r.cost :=
      not_le.mp fun hle => h ⟨hcost, hle⟩
    obtain ⟨b, hrow, hserving⟩ := serving_of_lt hcost hshort
    rw [hserving]
    refine ⟨hshort, rfl, ?_, ?_, fun _ hrefill => if_pos hrefill⟩
    · funext u
      simp only [view, hrow, Function.update_self]
      rfl
    · simp only [stored, hrow, Function.update_self, Option.map_some]
  · have hover : r.cost > limits.capacity := not_le.mp hcost
    rw [serving_of_gt hover]
    exact ⟨hview.trans_lt hover, rfl, rfl, rfl, fun h => absurd h hcost⟩

/-- What is shown is no more than a bucket holds. -/
theorem view_le {shown : ℚ → ℚ} (hshows : limits.Shows shown t level) (ht : t ≤ r.time) :
    shown r.time ≤ limits.capacity :=
  (hshows r.time ht).trans_le refilled_le_capacity

theorem PostgresRateLimitStore.serves (hrefill : 0 < limits.refill) :
    Serves limits (serving key limits) (view key limits) (stored key) where
  allowed s t level r hshows ht := by
    have hview := view_le hshows ht
    rw [← hshows r.time ht]
    by_cases h : r.cost ≤ limits.capacity ∧ r.cost ≤ view key limits s r.time
    · rw [serving_of_le h.1 h.2]
      simp [grants, h.2]
    · obtain ⟨hshort, hrefused, -⟩ := serving_refused hview h
      rw [hrefused]
      simp [grants, hshort]
  shows s t level r hshows ht := by
    have hview := view_le hshows ht
    by_cases h : r.cost ≤ limits.capacity ∧ r.cost ≤ view key limits s r.time
    · rw [serving_of_le h.1 h.2, left, ← hshows r.time ht,
        if_neg (not_lt.mpr h.2)]
      intro u htu
      simp only [view, Function.update_self]
      rfl
    · obtain ⟨hshort, -, hsame, -⟩ := serving_refused hview h
      rw [hshows r.time ht] at hshort
      rw [hsame, left, if_pos hshort]
      exact hshows.later hrefill.le ht
  stored s t level r x hshows ht hx := by
    have hview := view_le hshows ht
    by_cases h : r.cost ≤ limits.capacity ∧ r.cost ≤ view key limits s r.time
    · rw [serving_of_le h.1 h.2] at hx
      simp only [stored, Function.update_self, Option.map_some, Option.some.injEq] at hx
      rw [left, ← hshows r.time ht, if_neg (not_lt.mpr h.2)]
      exact .inl hx.symm
    · obtain ⟨-, -, -, hsame, -⟩ := serving_refused hview h
      exact .inr (hsame ▸ hx)
  retryAfter s t level r hshows ht hcost hrefused := by
    have hview := view_le hshows ht
    rw [← hshows r.time ht]
    by_cases h : r.cost ≤ limits.capacity ∧ r.cost ≤ view key limits s r.time
    · rw [serving_of_le h.1 h.2] at hrefused
      cases hrefused
    · exact (serving_refused hview h).2.2.2.2 hcost hrefill

/-! ## Both stores -/

/-- A key that was never used shows a full bucket, in memory. -/
theorem InMemoryBucketStore.shows_new (hkey : buckets key = none) (hrefill : 0 ≤ limits.refill) :
    limits.Shows (view key limits buckets) t limits.capacity := by
  intro u htu
  rw [refilled_capacity hrefill (sub_nonneg.mpr htu), view, hkey]

/-- A key that was never used shows a full bucket, in the database. -/
theorem PostgresRateLimitStore.shows_new (hkey : rows key = none) (hrefill : 0 ≤ limits.refill) :
    limits.Shows (view key limits rows) t limits.capacity := by
  intro u htu
  rw [refilled_capacity hrefill (sub_nonneg.mpr htu), view, hkey]

end

/-- **What is asked of a rate limiter**, of one store and the requests on one key: the next request,
if it is refused, is granted after as long as it was told to wait; what is granted in any interval
is bounded; and the level stored is never less than nothing nor above the capacity. -/
structure Limited {σ : Type} (limits : Limits ℚ) (consume : Consume σ) (stored : σ → Option ℚ)
    (s : σ) (requests : List (Request ℚ)) : Prop where
  retried : ∀ (r : Request ℚ) (later : ℚ), (∀ r' ∈ requests, r'.time ≤ r.time) →
    r.cost ≤ limits.capacity →
    (consume (serveAll consume s requests).2 r).1.allowed = false →
    r.time + (consume (serveAll consume s requests).2 r).1.retryAfterSeconds ≤ later →
    (consume (consume (serveAll consume s requests).2 r).2 ⟨later, r.cost⟩).1.allowed = true
  bounded : 0 ≤ limits.capacity → ∀ start length, 0 ≤ length →
    grantedWithin start (start + length) requests
        ((serveAll consume s requests).1.map BucketState.allowed)
      ≤ limits.capacity + limits.refill * length
  stored : 0 ≤ limits.capacity →
    ∀ level, stored (serveAll consume s requests).2 = some level →
      0 ≤ level ∧ level ≤ limits.capacity

/-- Requests that come in order come in order from some time on, before any given one. -/
theorem exists_ordered {requests : List (Request ℚ)} (bound : ℚ)
    (htimes : requests.Pairwise fun r r' => r.time ≤ r'.time) :
    ∃ t ≤ bound, Ordered t requests := by
  have hpairwise : (requests.map Request.time).Pairwise (· ≤ ·) := List.pairwise_map.mpr htimes
  cases requests with
  | nil => exact ⟨bound, le_rfl, List.pairwise_singleton _ _⟩
  | cons r rs =>
    refine ⟨min bound r.time, min_le_left _ _, List.pairwise_cons.mpr ⟨fun u hu => ?_, hpairwise⟩⟩
    rcases List.mem_cons.mp hu with rfl | hu
    · exact min_le_right _ _
    · exact (min_le_right _ _).trans (List.rel_of_pairwise_cons hpairwise hu)

/-- A store that serves as one full bucket is a rate limiter. -/
theorem Serves.limited {σ : Type} {limits : Limits ℚ} {consume : Consume σ} {view : σ → ℚ → ℚ}
    {stored : σ → Option ℚ} {s : σ} {requests : List (Request ℚ)}
    (h : Serves limits consume view stored) (hrefill : 0 < limits.refill)
    (hshows : ∀ t, limits.Shows (view s) t limits.capacity) (hstored : stored s = none)
    (hcosts : ∀ r ∈ requests, 0 < r.cost)
    (htimes : requests.Pairwise fun r r' => r.time ≤ r'.time) :
    Limited limits consume stored s requests where
  retried r later hlast hcost hrefused hlater := by
    obtain ⟨t, ht, hordered⟩ := exists_ordered r.time htimes
    obtain ⟨level, hlevel⟩ := h.shows_serve hrefill.le (hshows t) hordered ht hlast
    exact h.retry hrefill hlevel le_rfl hcost hrefused hlater
  bounded hcapacity start length hlength := by
    obtain ⟨t, -, hordered⟩ := exists_ordered 0 htimes
    have hbound := grantedWithin_le hcapacity hrefill.le hcapacity hordered
      (fun r hr => (hcosts r hr).le) (le_add_of_nonneg_right (a := start) hlength)
    rw [h.allowed_serve (hshows t) hordered]
    rwa [add_sub_cancel_left, mul_comm] at hbound
  stored hcapacity := by
    obtain ⟨t, -, hordered⟩ := exists_ordered 0 htimes
    refine h.stored_serve hcapacity hrefill.le (hshows t) hcapacity hordered
      (fun r hr => (hcosts r hr).le) fun x hx => ?_
    rw [hstored] at hx
    cases hx

/-- **The two stores are one rate limiter**: on a key that neither has seen they grant the same
requests, and each does what is asked of a rate limiter. -/
theorem stores_limit (key : String) (limits : Limits ℚ) (hrefill : 0 < limits.refill)
    (buckets : InMemoryBucketStore) (rows : PostgresRateLimitStore) (hbuckets : buckets key = none)
    (hrows : rows key = none) (requests : List (Request ℚ)) (hcosts : ∀ r ∈ requests, 0 < r.cost)
    (htimes : requests.Pairwise fun r r' => r.time ≤ r'.time) :
    (serveAll (InMemoryBucketStore.serving key limits) buckets requests).1.map BucketState.allowed
        = (serveAll (PostgresRateLimitStore.serving key limits) rows requests).1.map
          BucketState.allowed
      ∧ Limited limits (InMemoryBucketStore.serving key limits) (InMemoryBucketStore.stored key)
        buckets requests
      ∧ Limited limits (PostgresRateLimitStore.serving key limits)
        (PostgresRateLimitStore.stored key) rows requests := by
  obtain ⟨t, -, hordered⟩ := exists_ordered 0 htimes
  refine ⟨?_, ?_, ?_⟩
  · rw [(InMemoryBucketStore.serves hrefill).allowed_serve
        (InMemoryBucketStore.shows_new hbuckets hrefill.le) hordered,
      (PostgresRateLimitStore.serves hrefill).allowed_serve
        (PostgresRateLimitStore.shows_new hrows hrefill.le) hordered]
  · refine (InMemoryBucketStore.serves hrefill).limited hrefill
      (fun t => InMemoryBucketStore.shows_new hbuckets hrefill.le) ?_ hcosts htimes
    rw [InMemoryBucketStore.stored, hbuckets, Option.map_none]
  · refine (PostgresRateLimitStore.serves hrefill).limited hrefill
      (fun t => PostgresRateLimitStore.shows_new hrows hrefill.le) ?_ hcosts htimes
    rw [PostgresRateLimitStore.stored, hrows, Option.map_none]

/-- Ten tokens, two a second: eight are granted, the next five are not, and in the interval of two
seconds no more than fourteen could have been. -/
theorem eight_granted :
    (serveAll (InMemoryBucketStore.serving "rl:llm:a" ⟨10, 2⟩) (fun _ => none)
        [⟨0, 8⟩, ⟨1, 5⟩]).1.map BucketState.allowed = [true, false]
      ∧ grantedWithin (0 : ℚ) (0 + 2) [⟨0, 8⟩, ⟨1, 5⟩]
        ((serveAll (InMemoryBucketStore.serving "rl:llm:a" ⟨10, 2⟩) (fun _ => none)
          [⟨0, 8⟩, ⟨1, 5⟩]).1.map BucketState.allowed) ≤ 10 + 2 * 2 :=
  ⟨by decide +kernel,
    (stores_limit "rl:llm:a" ⟨10, 2⟩ (by norm_num) (fun _ => none) (fun _ => none) rfl rfl
      [⟨0, 8⟩, ⟨1, 5⟩] (by simp) (by simp)).2.1.bounded (by norm_num) 0 2 (by norm_num)⟩

end NxTutors.MatchAgent
