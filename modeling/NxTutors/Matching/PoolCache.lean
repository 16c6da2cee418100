import NxTutors.Effect.Steps
import NxTutors.Matching.Mirroring
import NxTutors.Store.Expiring

/-!
# Pools from a cache

The candidate query is read through two caches, one of the container and one that all containers
share. What a search answers should be what the repository would have answered not long ago, for the
same query, with nobody in it who has grown too old since, and nothing older than an invalidation
that is half a minute past.

It is, as long as the queries of a run that share a key have one answer, no entry is copied into the
cache of a container when it is about to expire, and nobody has grown too old: `transparent_along`.
-/

namespace NxTutors.Matching

open Text MatchAgent Store Effect

/-! ## Keys -/

/-- What `str` makes of a number that may be missing. -/
def textOf : Option Nat → String
  | none => "None"
  | some n => toString n

/-- What the key of a query is made of. -/
def fingerprintParts (q : CandidateQuery) : List String :=
  [",".intercalate (q.subjects.insertionSort (· ≤ ·)),
    ",".intercalate (q.boards.insertionSort (· ≤ ·)), textOf q.classNumber,
    ",".intercalate (q.cityAliases.insertionSort (· ≤ ·)), ",".intercalate q.nameTerms,
    q.pincode.getD "", (q.mode.map TuitionMode.value).getD "", q.gender.getD "", textOf q.maxFee,
    toString q.limit, q.publicRef.getD ""]

/-- A repository behind a cache: its settings, and the first characters of a digest. -/
structure CachedTutorRepository where
  platform : Platform
  window : FreshnessWindow
  policyRef : String
  /-- for how long a pool is kept -/
  ttlSeconds : Nat
  sha256 : String → String

/-- Every key of a namespace. -/
def cacheKey (parts : List String) : String := ":".intercalate ("v1" :: parts.filter (· ≠ ""))

def SECOND : Time := 1000000

/-- How long anything may stay in the cache of a container. -/
def L1_MAX_TTL : Time := 30 * SECOND

def MAX_CACHED_POOL : Nat := 200

namespace CachedTutorRepository

variable (R : CachedTutorRepository)

def fingerprint (q : CandidateQuery) : String :=
  Text.take (R.sha256 ("|".intercalate (fingerprintParts q))) 24

/-- `CacheKeys.candidate_pool`. -/
def candidatePool (fingerprint : String) : String := cacheKey ["pool", R.policyRef, fingerprint]

def key (q : CandidateQuery) : String := R.candidatePool (R.fingerprint q)

def ttl : Time := R.ttlSeconds * SECOND

end CachedTutorRepository

/-! ## The caches -/

abbrev Pool := List TutorCandidate

/-- The cache of each container, and the one they share. -/
structure Caches where
  l1 : Nat → Cache String Pool Time
  l2 : Cache String Pool Time

namespace Caches

/-- Another cache for a container. -/
def putL1 (s : Caches) (container : Nat) (cache : Cache String Pool Time) : Caches :=
  { s with l1 := fun i => if i = container then cache else s.l1 i }

/-- `TieredCache.get`: what is found in the shared cache is copied. -/
def get (now : Time) (container : Nat) (key : String) (s : Caches) : Option Pool × Caches :=
  let (near, l1) := (s.l1 container).get now key
  match near with
  | some value => (some value, s.putL1 container l1)
  | none =>
    let (far, l2) := s.l2.get now key
    match far with
    | none => (none, { s with l2 }.putL1 container l1)
    | some value => (some value, { s with l2 }.putL1 container (l1.set now key value L1_MAX_TTL))

/-- `TieredCache.set`. -/
def set (now : Time) (container : Nat) (key : String) (value : Pool) (ttl : Time) (s : Caches) :
    Caches :=
  { s with l2 := s.l2.set now key value ttl }.putL1 container
    ((s.l1 container).set now key value (min ttl L1_MAX_TTL))

/-- `TieredCache.clear_prefix`. -/
def clearPrefix (container : Nat) (start : String) (s : Caches) : Caches :=
  let doomed (key : String) : Bool := start.toList.isPrefixOf key.toList
  { s with l2 := s.l2.clear doomed }.putL1 container ((s.l1 container).clear doomed)

end Caches

/-! ## Searching -/

/-- What a container does. -/
inductive Order
  | search (container : Nat) (q : CandidateQuery)
  | invalidate (container : Nat)

/-- And when. -/
structure Event where
  at' : Time
  order : Order

variable (R : CachedTutorRepository) (tables : Time → TutorTable)

/-- What the repository answers at a moment, as the table is then. -/
def inner (now : Time) (q : CandidateQuery) : Pool :=
  pgSearch R.platform R.window now (tables now) q

/-- `_refresh`: with the freshness of now. -/
def refresh (now : Time) (pool : Pool) : Pool := pool.map (toCandidate R.window now)

/-- `CachedTutorRepository.search`. -/
def cachedSearch (now : Time) (container : Nat) (q : CandidateQuery) (s : Caches) : Pool × Caches :=
  if present q.publicRef then (inner R tables now q, s)
  else
    let (cached, s) := s.get now container (R.key q)
    match cached with
    | some pool => (refresh R now pool, s)
    | none =>
      let pool := inner R tables now q
      -- an empty pool is not kept, and one that is too large is not either
      if 0 < pool.length ∧ pool.length ≤ MAX_CACHED_POOL then
        (pool, s.set now container (R.key q) pool R.ttl)
      else (pool, s)

/-- `invalidate`: all pools of the policy. -/
def invalidate (container : Nat) (s : Caches) : Caches :=
  s.clearPrefix container (R.candidatePool "")

/-- The caches, and what has been done so far. -/
structure History where
  caches : Caches
  log : List Event := []

/-- One thing after another. -/
def next (h : History) (e : Event) : History where
  caches := match e.order with
    | .search container q => (cachedSearch R tables e.at' container q h.caches).2
    | .invalidate container => invalidate R container h.caches
  log := e :: h.log

/-! ## What is promised -/

/-- The answer is one the repository would have given for the query, not too long ago and not before
an invalidation that is half a minute past, and everybody in it is as fresh as is asked for. -/
structure Transparent (log : List Event) (now : Time) (q : CandidateQuery) (answer : Pool) :
    Prop where
  recent : ∃ r, now - R.ttl ≤ r ∧ r ≤ now ∧ answer = refresh R now (inner R tables r q) ∧
    ∀ e ∈ log, (∃ container, e.order = .invalidate container) → e.at' + L1_MAX_TTL < now → e.at' ≤ r
  fresh : ∀ t ∈ answer, t.freshness ∈ q.minFreshness

/-- Each search is answered as promised. -/
def Answered (h : History) (e : Event) : Prop :=
  match e.order with
  | .search container q =>
    Transparent R tables h.log e.at' q (cachedSearch R tables e.at' container q h.caches).1
  | .invalidate _ => True

/-- The repository has one answer for both. -/
def SameAnswers (q q' : CandidateQuery) : Prop := ∀ now, inner R tables now q = inner R tables now q'

/-- **Nothing goes wrong** at a search: it is for tutors who are fresh or aging, a tutor who is
named has been synced lately, and for other queries every earlier one under the same key has the
same answers, an entry that is copied into the cache of the container has at least half a minute
left, and everybody in a pool from a cache has been synced lately. -/
structure Harmless (h : History) (now : Time) (container : Nat) (q : CandidateQuery) : Prop where
  freshness : ∀ f ∈ RECOMMENDABLE_FRESHNESS, f ∈ q.minFreshness
  named : present q.publicRef →
    ∀ t ∈ (tables now).rows, t.publicRef = q.publicRef.getD "" → recent R.window now t
  keys : present q.publicRef = false → ∀ e ∈ h.log, ∀ container' q', e.order = .search container' q' →
    present q'.publicRef = false → R.key q' = R.key q → SameAnswers R tables q' q
  copied : present q.publicRef = false → ((h.caches.l1 container).get now (R.key q)).1 = none →
    ∀ entry, h.caches.l2.find (R.key q) = some entry → now < entry.expiresAt →
      now + L1_MAX_TTL ≤ entry.expiresAt
  aged : present q.publicRef = false → ∀ pool, (h.caches.get now container (R.key q)).1 = some pool →
    ∀ t ∈ pool, recent R.window now t

/-- The condition of each step. -/
def Careful (h : History) (e : Event) : Prop :=
  match e.order with
  | .search container q => Harmless R tables h e.at' container q
  | .invalidate _ => True

/-- One clock, which does not go back. -/
def OneClock (h : History) (e : Event) : Prop := ∀ e' ∈ h.log, e'.at' ≤ e.at'

/-! ## What reading and writing do -/

namespace Caches

variable {s : Caches} {now : Time} {container i : Nat} {key : String}
  {x : String × Expiring Pool Time}

theorem l1_putL1 {cache : Cache String Pool Time} :
    (s.putL1 container cache).l1 i = if i = container then cache else s.l1 i := rfl

@[simp] theorem l2_putL1 {cache : Cache String Pool Time} : (s.putL1 container cache).l2 = s.l2 := rfl

/-- What is found was in the cache of the container, or else in the shared one. -/
theorem of_get_eq_some {pool : Pool} (h : (s.get now container key).1 = some pool) :
    ((s.l1 container).get now key).1 = some pool ∨
      ((s.l1 container).get now key).1 = none ∧ (s.l2.get now key).1 = some pool := by
  unfold get at h
  cases hnear : ((s.l1 container).get now key).1 with
  | some value =>
    simp only [hnear] at h
    exact .inl h
  | none =>
    cases hfar : (s.l2.get now key).1 with
    | none =>
      simp only [hnear, hfar] at h
      cases h
    | some value =>
      simp only [hnear, hfar] at h
      exact .inr ⟨rfl, h⟩

theorem mem_get_l2 (h : x ∈ (s.get now container key).2.l2.entries) : x ∈ s.l2.entries := by
  unfold get at h
  cases hnear : ((s.l1 container).get now key).1 with
  | some value =>
    simp only [hnear] at h
    exact h
  | none =>
    cases hfar : (s.l2.get now key).1 with
    | none =>
      simp only [hnear, hfar] at h
      exact Cache.mem_get h
    | some value =>
      simp only [hnear, hfar] at h
      exact Cache.mem_get h

/-- Reading copies what was found in the shared cache only. -/
theorem mem_get_l1 (h : x ∈ ((s.get now container key).2.l1 i).entries) :
    x ∈ (s.l1 i).entries ∨ ((s.l1 container).get now key).1 = none ∧
      ∃ pool, (s.l2.get now key).1 = some pool ∧ x = (key, ⟨pool, now + L1_MAX_TTL⟩) := by
  unfold get at h
  cases hnear : ((s.l1 container).get now key).1 with
  | some value =>
    simp only [hnear, l1_putL1] at h
    split at h
    · rename_i hi
      subst hi
      exact .inl (Cache.mem_get h)
    · exact .inl h
  | none =>
    cases hfar : (s.l2.get now key).1 with
    | none =>
      simp only [hnear, hfar, l1_putL1] at h
      split at h
      · rename_i hi
        subst hi
        exact .inl (Cache.mem_get h)
      · exact .inl h
    | some value =>
      simp only [hnear, hfar, l1_putL1] at h
      split at h
      · rename_i hi
        subst hi
        rcases Cache.mem_set h with h | ⟨-, rfl⟩
        · exact .inl (Cache.mem_get h)
        · exact .inr ⟨rfl, value, rfl, rfl⟩
      · exact .inl h

theorem mem_set_l2 {pool : Pool} {ttl : Time}
    (h : x ∈ (s.set now container key pool ttl).l2.entries) :
    x ∈ s.l2.entries ∨ x = (key, ⟨pool, now + ttl⟩) := by
  rcases Cache.mem_set h with h | ⟨-, rfl⟩
  · exact .inl h
  · exact .inr rfl

theorem mem_set_l1 {pool : Pool} {ttl : Time}
    (h : x ∈ ((s.set now container key pool ttl).l1 i).entries) :
    x ∈ (s.l1 i).entries ∨ x = (key, ⟨pool, now + min ttl L1_MAX_TTL⟩) := by
  rw [set, l1_putL1] at h
  split at h
  · rename_i hi
    subst hi
    rcases Cache.mem_set h with h | ⟨-, rfl⟩
    · exact .inl h
    · exact .inr rfl
  · exact .inl h

theorem mem_clearPrefix_l1 {start : String}
    (h : x ∈ ((s.clearPrefix container start).l1 i).entries) : x ∈ (s.l1 i).entries := by
  rw [clearPrefix, l1_putL1] at h
  split at h
  · rename_i hi
    subst hi
    exact (Cache.mem_clear.mp h).1
  · exact h

theorem mem_clearPrefix_l2 {start : String}
    (h : x ∈ (s.clearPrefix container start).l2.entries) :
    x ∈ s.l2.entries ∧ start.toList.isPrefixOf x.1.toList = false :=
  Cache.mem_clear.mp h

end Caches

/-- Every key of a pool begins as the keys that an invalidation drops. -/
theorem isPrefixOf_candidatePool (fingerprint : String) :
    (R.candidatePool "").toList.isPrefixOf (R.candidatePool fingerprint).toList = true := by
  have hkey (last : String) : R.candidatePool last
      = ":".intercalate (("v1" :: ["pool", R.policyRef].filter (· ≠ "")) ++ [last].filter (· ≠ "")) :=
    congrArg (fun parts => ":".intercalate ("v1" :: parts))
      (List.filter_append ["pool", R.policyRef] [last])
  rw [List.isPrefixOf_iff_prefix, hkey "", hkey fingerprint]
  by_cases hempty : fingerprint = ""
  · rw [hempty]
  · have hnone : ([""].filter (· ≠ "") : List String) = [] := rfl
    have hone : [fingerprint].filter (· ≠ "") = [fingerprint] := by simp [hempty]
    rw [hnone, hone, List.append_nil,
      String.intercalate_append_of_ne_nil (List.cons_ne_nil _ _) (List.cons_ne_nil _ _),
      String.toList_append, String.toList_append, List.append_assoc]
    exact List.prefix_append _ _

/-! ## The answers -/

section Answers

variable {R} {tables} {now : Time} {q : CandidateQuery} {t u : TutorCandidate}

/-- What a row is as old as when it is answered. -/
theorem freshness_of_recent {w : FreshnessWindow} (h : recent w now t = true) :
    freshnessFor w t.syncedAt now ∈ RECOMMENDABLE_FRESHNESS := by
  unfold recent at h
  cases hsynced : t.syncedAt with
  | none =>
    rw [hsynced] at h
    cases h
  | some synced =>
    rw [hsynced, Option.any_some, decide_eq_true_eq] at h
    have hnew : now - synced ≤ w.agingHours * HOUR := sub_le_comm.mp h
    unfold freshnessFor
    by_cases hfresh : now - synced ≤ w.freshHours * HOUR
    · simp only [if_pos hfresh]
      decide
    · simp only [if_neg hfresh, if_pos hnew]
      decide

/-- Everybody in an answer of the repository has been selected there. -/
theorem of_mem_inner (h : t ∈ inner R tables now q) :
    ∃ u ∈ (tables now).rows, selected R.platform R.window now u q = true ∧
      filteredLater R.platform (toCandidate R.window now u) q = true ∧
      t = toCandidate R.window now u := by
  unfold inner pgSearch at h
  obtain ⟨hmem, hlater⟩ := List.mem_filter.mp (List.mem_of_mem_take h)
  obtain ⟨u, hu, rfl⟩ := List.mem_map.mp hmem
  have hrow := (List.mem_insertionSort _).mp (List.mem_of_mem_take hu)
  obtain ⟨hu, hselected⟩ := List.mem_filter.mp hrow
  exact ⟨u, hu, hselected, hlater, rfl⟩

/-- An answer that has just been given is as fresh as it says. -/
theorem refresh_inner : refresh R now (inner R tables now q) = inner R tables now q := by
  refine (List.map_congr_left fun t ht => ?_).trans (List.map_id _)
  obtain ⟨u, -, -, -, rfl⟩ := of_mem_inner ht
  rfl

/-- Who is selected has been synced lately, or is named. -/
theorem recent_of_selected (h : selected R.platform R.window now u q = true)
    (hq : present q.publicRef = false) : recent R.window now u = true := by
  rw [selected_eq hq] at h
  simp only [Bool.and_eq_true] at h
  exact h.1.1.1.1

/-- And who is named has the reference. -/
theorem publicRef_of_selected (h : selected R.platform R.window now u q = true)
    (hq : present q.publicRef = true) : u.publicRef = q.publicRef.getD "" := by
  rw [selected, conditions, if_pos hq, Truth.holds_all] at h
  simp only [List.all_cons, List.all_nil, Bool.and_true, holds_compared, Option.any_some,
    decide_eq_true_eq] at h
  rw [← h, Option.getD_some]

/-- **An answer of the repository** is what is promised of it at once. -/
theorem transparent_inner {log : List Event} (httl : 0 ≤ R.ttl)
    (hfreshness : ∀ f ∈ RECOMMENDABLE_FRESHNESS, f ∈ q.minFreshness)
    (hnamed : present q.publicRef →
      ∀ t ∈ (tables now).rows, t.publicRef = q.publicRef.getD "" → recent R.window now t) :
    Transparent R tables log now q (inner R tables now q) := by
  refine ⟨⟨now, ?_, le_refl now, refresh_inner.symm, ?_⟩, ?_⟩
  · exact sub_le_self now httl
  · intro e _ _ hpast
    have hpos : (0 : Int) ≤ L1_MAX_TTL := by decide
    exact (le_add_of_nonneg_right hpos).trans hpast.le
  · intro t ht
    obtain ⟨u, hu, hselected, -, rfl⟩ := of_mem_inner ht
    have hrecent : recent R.window now u = true := by
      cases hq : present q.publicRef with
      | true => exact hnamed hq u hu (publicRef_of_selected hselected hq)
      | false => exact recent_of_selected hselected hq
    exact hfreshness _ (freshness_of_recent hrecent)

end Answers

theorem CachedTutorRepository.ttl_nonneg : 0 ≤ R.ttl := by
  have hsecond : (0 : Int) ≤ SECOND := by decide
  exact Int.mul_nonneg (Int.natCast_nonneg _) hsecond

/-! ## What is in the caches -/

/-- The pool has been fetched at a moment, for a query with the key. -/
def Stored (log : List Event) (key : String) (pool : Pool) (r : Time) : Prop :=
  ∃ container q, ⟨r, .search container q⟩ ∈ log ∧ present q.publicRef = false ∧ R.key q = key ∧
    pool = inner R tables r q

/-- No pool from before it. -/
def Event.Precedes (e : Event) (r : Time) : Prop :=
  (∃ container, e.order = .invalidate container) → e.at' ≤ r

/-- **What the caches hold**: pools that have been fetched, and not for longer than they are kept.
In the shared one none is older than an invalidation, and in that of a container one that is older
is gone half a minute after it. -/
structure Sound (h : History) : Prop where
  far : ∀ x ∈ h.caches.l2.entries, ∃ r, Stored R tables h.log x.1 x.2.value r ∧
    x.2.expiresAt ≤ r + R.ttl ∧ ∀ e ∈ h.log, e.Precedes r
  near : ∀ container, ∀ x ∈ (h.caches.l1 container).entries, ∃ r,
    Stored R tables h.log x.1 x.2.value r ∧ x.2.expiresAt ≤ r + R.ttl ∧
    (∃ e ∈ h.log, x.2.expiresAt ≤ e.at' + L1_MAX_TTL) ∧
    ∀ e ∈ h.log, x.2.expiresAt ≤ e.at' + L1_MAX_TTL ∨ e.Precedes r

section Invariant

variable {R tables} {h : History} {e : Event} {now r : Time} {container : Nat} {q : CandidateQuery}
  {key : String} {pool : Pool}

theorem Stored.later {log : List Event} (hs : Stored R tables log key pool r) :
    Stored R tables (e :: log) key pool r := by
  obtain ⟨container, q, hmem, hrest⟩ := hs
  exact ⟨container, q, List.mem_cons_of_mem _ hmem, hrest⟩

/-- A search invalidates nothing. -/
theorem precedes_search {now' : Time} : Event.Precedes ⟨now', .search container q⟩ r := by
  rintro ⟨_, heq⟩
  cases heq

/-- With one clock, nothing precedes the moment that it is. -/
theorem OneClock.precedes (hclock : OneClock h e) : ∀ e' ∈ h.log, e'.Precedes e.at' :=
  fun e' hmem _ => hclock e' hmem

/-- **A search that finds something** answers with a pool that has been fetched. -/
theorem of_get_eq_some (hs : Sound R tables h)
    (hget : (h.caches.get now container key).1 = some pool) :
    ∃ r, Stored R tables h.log key pool r ∧ now < r + R.ttl ∧
      ∀ e ∈ h.log, now < e.at' + L1_MAX_TTL ∨ e.Precedes r := by
  rcases Caches.of_get_eq_some hget with hnear | ⟨-, hfar⟩
  · obtain ⟨entry, -, hmem, rfl, hlive⟩ := Cache.of_get_eq_some hnear
    obtain ⟨r, hstored, hexpires, -, hpast⟩ := hs.near container _ hmem
    refine ⟨r, hstored, hlive.trans_le hexpires, fun e he => ?_⟩
    exact (hpast e he).imp_left hlive.trans_le
  · obtain ⟨entry, -, hmem, rfl, hlive⟩ := Cache.of_get_eq_some hfar
    obtain ⟨r, hstored, hexpires, hpast⟩ := hs.far _ hmem
    exact ⟨r, hstored, hlive.trans_le hexpires, fun e he => .inr (hpast e he)⟩

/-- A search that has begun changes nothing yet. -/
theorem Sound.begin (hs : Sound R tables h) :
    Sound R tables ⟨h.caches, ⟨now, .search container q⟩ :: h.log⟩ := by
  constructor
  case far =>
    intro x hx
    obtain ⟨r, hstored, hexpires, hpast⟩ := hs.far x hx
    exact ⟨r, hstored.later, hexpires, List.forall_mem_cons.mpr ⟨precedes_search, hpast⟩⟩
  case near =>
    intro i x hx
    obtain ⟨r, hstored, hexpires, ⟨e₀, he₀, hsoon⟩, hpast⟩ := hs.near i x hx
    exact ⟨r, hstored.later, hexpires, ⟨e₀, List.mem_cons_of_mem _ he₀, hsoon⟩,
      List.forall_mem_cons.mpr ⟨.inr precedes_search, hpast⟩⟩

/-- Reading keeps the caches sound, if no entry is copied that is about to expire. -/
theorem Sound.get (hs : Sound R tables h) (hbegun : ⟨now, .search container q⟩ ∈ h.log)
    (hcopied : ((h.caches.l1 container).get now key).1 = none →
      ∀ entry, h.caches.l2.find key = some entry → now < entry.expiresAt →
        now + L1_MAX_TTL ≤ entry.expiresAt) :
    Sound R tables ⟨(h.caches.get now container key).2, h.log⟩ := by
  constructor
  case far => exact fun x hx => hs.far x (Caches.mem_get_l2 hx)
  case near =>
    intro i x hx
    rcases Caches.mem_get_l1 hx with hx | ⟨hnone, pool, hfar, rfl⟩
    · exact hs.near i x hx
    · obtain ⟨entry, hfind, hmem, rfl, hlive⟩ := Cache.of_get_eq_some hfar
      obtain ⟨r, hstored, hexpires, hpast⟩ := hs.far _ hmem
      exact ⟨r, hstored, (hcopied hnone entry hfind hlive).trans hexpires,
        ⟨_, hbegun, le_refl _⟩, fun e he => .inr (hpast e he)⟩

/-- Writing keeps them sound, if what is written has just been fetched. -/
theorem Sound.set (hs : Sound R tables h) (hfetched : ⟨now, .search container q⟩ ∈ h.log)
    (hq : present q.publicRef = false) (hpast : ∀ e ∈ h.log, e.Precedes now) :
    Sound R tables ⟨h.caches.set now container (R.key q) (inner R tables now q) R.ttl, h.log⟩ := by
  have hstored : Stored R tables h.log (R.key q) (inner R tables now q) now :=
    ⟨container, q, hfetched, hq, rfl, rfl⟩
  constructor
  case far =>
    intro x hx
    rcases Caches.mem_set_l2 hx with hx | rfl
    · exact hs.far x hx
    · exact ⟨now, hstored, le_refl _, hpast⟩
  case near =>
    intro i x hx
    rcases Caches.mem_set_l1 hx with hx | rfl
    · exact hs.near i x hx
    · refine ⟨now, hstored, ?_, ⟨_, hfetched, ?_⟩, fun e he => .inr (hpast e he)⟩
      · exact add_le_add_right (min_le_left _ _) now
      · exact add_le_add_right (min_le_right _ _) now

/-- **Invalidating** leaves nothing in the shared cache, and in that of a container what is gone
half a minute later. -/
theorem Sound.invalidate (hs : Sound R tables h) (hclock : OneClock h ⟨now, .invalidate container⟩) :
    Sound R tables ⟨invalidate R container h.caches, ⟨now, .invalidate container⟩ :: h.log⟩ := by
  constructor
  case far =>
    intro x hx
    obtain ⟨hx, hother⟩ := Caches.mem_clearPrefix_l2 hx
    obtain ⟨-, ⟨_, q, -, -, hkey, -⟩, -, -⟩ := hs.far x hx
    rw [← hkey, CachedTutorRepository.key, isPrefixOf_candidatePool] at hother
    cases hother
  case near =>
    intro i x hx
    obtain ⟨r, hstored, hexpires, ⟨e₀, he₀, hsoon⟩, hpast⟩ :=
      hs.near i x (Caches.mem_clearPrefix_l1 hx)
    have hclose : e₀.at' ≤ now := hclock e₀ he₀
    refine ⟨r, hstored.later, hexpires, ⟨e₀, List.mem_cons_of_mem _ he₀, hsoon⟩, fun e he => ?_⟩
    rcases List.mem_cons.mp he with rfl | he
    · exact .inl (hsoon.trans (add_le_add_left hclose L1_MAX_TTL))
    · exact hpast e he

/-- What a search answers, and what it leaves in the caches. -/
theorem cachedSearch_eq (hq : present q.publicRef = false) (s : Caches) :
    (∃ pool, (s.get now container (R.key q)).1 = some pool ∧
      cachedSearch R tables now container q s
        = (refresh R now pool, (s.get now container (R.key q)).2)) ∨
    (s.get now container (R.key q)).1 = none ∧
      ((cachedSearch R tables now container q s
        = (inner R tables now q, (s.get now container (R.key q)).2)) ∨
      cachedSearch R tables now container q s
        = (inner R tables now q, (s.get now container (R.key q)).2.set now container (R.key q)
          (inner R tables now q) R.ttl)) := by
  have hmiss : ¬present q.publicRef = true := by
    rw [hq]
    exact Bool.false_ne_true
  unfold cachedSearch
  rw [if_neg hmiss]
  cases hget : (s.get now container (R.key q)).1 with
  | some pool =>
    simp only [hget]
    exact .inl ⟨pool, rfl, rfl⟩
  | none =>
    simp only [hget]
    refine .inr ⟨trivial, ?_⟩
    split
    · exact .inr rfl
    · exact .inl rfl

/-- **A search** answers as promised and keeps the caches sound. -/
theorem Sound.search (hs : Sound R tables h) (hclock : OneClock h ⟨now, .search container q⟩)
    (hcareful : Harmless R tables h now container q) :
    Answered R tables h ⟨now, .search container q⟩ ∧
      Sound R tables (next R tables h ⟨now, .search container q⟩) := by
  have hinner : Transparent R tables h.log now q (inner R tables now q) :=
    transparent_inner R.ttl_nonneg hcareful.freshness hcareful.named
  cases hq : present q.publicRef with
  | true =>
    -- a tutor who is named is never looked for in the caches
    have hdirect : cachedSearch R tables now container q h.caches
        = (inner R tables now q, h.caches) := if_pos hq
    rw [Answered, next]
    dsimp only
    rw [hdirect]
    exact ⟨hinner, hs.begin⟩
  | false =>
    have hbegun : ⟨now, .search container q⟩ ∈ (⟨now, .search container q⟩ : Event) :: h.log :=
      List.mem_cons_self
    have hread : Sound R tables
        ⟨(h.caches.get now container (R.key q)).2, ⟨now, .search container q⟩ :: h.log⟩ :=
      hs.begin.get hbegun (hcareful.copied hq)
    have hpast : ∀ e ∈ (⟨now, .search container q⟩ : Event) :: h.log, e.Precedes now :=
      List.forall_mem_cons.mpr ⟨precedes_search, hclock.precedes⟩
    rw [Answered, next]
    dsimp only
    rcases @cachedSearch_eq R tables now container _ hq h.caches with ⟨pool, hget, heq⟩ | ⟨-, heq | heq⟩
    · rw [heq]
      refine ⟨?_, hread⟩
      obtain ⟨r, ⟨i, q', hsearched, hq', hkey, rfl⟩, hlive, hpast⟩ := of_get_eq_some hs hget
      have hsame : inner R tables r q' = inner R tables r q :=
        hcareful.keys hq _ hsearched i q' rfl hq' hkey r
      rw [hsame] at hget ⊢
      refine ⟨⟨r, ?_, hclock _ hsearched, rfl, ?_⟩, ?_⟩
      · exact sub_le_iff_le_add.mpr hlive.le
      · intro e he hinvalidate hlong
        exact (hpast e he).elim (fun hnot => absurd hnot (not_lt.mpr hlong.le)) fun h => h hinvalidate
      · intro t ht
        obtain ⟨u, hu, rfl⟩ := List.mem_map.mp ht
        exact hcareful.freshness _ (freshness_of_recent (hcareful.aged hq _ hget u hu))
    · rw [heq]
      exact ⟨hinner, hread⟩
    · rw [heq]
      exact ⟨hinner, hread.set hbegun hq hpast⟩

end Invariant

/-- Caches that are empty. -/
def emptyCaches (capacities : Nat → Nat) (capacity : Nat) : Caches where
  l1 i := ⟨[], capacities i⟩
  l2 := ⟨[], capacity⟩

/-- **What is answered through the caches**, in a run of any containers in any order: as long as
nothing goes wrong at a search, it is what the repository would have answered for the query, not too
long ago and not before an invalidation that is half a minute past. -/
theorem transparent_along (tables : Time → TutorTable) (capacities : Nat → Nat) (capacity : Nat)
    (events : List Event) :
    Along (next R tables) OneClock ⟨emptyCaches capacities capacity, []⟩ events →
      Along (next R tables) (Careful R tables) ⟨emptyCaches capacities capacity, []⟩ events →
        Along (next R tables) (Answered R tables) ⟨emptyCaches capacities capacity, []⟩ events := by
  intro hclock hcareful
  have hstart : Sound R tables ⟨emptyCaches capacities capacity, []⟩ := by
    constructor
    · intro x hx
      cases hx
    · intro i x hx
      cases hx
  refine Along.of_invariant hstart (hclock.and hcareful) fun h e hs ⟨hclock, hcareful⟩ => ?_
  obtain ⟨now, order⟩ := e
  cases order with
  | search container q => exact hs.search hclock hcareful
  | invalidate container => exact ⟨trivial, hs.invalidate hclock⟩

/-! ## Two classes under one key -/

/-- Kept for two minutes. -/
def forTwoMinutes : CachedTutorRepository where
  platform := ascii
  window := defaultWindow
  policyRef := "default"
  ttlSeconds := 120
  sha256 := id

/-- One tutor, who teaches LKG. -/
def forLkg : TutorTable :=
  ⟨[{ tutorId := "t1", publicRef := "dDEtbnh0", name := "Asha", syncedAt := some 0,
      capabilities := { classes := ["LKG"] } }], List.nodup_singleton _⟩

/-- What is asked for a child of a class. -/
def askedFor (studentClass : String) : CandidateQuery :=
  queryFromRequirement ascii { conversationId := "c1", studentClass := some { value := studentClass } }
    10

/-- Searches for two classes in one container, a second apart. -/
def inTurn (first second : String) : List Event :=
  [⟨0, .search 0 (askedFor first)⟩, ⟨SECOND, .search 0 (askedFor second)⟩]

def started : History := ⟨emptyCaches (fun _ => 2000) 2000, []⟩

theorem oneClock_inTurn (first second : String) :
    Along (next forTwoMinutes fun _ => forLkg) OneClock started (inTurn first second) := by
  refine ⟨fun e he => (List.not_mem_nil he).elim, fun e he => ?_, trivial⟩
  rw [List.mem_singleton.mp he]
  have hsecond : (0 : Int) ≤ SECOND := by decide
  exact hsecond

/-- Who teaches LKG is not found for Nursery, at any moment. -/
theorem inner_nursery (r : Time) :
    inner forTwoMinutes (fun _ => forLkg) r (askedFor "Nursery") = [] := by
  refine List.eq_nil_iff_forall_not_mem.mpr fun t ht => ?_
  obtain ⟨u, hu, -, hlater, -⟩ := of_mem_inner ht
  have hrefused : ∀ u ∈ forLkg.rows, filteredLater ascii u (askedFor "Nursery") = false := by
    decide +kernel
  have hsame : filteredLater ascii (toCandidate defaultWindow r u) (askedFor "Nursery")
      = filteredLater ascii u (askedFor "Nursery") := rfl
  exact Bool.false_ne_true ((hrefused u hu).symm.trans (hsame.symm.trans hlater))

/-- The label of a class is not part of the key, so the answer for LKG is given for Nursery too. -/
theorem nursery_answered_with_lkg :
    Along (next forTwoMinutes fun _ => forLkg) OneClock started (inTurn "LKG" "Nursery") ∧
    ¬Along (next forTwoMinutes fun _ => forLkg) (Answered forTwoMinutes fun _ => forLkg) started
      (inTurn "LKG" "Nursery") := by
  refine ⟨oneClock_inTurn _ _, ?_⟩
  rintro ⟨-, hanswered, -⟩
  obtain ⟨r, -, -, heq, -⟩ := Transparent.recent hanswered
  rw [inner_nursery] at heq
  revert heq
  decide +kernel

theorem lkg_answered_twice :
    Along (next forTwoMinutes fun _ => forLkg) (Answered forTwoMinutes fun _ => forLkg) started
      (inTurn "LKG" "LKG") := by
  refine transparent_along forTwoMinutes (fun _ => forLkg) _ _ _ (oneClock_inTurn _ _)
    ⟨?_, ?_, trivial⟩
  · exact {
      freshness := by decide +kernel
      named := fun h => absurd h (by decide +kernel)
      keys := fun _ e he => (List.not_mem_nil he).elim
      copied := fun _ _ entry hfind => by cases hfind
      aged := fun _ pool hpool => by cases hpool }
  · exact {
      freshness := by decide +kernel
      named := fun h => absurd h (by decide +kernel)
      keys := by
        intro _ e he container' q' heq _ _ now
        rw [List.mem_singleton.mp he] at heq
        cases heq
        rfl
      copied := fun _ hnone => absurd hnone (by decide)
      aged := by
        intro _ pool hpool t ht
        have hall : ∀ t ∈ (((next forTwoMinutes (fun _ => forLkg) started
            ⟨0, .search 0 (askedFor "LKG")⟩).caches.get SECOND 0
              (forTwoMinutes.key (askedFor "LKG"))).1).getD [],
            recent defaultWindow SECOND t = true := by
          decide
        refine hall t ?_
        have hsome := congrArg (Option.getD · []) hpool
        dsimp only [Option.getD_some] at hsome
        rw [← hsome] at ht
        exact ht }

end NxTutors.Matching
