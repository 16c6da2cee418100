import Mathlib.Algebra.Order.Group.Defs
import Mathlib.Data.List.Basic

/-!
# Entries that expire

A cache of a bounded size: entries by key, the one that was used last at the end, each with the
moment at which it expires. Reading moves an entry to the end, or drops it when it has expired;
writing puts one at the end and drops from the front what does not fit. Whatever is done, an entry
of a cache is one that has been written, with the value and the moment it was written with, so what
holds of every entry is shown of what is written (`mem_set`) and kept by everything else (`mem_get`,
`mem_clear`).
-/

namespace Store

variable {κ α T : Type}

/-- A value, and until when it is there. -/
structure Expiring (α T : Type) where
  value : α
  expiresAt : T
  deriving DecidableEq, Repr

/-- **A cache.** -/
structure Cache (κ α T : Type) where
  /-- the one that was used last comes last -/
  entries : List (κ × Expiring α T) := []
  capacity : Nat

namespace Cache

variable [DecidableEq κ] [LinearOrder T]

/-- The entry under a key, expired or not. -/
def find (c : Cache κ α T) (key : κ) : Option (Expiring α T) :=
  (c.entries.find? (·.1 = key)).map Prod.snd

/-- The entries under other keys. -/
def without (c : Cache κ α T) (key : κ) : List (κ × Expiring α T) :=
  c.entries.filter (·.1 ≠ key)

/-- Read. -/
def get (now : T) (key : κ) (c : Cache κ α T) : Option α × Cache κ α T :=
  match c.find key with
  | none => (none, c)
  | some entry =>
    if entry.expiresAt ≤ now then (none, { c with entries := c.without key })
    else (some entry.value, { c with entries := c.without key ++ [(key, entry)] })

/-- Write, for so long. -/
def set [Add T] [Zero T] (now : T) (key : κ) (value : α) (ttl : T) (c : Cache κ α T) :
    Cache κ α T :=
  if ttl ≤ 0 then c
  else
    let entries := c.without key ++ [(key, ⟨value, now + ttl⟩)]
    { c with entries := entries.drop (entries.length - c.capacity) }

omit [DecidableEq κ] [LinearOrder T] in
/-- Drop what has a key of a kind. -/
def clear (doomed : κ → Bool) (c : Cache κ α T) : Cache κ α T :=
  { c with entries := c.entries.filter fun x => !doomed x.1 }

variable {c : Cache κ α T} {now : T} {key : κ} {x : κ × Expiring α T}

omit [LinearOrder T] in
theorem mem_of_find {entry : Expiring α T} (h : c.find key = some entry) :
    (key, entry) ∈ c.entries := by
  obtain ⟨y, hy, rfl⟩ := Option.map_eq_some_iff.mp h
  have hkey : y.1 = key := by simpa using List.find?_some hy
  rw [← hkey]
  exact List.mem_of_find?_eq_some hy

omit [LinearOrder T] in
theorem mem_of_mem_without (h : x ∈ c.without key) : x ∈ c.entries := List.mem_of_mem_filter h

/-- **What is read** has been written and has not expired. -/
theorem of_get_eq_some {value : α} (h : (c.get now key).1 = some value) :
    ∃ entry, c.find key = some entry ∧ (key, entry) ∈ c.entries ∧ entry.value = value ∧
      now < entry.expiresAt := by
  unfold get at h
  split at h
  · cases h
  · rename_i entry hfind
    split at h
    · cases h
    · rename_i hlive
      exact ⟨entry, hfind, mem_of_find hfind, Option.some.inj h, not_le.mp hlive⟩

/-- Reading puts nothing in. -/
theorem mem_get (h : x ∈ (c.get now key).2.entries) : x ∈ c.entries := by
  unfold get at h
  split at h
  · exact h
  · rename_i entry hfind
    split at h
    · exact mem_of_mem_without h
    · rcases List.mem_append.mp h with h | h
      · exact mem_of_mem_without h
      · rw [List.mem_singleton.mp h]
        exact mem_of_find hfind

/-- **Writing puts in** what is written. -/
theorem mem_set [Add T] [Zero T] {value : α} {ttl : T}
    (h : x ∈ (c.set now key value ttl).entries) :
    x ∈ c.entries ∨ 0 < ttl ∧ x = (key, ⟨value, now + ttl⟩) := by
  unfold set at h
  split at h
  · exact .inl h
  · rename_i hpos
    rcases List.mem_append.mp (List.mem_of_mem_drop h) with h | h
    · exact .inl (mem_of_mem_without h)
    · exact .inr ⟨not_le.mp hpos, List.mem_singleton.mp h⟩

omit [DecidableEq κ] [LinearOrder T] in
theorem mem_clear {doomed : κ → Bool} :
    x ∈ (c.clear doomed).entries ↔ x ∈ c.entries ∧ doomed x.1 = false := by
  rw [clear, List.mem_filter, Bool.not_eq_true']

end Cache

end Store
