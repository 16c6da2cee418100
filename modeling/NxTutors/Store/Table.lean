import Mathlib.Data.List.Nodup
import Mathlib.Data.Option.Basic

/-!
# Tables

A table holds rows, no two with the same key, in the order in which their keys were first put
there. That is a dictionary that keeps the order of insertion, and it is a relation with a
primary key. Both are read by key or row by row, and written in one of two ways: a row is put
under its key, over the one that was there, or every row is changed and keeps its key.
-/

namespace Store

/-- **A table**: rows, no two of them with the same key. -/
structure Table {α κ : Type} (key : α → κ) where
  /-- the rows, oldest key first -/
  rows : List α
  /-- keys are unique -/
  nodup : (rows.map key).Nodup

namespace Table

variable {α κ : Type} {key : α → κ}

/-- The table with no rows. -/
def empty : Table key := ⟨[], List.nodup_nil⟩

@[simp] theorem rows_empty : (empty : Table key).rows = [] := rfl

/-- Two rows with one key are one row. -/
theorem eq_of_key (t : Table key) {x y : α} (hx : x ∈ t.rows) (hy : y ∈ t.rows)
    (h : key x = key y) : x = y :=
  List.inj_on_of_nodup_map t.nodup hx hy h

/-! ## Changing every row -/

/-- Every row is changed, and keeps its key. -/
def map (t : Table key) (f : α → α) (hf : ∀ x, key (f x) = key x) : Table key where
  rows := t.rows.map f
  nodup := by
    have hkeys : (t.rows.map f).map key = t.rows.map key := by
      rw [List.map_map]
      exact List.map_congr_left fun x _ => hf x
    rw [hkeys]
    exact t.nodup

@[simp] theorem rows_map (t : Table key) (f : α → α) (hf : ∀ x, key (f x) = key x) :
    (t.map f hf).rows = t.rows.map f := rfl

theorem mem_map {t : Table key} {f : α → α} {hf : ∀ x, key (f x) = key x} {y : α} :
    y ∈ (t.map f hf).rows ↔ ∃ x ∈ t.rows, f x = y := List.mem_map

variable [DecidableEq κ]

/-! ## Reading -/

/-- The row under a key. -/
def find (t : Table key) (k : κ) : Option α := t.rows.find? fun x => key x = k

theorem find_eq_some_iff {t : Table key} {k : κ} {x : α} :
    t.find k = some x ↔ x ∈ t.rows ∧ key x = k := by
  constructor
  · intro h
    exact ⟨List.mem_of_find?_eq_some h, by simpa using List.find?_some h⟩
  · rintro ⟨hx, rfl⟩
    cases hfind : t.find (key x) with
    | none => exact absurd (List.find?_eq_none.mp hfind x hx) (by simp)
    | some y =>
      have hy : key y = key x := by simpa using List.find?_some hfind
      rw [t.eq_of_key (List.mem_of_find?_eq_some hfind) hx hy]

theorem find_eq_none_iff {t : Table key} {k : κ} :
    t.find k = none ↔ ∀ x ∈ t.rows, key x ≠ k := by
  simp [find]

/-! ## Putting a row -/

/-- The rows with `x` put under its key: over the row that was there, or at the end. -/
def upsert (key : α → κ) (x : α) : List α → List α
  | [] => [x]
  | y :: ys => if key y = key x then x :: ys else y :: upsert key x ys

/-- A row put under a new key goes to the end. -/
theorem upsert_of_new {x : α} {l : List α} (h : ∀ y ∈ l, key y ≠ key x) :
    upsert key x l = l ++ [x] := by
  induction l with
  | nil => rfl
  | cons y ys ih =>
    rw [upsert, if_neg (h y List.mem_cons_self),
      ih fun z hz => h z (List.mem_cons_of_mem _ hz), List.cons_append]

/-- A row put under a key that is there changes the row of that key. -/
theorem upsert_of_mem {x y : α} {l : List α} (hnodup : (l.map key).Nodup) (hy : y ∈ l)
    (h : key y = key x) :
    upsert key x l = l.map fun z => if key z = key x then x else z := by
  induction l with
  | nil => cases hy
  | cons z zs ih =>
    rw [List.map_cons, List.nodup_cons] at hnodup
    rw [upsert, List.map_cons]
    by_cases hz : key z = key x
    · have hrest : ∀ u ∈ zs, key u ≠ key x := fun u hu hux =>
        hnodup.1 (hz.trans hux.symm ▸ List.mem_map_of_mem hu)
      rw [if_pos hz, if_pos hz]
      exact congrArg _ ((List.map_congr_left fun u hu => if_neg (hrest u hu)).trans
        (List.map_id' zs)).symm
    · have hmem : y ∈ zs := (List.mem_cons.mp hy).resolve_left fun hyz => hz (hyz ▸ h)
      rw [if_neg hz, if_neg hz, ih hnodup.2 hmem]

theorem mem_upsert {x z : α} {l : List α} (hnodup : (l.map key).Nodup) :
    z ∈ upsert key x l ↔ z = x ∨ z ∈ l ∧ key z ≠ key x := by
  by_cases hkey : ∃ y ∈ l, key y = key x
  · obtain ⟨y, hy, hyx⟩ := hkey
    rw [upsert_of_mem hnodup hy hyx, List.mem_map]
    constructor
    · rintro ⟨u, hu, rfl⟩
      split
      · exact .inl rfl
      · rename_i hne
        exact .inr ⟨hu, hne⟩
    · rintro (rfl | ⟨hz, hne⟩)
      · exact ⟨y, hy, if_pos hyx⟩
      · exact ⟨z, hz, if_neg hne⟩
  · have hnew : ∀ y ∈ l, key y ≠ key x := fun y hy hyx => hkey ⟨y, hy, hyx⟩
    rw [upsert_of_new hnew, List.mem_append, List.mem_singleton]
    constructor
    · rintro (hz | rfl)
      · exact .inr ⟨hz, hnew z hz⟩
      · exact .inl rfl
    · rintro (rfl | ⟨hz, _⟩)
      · exact .inr rfl
      · exact .inl hz

theorem nodup_upsert (x : α) {l : List α} (hnodup : (l.map key).Nodup) :
    ((upsert key x l).map key).Nodup := by
  induction l with
  | nil => exact List.nodup_singleton _
  | cons y ys ih =>
    rw [List.map_cons, List.nodup_cons] at hnodup
    rw [upsert]
    split
    · rename_i hyx
      rw [List.map_cons, List.nodup_cons, ← hyx]
      exact hnodup
    · rename_i hyx
      rw [List.map_cons, List.nodup_cons]
      refine ⟨fun hmem => ?_, ih hnodup.2⟩
      obtain ⟨z, hz, hzy⟩ := List.mem_map.mp hmem
      rcases (mem_upsert hnodup.2).mp hz with rfl | ⟨hz, _⟩
      · exact hyx hzy.symm
      · exact hnodup.1 (hzy ▸ List.mem_map_of_mem hz)

/-- The rows are the one that was put, and those with other keys. -/
theorem upsert_perm (x : α) {l : List α} (hnodup : (l.map key).Nodup) :
    (upsert key x l).Perm (x :: l.filter fun y => key y ≠ key x) := by
  induction l with
  | nil => exact .refl _
  | cons y ys ih =>
    rw [List.map_cons, List.nodup_cons] at hnodup
    rw [upsert]
    split
    · rename_i hyx
      have hrest : ∀ z ∈ ys, decide (key z ≠ key x) = true := by
        intro z hz
        rw [decide_eq_true_eq]
        exact fun hzx => hnodup.1 (hyx.trans hzx.symm ▸ List.mem_map_of_mem hz)
      rw [List.filter_cons_of_neg (by simp [hyx]), List.filter_eq_self.mpr hrest]
    · rename_i hyx
      rw [List.filter_cons_of_pos (by simp [hyx])]
      exact ((ih hnodup.2).cons y).trans (.swap x y _)

/-- `x` is put under its key. -/
def put (t : Table key) (x : α) : Table key where
  rows := upsert key x t.rows
  nodup := nodup_upsert x t.nodup

theorem mem_put {t : Table key} {x z : α} :
    z ∈ (t.put x).rows ↔ z = x ∨ z ∈ t.rows ∧ key z ≠ key x :=
  mem_upsert t.nodup

/-- A row is read back under its key, and the others as before. -/
theorem find_put (t : Table key) (x : α) (k : κ) :
    (t.put x).find k = if key x = k then some x else t.find k := by
  split
  · rename_i hk
    exact find_eq_some_iff.mpr ⟨mem_put.mpr (.inl rfl), hk⟩
  · rename_i hk
    cases hfind : t.find k with
    | none =>
      refine find_eq_none_iff.mpr fun y hy => ?_
      rcases mem_put.mp hy with rfl | ⟨hy, _⟩
      · exact hk
      · exact find_eq_none_iff.mp hfind y hy
    | some y =>
      obtain ⟨hy, rfl⟩ := find_eq_some_iff.mp hfind
      exact find_eq_some_iff.mpr ⟨mem_put.mpr (.inr ⟨hy, Ne.symm hk⟩), rfl⟩

theorem put_perm (t : Table key) (x : α) :
    (t.put x).rows.Perm (x :: t.rows.filter fun y => key y ≠ key x) := upsert_perm x t.nodup

theorem rows_put_of_new {t : Table key} {x : α} (h : ∀ y ∈ t.rows, key y ≠ key x) :
    (t.put x).rows = t.rows ++ [x] := upsert_of_new h

theorem rows_put_of_mem {t : Table key} {x y : α} (hy : y ∈ t.rows) (h : key y = key x) :
    (t.put x).rows = t.rows.map fun z => if key z = key x then x else z :=
  upsert_of_mem t.nodup hy h

/-! ## Taking a row out -/

/-- The row under a key is taken out, if there is one. -/
def erase (t : Table key) (k : κ) : Table key where
  rows := t.rows.filter fun x => key x ≠ k
  nodup := (List.filter_sublist.map key).nodup t.nodup

theorem rows_erase (t : Table key) (k : κ) :
    (t.erase k).rows = t.rows.filter fun x => key x ≠ k := rfl

theorem mem_erase {t : Table key} {k : κ} {x : α} :
    x ∈ (t.erase k).rows ↔ x ∈ t.rows ∧ key x ≠ k := by
  rw [rows_erase, List.mem_filter, decide_eq_true_eq]

end Table

end Store

/-!
## Conditions on nullable columns

A comparison with a missing value is neither true nor false, and a query keeps the rows for which
its condition is true. A disjunction is true when one of its parts is, whatever the other is, and a
conjunction when both are, so what a query keeps can be said part by part (`holds_or`, `holds_and`).
-/

namespace Store

/-- True, false, or `NULL`. -/
abbrev Truth := Option Bool

namespace Truth

/-- `a OR b`. -/
def or : Truth → Truth → Truth
  | some true, _ => some true
  | _, some true => some true
  | some false, some false => some false
  | _, _ => none

/-- `a AND b`. -/
def and : Truth → Truth → Truth
  | some false, _ => some false
  | _, some false => some false
  | some true, some true => some true
  | _, _ => none

/-- A row with this condition is kept. -/
def holds (a : Truth) : Bool := a = some true

/-- All conditions of a query. -/
def all (conditions : List Truth) : Truth := conditions.foldr and (some true)

/-- One of several conditions. -/
def any (conditions : List Truth) : Truth := conditions.foldr or (some false)

theorem holds_or (a b : Truth) : (or a b).holds = (a.holds || b.holds) := by
  rcases a with - | - | - <;> rcases b with - | - | - <;> rfl

theorem holds_and (a b : Truth) : (and a b).holds = (a.holds && b.holds) := by
  rcases a with - | - | - <;> rcases b with - | - | - <;> rfl

/-- **A row is kept** when every condition is true of it. -/
theorem holds_all (conditions : List Truth) :
    (all conditions).holds = conditions.all Truth.holds := by
  induction conditions with
  | nil => rfl
  | cons a as ih =>
    rw [List.all_cons, ← ih]
    exact holds_and a (all as)

theorem holds_any (conditions : List Truth) :
    (any conditions).holds = conditions.any Truth.holds := by
  induction conditions with
  | nil => rfl
  | cons a as ih =>
    rw [List.any_cons, ← ih]
    exact holds_or a (any as)

end Truth

variable {α : Type}

/-- A comparison of a column with a value. -/
def compared (column : Option α) (test : α → Bool) : Truth := column.map test

theorem holds_compared (column : Option α) (test : α → Bool) :
    (compared column test).holds = column.any test := by
  cases column with
  | none => rfl
  | some value => cases h : test value <;> simp [compared, Truth.holds, h]

/-- `column IS NULL`. -/
def isNull (column : Option α) : Truth := some column.isNone

theorem holds_isNull (column : Option α) : (isNull column).holds = column.isNone := by
  cases column <;> rfl

end Store
