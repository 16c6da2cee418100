import Mathlib.Data.List.Pairwise
import Mathlib.Data.List.Sort

/-!
# The first of a ranking

A list is ranked by sorting it, and what comes first is taken. Where an element stands depends on
how many come strictly before it, so whether it is among the first `n` can be said without sorting
(`mem_take_ranked_iff`).

A query may cut a ranking off before it filters the rows. That finds too little exactly when too few
of the rows that are left pass (`take_filter_take_eq_iff`).
-/

namespace Store

variable {α : Type} {r : α → α → Prop} [DecidableRel r] {l : List α} {n : Nat} {x : α}

/-- Among the first of a sorted list are those with few elements strictly before them. Elements that
rank the same are taken to be the same. -/
theorem mem_take_of_pairwise_iff (hrefl : ∀ a, r a a)
    (hanti : ∀ a ∈ l, ∀ b ∈ l, r a b → r b a → a = b) (hsorted : l.Pairwise r) :
    x ∈ l.take n ↔ x ∈ l ∧ l.countP (fun y => ¬ r x y) < n := by
  induction l generalizing n with
  | nil => simp
  | cons y rest ih =>
    obtain ⟨hfirst, hrest⟩ := List.pairwise_cons.mp hsorted
    have hanti' : ∀ a ∈ rest, ∀ b ∈ rest, r a b → r b a → a = b := fun a ha b hb =>
      hanti a (List.mem_cons_of_mem _ ha) b (List.mem_cons_of_mem _ hb)
    cases n with
    | zero => simp
    | succ n =>
      rw [List.take_succ_cons, List.mem_cons, List.mem_cons, ih hanti' hrest]
      by_cases hxy : x = y
      · subst hxy
        have hnone : (x :: rest).countP (fun z => ¬ r x z) = 0 := by
          refine List.countP_eq_zero.mpr fun z hz => ?_
          rcases List.mem_cons.mp hz with rfl | hz
          · simpa using hrefl z
          · simpa using hfirst z hz
        rw [hnone]
        exact ⟨fun _ => ⟨.inl rfl, n.succ_pos⟩, fun _ => .inl rfl⟩
      · have hcount (hx : x ∈ rest) : (y :: rest).countP (fun z => ¬ r x z) =
            rest.countP (fun z => ¬ r x z) + 1 := by
          refine List.countP_cons_of_pos ?_
          have hnot : ¬ r x y := fun hle =>
            hxy (hanti x (List.mem_cons_of_mem _ hx) y List.mem_cons_self hle (hfirst x hx))
          simpa using hnot
        constructor
        · rintro (heq | ⟨hx, hlt⟩)
          · exact absurd heq hxy
          · exact ⟨.inr hx, by rw [hcount hx]; omega⟩
        · rintro ⟨heq | hx, hlt⟩
          · exact absurd heq hxy
          · rw [hcount hx] at hlt
            exact .inr ⟨hx, by omega⟩

/-- **Among the first `n` of a ranking** are the elements with fewer than `n` strictly before
them. -/
theorem mem_take_ranked_iff [Std.Total r] [IsTrans α r]
    (hanti : ∀ a ∈ l, ∀ b ∈ l, r a b → r b a → a = b) :
    x ∈ (l.insertionSort r).take n ↔ x ∈ l ∧ l.countP (fun y => ¬ r x y) < n := by
  have hperm := List.perm_insertionSort r l
  rw [mem_take_of_pairwise_iff (fun a => (Std.Total.total a a).elim id id)
    (fun a ha b hb => hanti a (hperm.mem_iff.mp ha) b (hperm.mem_iff.mp hb))
    (List.pairwise_insertionSort r l), hperm.mem_iff, hperm.countP_eq]

/-- **The first of a ranking** is the element that ranks before all. -/
theorem head?_ranked_eq_some_iff [Std.Total r] [IsTrans α r]
    (hanti : ∀ a ∈ l, ∀ b ∈ l, r a b → r b a → a = b) :
    (l.insertionSort r).head? = some x ↔ x ∈ l ∧ ∀ y ∈ l, r x y := by
  have hmem : ∀ y, y ∈ l.insertionSort r ↔ y ∈ l := fun y => List.mem_insertionSort r
  have hsorted := List.pairwise_insertionSort r l
  cases hl : l.insertionSort r with
  | nil =>
    rw [hl] at hmem
    exact ⟨nofun, fun h => absurd ((hmem x).mpr h.1) List.not_mem_nil⟩
  | cons first rest =>
    rw [hl] at hmem hsorted
    have hfirst : first ∈ l := (hmem first).mp List.mem_cons_self
    have hall : ∀ y ∈ l, r first y := by
      intro y hy
      rcases List.mem_cons.mp ((hmem y).mpr hy) with rfl | hrest
      · exact (Std.Total.total y y).elim id id
      · exact (List.pairwise_cons.mp hsorted).1 y hrest
    rw [List.head?_cons, Option.some_inj]
    constructor
    · rintro rfl
      exact ⟨hfirst, hall⟩
    · rintro ⟨hx, hbefore⟩
      exact hanti first hfirst x hx (hall x hx) (hbefore first hfirst)

/-! ## Sorting by two orders, and filtering what is sorted -/

section Orders

variable {s : α → α → Prop} [DecidableRel s] [Std.Total r] [IsTrans α r]

/-- A sorted list that holds the same elements is the sorted list. -/
theorem eq_insertionSort {l' : List α} (hanti : ∀ a ∈ l, ∀ b ∈ l, r a b → r b a → a = b)
    (hsorted : l'.Pairwise r) (hperm : l'.Perm l) : l' = l.insertionSort r :=
  (hperm.trans (List.perm_insertionSort r l).symm).eq_of_pairwise
    (fun a b ha hb => hanti a (hperm.mem_iff.mp ha) b ((List.perm_insertionSort r l).mem_iff.mp hb))
    hsorted (List.pairwise_insertionSort r l)

/-- Filtering a ranking ranks what is filtered. -/
theorem filter_insertionSort {p : α → Bool} (hanti : ∀ a ∈ l, ∀ b ∈ l, r a b → r b a → a = b) :
    (l.insertionSort r).filter p = (l.filter p).insertionSort r :=
  eq_insertionSort
    (fun a ha b hb => hanti a (List.mem_of_mem_filter ha) b (List.mem_of_mem_filter hb))
    ((List.pairwise_insertionSort r l).filter p) ((List.perm_insertionSort r l).filter p)

/-- **Two orders rank a list the same way** exactly if they agree on it. -/
theorem insertionSort_eq_iff [Std.Total s] [IsTrans α s]
    (hanti : ∀ a ∈ l, ∀ b ∈ l, r a b → r b a → a = b)
    (hanti' : ∀ a ∈ l, ∀ b ∈ l, s a b → s b a → a = b) :
    l.insertionSort r = l.insertionSort s ↔ ∀ a ∈ l, ∀ b ∈ l, r a b ↔ s a b := by
  constructor
  · intro heq
    -- one list is sorted by both, and of two of its elements one stands first
    have hboth : (l.insertionSort r).Pairwise fun a b => r a b ∧ s a b := by
      rw [List.pairwise_and_iff]
      refine ⟨List.pairwise_insertionSort r l, ?_⟩
      rw [heq]
      exact List.pairwise_insertionSort s l
    have hsymm : Std.Symm fun a b => (r a b ∧ s a b) ∨ (r b a ∧ s b a) := ⟨fun _ _ h => h.symm⟩
    have hrefl : ∀ a, r a a ∧ s a a := fun a =>
      ⟨(Std.Total.total a a).elim id id, (Std.Total.total a a).elim id id⟩
    have hone : ∀ a ∈ l, ∀ b ∈ l, (r a b ∧ s a b) ∨ (r b a ∧ s b a) := by
      intro a ha b hb
      have hor : (l.insertionSort r).Pairwise fun a b => (r a b ∧ s a b) ∨ (r b a ∧ s b a) :=
        hboth.imp fun h => .inl h
      exact hor.forall_of_forall (fun x _ => .inl (hrefl x)) ((List.mem_insertionSort r).mpr ha)
        ((List.mem_insertionSort r).mpr hb)
    intro a ha b hb
    by_cases hab : a = b
    · subst hab
      exact ⟨fun _ => (hrefl a).2, fun _ => (hrefl a).1⟩
    · rcases hone a ha b hb with ⟨hr, hs⟩ | ⟨hr, hs⟩
      · exact ⟨fun _ => hs, fun _ => hr⟩
      · exact ⟨fun h => absurd (hanti a ha b hb h hr) hab,
          fun h => absurd (hanti' a ha b hb h hs) hab⟩
  · intro hagree
    refine eq_insertionSort hanti' ?_ (List.perm_insertionSort r l)
    refine (List.pairwise_insertionSort r l).imp_of_mem fun {a b} ha hb h => ?_
    exact (hagree a ((List.mem_insertionSort r).mp ha) b ((List.mem_insertionSort r).mp hb)).mp h

end Orders

/-! ## Cutting off before filtering -/

section Cut

variable {p : α → Bool} {k : Nat}

/-- What passes among the first few is the first of what passes. -/
theorem filter_take (l : List α) (k : Nat) :
    (l.take k).filter p = (l.filter p).take ((l.take k).countP p) := by
  induction l generalizing k with
  | nil => simp
  | cons x rest ih =>
    cases k with
    | zero => simp
    | succ k =>
      rw [List.take_succ_cons]
      by_cases hx : p x = true
      · rw [List.filter_cons_of_pos hx, List.filter_cons_of_pos hx, List.countP_cons_of_pos hx,
          List.take_succ_cons, ih]
      · rw [List.filter_cons_of_neg hx, List.filter_cons_of_neg hx, List.countP_cons_of_neg hx, ih]

/-- **Cutting off first loses nothing** exactly if enough of the first `k` pass. -/
theorem take_filter_take_eq_iff :
    ((l.take k).filter p).take n = (l.filter p).take n ↔ min n (l.countP p) ≤ (l.take k).countP p := by
  have hlen : (l.filter p).length = l.countP p := List.countP_eq_length_filter.symm
  have hle : (l.take k).countP p ≤ l.countP p := (List.take_sublist k l).countP_le
  rw [filter_take, List.take_take]
  constructor
  · intro h
    have hcount := congrArg List.length h
    rw [List.length_take, List.length_take, hlen] at hcount
    omega
  · intro h
    rcases Nat.le_total n ((l.take k).countP p) with hn | hn
    · rw [Nat.min_eq_left hn]
    · rw [Nat.min_eq_right hn]
      rcases Nat.le_total n (l.countP p) with hn' | hn'
      · rw [Nat.le_antisymm hn (Nat.min_eq_left hn' ▸ h)]
      · rw [List.take_of_length_le (by omega), List.take_of_length_le (by omega)]

/-- What is left of a ranking that is cut off, filtered and cut off again. -/
theorem mem_take_filter_take_iff [Std.Total r] [IsTrans α r]
    (hanti : ∀ a ∈ l, ∀ b ∈ l, r a b → r b a → a = b) :
    x ∈ (((l.insertionSort r).take k).filter p).take n ↔
      (x ∈ l ∧ p x = true) ∧ l.countP (fun y => ¬ r x y) < k ∧
        (l.filter p).countP (fun y => ¬ r x y) < n := by
  have hfirst : x ∈ ((l.insertionSort r).take k).filter p ↔
      (x ∈ l ∧ l.countP (fun y => ¬ r x y) < k) ∧ p x = true := by
    rw [List.mem_filter, mem_take_ranked_iff hanti]
  have hanti' : ∀ a ∈ l.filter p, ∀ b ∈ l.filter p, r a b → r b a → a = b := fun a ha b hb =>
    hanti a (List.mem_of_mem_filter ha) b (List.mem_of_mem_filter hb)
  have hsecond : x ∈ ((l.insertionSort r).filter p).take n ↔
      (x ∈ l ∧ p x = true) ∧ (l.filter p).countP (fun y => ¬ r x y) < n := by
    rw [filter_insertionSort hanti, mem_take_ranked_iff hanti', List.mem_filter]
  have hpre : x ∈ (((l.insertionSort r).take k).filter p).take n ↔
      x ∈ ((l.insertionSort r).take k).filter p ∧ x ∈ ((l.insertionSort r).filter p).take n := by
    rw [filter_take, List.take_take]
    rcases Nat.le_total n (((l.insertionSort r).take k).countP p) with hn | hn
    · rw [Nat.min_eq_left hn]
      exact ⟨fun h => ⟨(List.take_sublist_take_left hn).mem h, h⟩, fun h => h.2⟩
    · rw [Nat.min_eq_right hn]
      exact ⟨fun h => ⟨h, (List.take_sublist_take_left hn).mem h⟩, fun h => h.1⟩
  rw [hpre, hfirst, hsecond]
  tauto

end Cut

end Store
