import Mathlib.Algebra.Order.Group.Basic
import Mathlib.Data.List.Count

/-!
# So many in every window

Some rows of a table count, and each has a time. They are *spaced* when every window of a length,
wherever it begins, holds at most so many of them. Rows that are spaced stay so when some are taken
out, and when one is put in that does not count. They stay so when one is put in that counts, if
fewer count from as far back as a window is long: a window that holds the new row holds none that is
older than that.
-/

namespace Store

section Windows

variable {α T : Type} [AddCommGroup T] [LinearOrder T]

/-- How many of the rows that count lie in the window of a length that begins at a time. -/
def inWindow (p : α → Bool) (time : α → T) (length start : T) (l : List α) : Nat :=
  l.countP fun x => p x && (decide (start ≤ time x) && decide (time x ≤ start + length))

/-- How many count from a time on. -/
def countFrom (p : α → Bool) (time : α → T) (start : T) (l : List α) : Nat :=
  l.countP fun x => p x && decide (start ≤ time x)

/-- **At most `n` in every window.** -/
def Spaced (p : α → Bool) (time : α → T) (length : T) (n : Nat) (l : List α) : Prop :=
  ∀ start, inWindow p time length start l ≤ n

variable {p : α → Bool} {time : α → T} {length : T} {n : Nat} {l l' : List α}

theorem spaced_nil : Spaced p time length n [] := fun _ => Nat.zero_le n

theorem Spaced.sublist (h : Spaced p time length n l) (hl : l'.Sublist l) :
    Spaced p time length n l' := fun start => (hl.countP_le).trans (h start)

theorem Spaced.perm (h : Spaced p time length n l) (hl : l'.Perm l) :
    Spaced p time length n l' := by
  intro start
  rw [inWindow, hl.countP_eq]
  exact h start

/-- What is in a window is counted from its beginning on. -/
theorem inWindow_le_countFrom (start : T) :
    inWindow p time length start l ≤ countFrom p time start l := by
  refine List.countP_mono_left fun x _ hx => ?_
  rw [Bool.and_eq_true, Bool.and_eq_true] at hx
  rw [Bool.and_eq_true]
  exact ⟨hx.1, hx.2.1⟩

omit [AddCommGroup T] in
/-- From an earlier time on there are more. -/
theorem countFrom_mono {start start' : T} (h : start' ≤ start) :
    countFrom p time start l ≤ countFrom p time start' l := by
  refine List.countP_mono_left fun x _ hx => ?_
  rw [Bool.and_eq_true, decide_eq_true_eq] at hx ⊢
  exact ⟨hx.1, h.trans hx.2⟩

/-- A row that does not count changes nothing. -/
theorem Spaced.cons_of_not {x : α} (h : Spaced p time length n l) (hx : p x = false) :
    Spaced p time length n (x :: l) := by
  intro start
  rw [inWindow, List.countP_cons_of_neg (by simp [hx])]
  exact h start

/-- **A row that counts is put in**, if too few others do. -/
theorem Spaced.cons [IsOrderedAddMonoid T] {x : α} (h : Spaced p time length n l)
    (hfew : countFrom p time (time x - length) l < n) : Spaced p time length n (x :: l) := by
  intro start
  rw [inWindow, List.countP_cons]
  split
  · rename_i hx
    rw [Bool.and_eq_true, Bool.and_eq_true, decide_eq_true_eq, decide_eq_true_eq] at hx
    have hback : time x - length ≤ start := sub_le_iff_le_add.mpr hx.2.2
    have hcount : inWindow p time length start l ≤ countFrom p time (time x - length) l :=
      (inWindow_le_countFrom start).trans (countFrom_mono hback)
    exact Nat.lt_of_le_of_lt hcount hfew
  · exact h start

end Windows

end Store
