import Mathlib.Order.Nat

/-!
# What happens in the end

Something that happens again and again, and makes a number smaller each time until a goal is
reached, leads to the goal.
-/

namespace Store

/-- It happens again and again. -/
def Recurs (p : Nat → Prop) : Prop := ∀ n, ∃ m, n ≤ m ∧ p m

theorem Recurs.mono {p q : Nat → Prop} (h : Recurs p) (hpq : ∀ n, p n → q n) : Recurs q := fun n =>
  let ⟨m, hnm, hm⟩ := h n
  ⟨m, hnm, hpq m hm⟩

/-- From some moment on it happens again and again all the same. -/
theorem Recurs.shift {p : Nat → Prop} (h : Recurs p) (k : Nat) : Recurs fun n => p (n + k) := by
  intro n
  obtain ⟨m, hnm, hm⟩ := h (n + k)
  have hback : m - k + k = m := Nat.sub_add_cancel (by omega)
  refine ⟨m - k, by omega, ?_⟩
  show p (m - k + k)
  rw [hback]
  exact hm

/-- **What makes a number smaller again and again leads to its goal.** -/
theorem Recurs.reaches {act goal : Nat → Prop} {measure : Nat → Nat} (hact : Recurs act)
    (hle : ∀ n, ¬ goal n → measure (n + 1) ≤ measure n)
    (hlt : ∀ n, act n → ¬ goal n → measure (n + 1) < measure n) :
    ∀ start, ∃ n, start ≤ n ∧ goal n := by
  suffices h : ∀ k start, measure start ≤ k → ∃ n, start ≤ n ∧ goal n from
    fun start => h (measure start) start (Nat.le_refl _)
  intro k
  induction k using Nat.strongRecOn with
  | _ k ih =>
    intro start hstart
    obtain ⟨m, hm, hactm⟩ := hact start
    by_contra hnever
    have hnot : ∀ n, start ≤ n → ¬ goal n := fun n hn hgoal => hnever ⟨n, hn, hgoal⟩
    -- until it happens, the number does not grow
    have hbefore : ∀ d, measure (start + d) ≤ measure start := by
      intro d
      induction d with
      | zero => exact Nat.le_refl _
      | succ d ihd => exact Nat.le_trans (hle _ (hnot _ (Nat.le_add_right _ _))) ihd
    have hm' : measure m ≤ measure start := by
      have := hbefore (m - start)
      rwa [Nat.add_sub_cancel' hm] at this
    have hless : measure (m + 1) < k :=
      Nat.lt_of_lt_of_le (hlt m hactm (hnot m hm)) (Nat.le_trans hm' hstart)
    obtain ⟨n, hn, hgoal⟩ := ih (measure (m + 1)) hless (m + 1) (Nat.le_refl _)
    exact hnot n (by omega) hgoal

/-- A number that never grows stays the same from some moment on. -/
theorem eventually_const {f : Nat → Nat} (h : ∀ n, f (n + 1) ≤ f n) :
    ∃ last, ∀ n, last ≤ n → f n = f last := by
  have hex : ∃ v n, f n = v := ⟨f 0, 0, rfl⟩
  classical
  obtain ⟨last, hlast⟩ := Nat.find_spec hex
  refine ⟨last, fun n hn => Nat.le_antisymm ?_ ?_⟩
  · obtain ⟨d, rfl⟩ := Nat.exists_eq_add_of_le hn
    clear hn
    induction d with
    | zero => exact Nat.le_refl _
    | succ d ih => exact Nat.le_trans (h _) ih
  · rw [hlast]
    exact Nat.find_min' hex ⟨n, rfl⟩

/-- What comes to hold of each in a list, and goes on to, comes to hold of all. -/
theorem eventually_all {α : Type} {p : Nat → α → Prop} (hkeeps : ∀ n x, p n x → p (n + 1) x) :
    ∀ {xs : List α}, (∀ x ∈ xs, ∃ n, p n x) → ∃ n, ∀ x ∈ xs, p n x := by
  have hlater (n d : Nat) (x : α) (h : p n x) : p (n + d) x := by
    induction d with
    | zero => exact h
    | succ d ih => exact hkeeps _ _ ih
  intro xs
  induction xs with
  | nil => exact fun _ => ⟨0, fun _ h => absurd h List.not_mem_nil⟩
  | cons x xs ih =>
    intro h
    obtain ⟨hx, hxs⟩ := List.forall_mem_cons.mp h
    obtain ⟨n, hn⟩ := hx
    obtain ⟨m, hm⟩ := ih hxs
    refine ⟨n + m, List.forall_mem_cons.mpr ⟨hlater n m x hn, fun y hy => ?_⟩⟩
    rw [Nat.add_comm]
    exact hlater m n y (hm y hy)

end Store
