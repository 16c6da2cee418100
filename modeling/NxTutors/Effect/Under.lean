import NxTutors.Effect.Guarded

/-!
# Pools whose steps meet a condition

Some things hold of a pool only if nothing goes wrong on the way. `Pool.Under C A` are the pools
that can be reached by steps which all meet `C`, a condition on the pool before the step and after
it. Whatever holds of every pool that can be reached may be used on the way (`Under.inv`).

Programs that each keep one count below another keep it below all together
(`countP_le_of_own`).
-/

namespace Effect

variable {S : Sig} {ε α W τ : Type}

namespace Pool

variable {A : Arena S ε α W τ} {C : Pool S ε α W τ → Pool S ε α W τ → Prop}

/-- The pools that can come out of `p` by steps that meet `C`. -/
def Under (C : Pool S ε α W τ → Pool S ε α W τ → Prop) (A : Arena S ε α W τ) :
    Pool S ε α W τ → Pool S ε α W τ → Prop :=
  Relation.ReflTransGen fun p q => Step A p q ∧ C p q

/-- They can be reached. -/
theorem Under.reach {p q : Pool S ε α W τ} (h : Under C A p q) : Reach A p q := by
  induction h with
  | refl => exact .refl
  | tail _ hlast ih => exact ih.tail hlast.1

/-- **The rule of the module**: what steps that meet the condition keep, in pools that can be
reached, holds of every pool that comes out. -/
theorem Under.inv {J : Pool S ε α W τ → Prop} {p q : Pool S ε α W τ} (h : Under C A p q)
    (hp : J p) (hstep : ∀ a b, Reach A p a → J a → Step A a b → C a b → J b) : J q := by
  induction h with
  | refl => exact hp
  | tail hpre hlast ih => exact hstep _ _ (Under.reach hpre) ih hlast.1 hlast.2

/-- The only program that runs makes a call, as a script answers it. -/
theorem Under.traced_call [DecidableEq τ]
    {C : Pool S ε α (W × List (τ × Call S ε)) τ → Pool S ε α (W × List (τ × Call S ε)) τ → Prop}
    {f : (o : S.Op) → W → Except ε (S.Res o) × W} {t : τ} {o : S.Op}
    {k : Except ε (S.Res o) → Prog S ε α} {w : W} {log : List (τ × Call S ε)}
    {fin : List (τ × Except ε α)} {q : Pool S ε α (W × List (τ × Call S ε)) τ}
    (hf : ∀ o w, A.answers t o w (f o w).1 (f o w).2)
    (hC : C ⟨(w, log), [(t, .call o k)], fin⟩
      ⟨((f o w).2, log ++ [(t, ⟨o, (f o w).1⟩)]), [(t, k (f o w).1)], fin⟩)
    (hrest : Under C A.traced
      ⟨((f o w).2, log ++ [(t, ⟨o, (f o w).1⟩)]), [(t, k (f o w).1)], fin⟩ q) :
    Under C A.traced ⟨(w, log), [(t, .call o k)], fin⟩ q :=
  .head ⟨Step.call (l := []) (r := []) ⟨hf o w, rfl⟩, hC⟩ hrest

end Pool

/-! ## Counting by name -/

section Counting

variable [DecidableEq τ] {f g : Call S ε → Bool} {log : List (τ × Call S ε)}

/-- The calls of one name, and those of the others. -/
theorem countP_eq_own_add (f : Call S ε → Bool) (t : τ) (log : List (τ × Call S ε)) :
    log.countP (fun x => f x.2) =
      (own t log).countP f + (log.filter fun x => x.1 ≠ t).countP fun x => f x.2 := by
  induction log with
  | nil => rfl
  | cons x log ih =>
    by_cases ht : x.1 = t
    · have hown : own t (x :: log) = x.2 :: own t log := by simp [own, ht]
      have hother : (x :: log).filter (fun x => x.1 ≠ t) = log.filter fun x => x.1 ≠ t := by
        simp [ht]
      rw [hown, hother, List.countP_cons, List.countP_cons, ih]
      omega
    · have hown : own t (x :: log) = own t log := by simp [own, ht]
      have hother : (x :: log).filter (fun x => x.1 ≠ t) =
          x :: log.filter fun x => x.1 ≠ t := by
        simp [ht]
      rw [hown, hother, List.countP_cons, List.countP_cons, ih]
      omega

/-- The calls of another name are those among the rest. -/
theorem own_filter_of_ne {t t' : τ} (h : t' ≠ t) (log : List (τ × Call S ε)) :
    own t' (log.filter fun x => x.1 ≠ t) = own t' log := by
  rw [own, own, List.filter_filter]
  congr 1
  refine List.filter_congr fun x _ => ?_
  by_cases hx : x.1 = t'
  · simp [hx, h]
  · simp [hx]

theorem own_filter_self (t : τ) (log : List (τ × Call S ε)) :
    own t (log.filter fun x => x.1 ≠ t) = [] := by
  rw [own, List.filter_filter]
  have hnone : log.filter (fun x => decide (x.1 = t) && decide (x.1 ≠ t)) = [] :=
    List.filter_eq_nil_iff.mpr fun x _ => by simp
  rw [hnone, List.map_nil]

/-- **What each keeps**, all keep together: if no name has more calls in `f` than in `g`, there are
no more of them in the log. -/
theorem countP_le_of_own (h : ∀ t, (own t log).countP f ≤ (own t log).countP g) :
    log.countP (fun x => f x.2) ≤ log.countP fun x => g x.2 := by
  -- by the length of the log: the calls of its first name are taken out at once
  induction hn : log.length using Nat.strongRecOn generalizing log with
  | ind n ih =>
    cases log with
    | nil => exact Nat.le_refl 0
    | cons x rest =>
      have hshorter : ((x :: rest).filter fun y => y.1 ≠ x.1).length < n := by
        rw [← hn, List.filter_cons_of_neg (by simp)]
        exact Nat.lt_succ_of_le (List.length_filter_le _ _)
      have hothers : ∀ t, (own t ((x :: rest).filter fun y => y.1 ≠ x.1)).countP f ≤
          (own t ((x :: rest).filter fun y => y.1 ≠ x.1)).countP g := by
        intro t
        by_cases ht : t = x.1
        · rw [ht, own_filter_self]
          exact Nat.le_refl 0
        · rw [own_filter_of_ne ht]
          exact h t
      have hrest := ih _ hshorter hothers rfl
      rw [countP_eq_own_add f x.1, countP_eq_own_add g x.1]
      exact Nat.add_le_add (h x.1) hrest

end Counting

end Effect
