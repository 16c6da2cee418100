import NxTutors.Effect.Guarded

/-!
# Worlds that answer in one way

Where every call has one answer, a program is a function of the world it is started in, and how it
ends is computed from how its parts end. `Prog.eval` is that function; it is a run wherever the
answers are possible (`run_eval`).
The rules of the module are equations, for evaluating programs whose worlds are not known.
-/

namespace Effect

variable {S : Sig} {ε α β W : Type}

namespace Prog

variable {g : (o : S.Op) → W → Except ε (S.Res o) × W}

/-- Run a program where `g` answers every call. -/
def eval (g : (o : S.Op) → W → Except ε (S.Res o) × W) : Prog S ε α → W → Except ε α × W
  | .ret a, w => (.ok a, w)
  | .throw e, w => (.error e, w)
  | .call o k, w => (k (g o w).1).eval g (g o w).2

@[simp] theorem eval_ret (a : α) (w : W) : (Prog.ret a : Prog S ε α).eval g w = (.ok a, w) := rfl

@[simp] theorem eval_throw (e : ε) (w : W) :
    (Prog.throw e : Prog S ε α).eval g w = (.error e, w) := rfl

@[simp] theorem eval_call (o : S.Op) (k : Except ε (S.Res o) → Prog S ε α) (w : W) :
    (Prog.call o k).eval g w = (k (g o w).1).eval g (g o w).2 := rfl

/-- A single call ends with its answer. -/
@[simp] theorem eval_perform (o : S.Op) (w : W) : (perform o).eval g w = g o w := by
  rw [perform, eval_call]
  rcases h : g o w with ⟨r | r, w'⟩ <;> rfl

theorem eval_bind (p : Prog S ε α) (f : α → Prog S ε β) (w : W) :
    (p >>= f).eval g w =
      match p.eval g w with
      | (.ok a, w') => (f a).eval g w'
      | (.error e, w') => (.error e, w') := by
  induction p generalizing w with
  | ret a => rfl
  | throw e => rfl
  | call o k ih => exact ih (g o w).1 (g o w).2

/-- Only the answers matter to calls that are made. -/
theorem Within.eval_congr {g' : (o : S.Op) → W → Except ε (S.Res o) × W} {C : S.Op → Prop}
    {R : α → Prop} {p : Prog S ε α} (hp : p.Within C (fun _ => True) R)
    (h : ∀ o w, C o → g o w = g' o w) (w : W) : p.eval g w = p.eval g' w := by
  induction p generalizing w with
  | ret a => rfl
  | throw e => rfl
  | call o k ih =>
    rw [eval_call, eval_call, h o w hp.1]
    exact ih _ (hp.2 _ fun _ _ => trivial) _

/-- Calls that leave something of the world as it is leave it so together. -/
theorem Within.eval_same {X : Type} {C : S.Op → Prop} {R : α → Prop} {p : Prog S ε α} (of : W → X)
    (hp : p.Within C (fun _ => True) R) (h : ∀ o w, C o → of (g o w).2 = of w) (w : W) :
    of (p.eval g w).2 = of w := by
  induction p generalizing w with
  | ret a => rfl
  | throw e => rfl
  | call o k ih =>
    rw [eval_call, ih _ (hp.2 _ fun _ _ => trivial), h o w hp.1]

/-- What is returned is what may be. -/
theorem Within.of_eval_ok {C : S.Op → Prop} {R : α → Prop} {p : Prog S ε α}
    (hp : p.Within C (fun _ => True) R) {w : W} {a : α} (h : (p.eval g w).1 = .ok a) : R a := by
  induction p generalizing w with
  | ret b =>
    cases h
    exact hp
  | throw e => cases h
  | call o k ih => exact ih _ (hp.2 _ fun _ _ => trivial) h

/-- Go on from where the first part returned. -/
theorem eval_bind_ok {p : Prog S ε α} {f : α → Prog S ε β} {w w' : W} {a : α}
    (h : p.eval g w = (.ok a, w')) : (p >>= f).eval g w = (f a).eval g w' := by
  rw [eval_bind, h]

/-- What the first part raises ends the whole. -/
theorem eval_bind_error {p : Prog S ε α} {f : α → Prog S ε β} {w w' : W} {e : ε}
    (h : p.eval g w = (.error e, w')) : (p >>= f).eval g w = (.error e, w') := by
  rw [eval_bind, h]

/-- A body that returns is not handled. -/
theorem eval_tryCatch_ok {p : Prog S ε α} {f : ε → Prog S ε α} {w w' : W} {a : α}
    (h : p.eval g w = (.ok a, w')) : (p.tryCatch f).eval g w = (.ok a, w') := by
  induction p generalizing w with
  | ret b => exact h
  | throw e => cases h
  | call o k ih => exact ih (g o w).1 h

/-- A body that raises is. -/
theorem eval_tryCatch_error {p : Prog S ε α} {f : ε → Prog S ε α} {w w' : W} {e : ε}
    (h : p.eval g w = (.error e, w')) : (p.tryCatch f).eval g w = (f e).eval g w' := by
  induction p generalizing w with
  | ret b => cases h
  | throw e' =>
    cases h
    rfl
  | call o k ih => exact ih (g o w).1 h

/-- **A body that is handled by something that raises**: what is returned is returned by the body.
-/
theorem of_eval_tryCatch {p : Prog S ε α} {f : ε → Prog S ε α}
    (hraises : ∀ e w a, ((f e).eval g w).1 ≠ .ok a) {w : W} {a : α}
    (h : ((p.tryCatch f).eval g w).1 = .ok a) : (p.eval g w).1 = .ok a := by
  rcases hbody : p.eval g w with ⟨r | r, w'⟩
  · rw [eval_tryCatch_error hbody] at h
    exact absurd h (hraises r w' a)
  · rwa [eval_tryCatch_ok hbody] at h

end Prog

variable {E : Setting S ε W} {g : (o : S.Op) → W → Except ε (S.Res o) × W}

/-- Where the answers are possible, evaluating is running. -/
theorem run_eval (hg : ∀ o w, ∃ w₁, E.moves w w₁ ∧ E.answers o w₁ (g o w).1 (g o w).2)
    (p : Prog S ε α) (w : W) : Run E p w (p.eval g w).1 (p.eval g w).2 := by
  induction p generalizing w with
  | ret a => exact .ret
  | throw e => exact .throw
  | call o k ih =>
    obtain ⟨w₁, hm, ha⟩ := hg o w
    exact .call hm ha (ih (g o w).1 (g o w).2)

/-- The same answers, with a log of the calls. -/
def noting (g : (o : S.Op) → W → Except ε (S.Res o) × W) (o : S.Op) (a : W × History S ε) :
    Except ε (S.Res o) × (W × History S ε) :=
  ((g o a.1).1, (g o a.1).2, a.2 ++ [⟨o, (g o a.1).1⟩])

/-- The log changes nothing. -/
theorem eval_noting (p : Prog S ε α) (a : W × History S ε) :
    (p.eval (noting g) a).1 = (p.eval g a.1).1 ∧ (p.eval (noting g) a).2.1 = (p.eval g a.1).2 := by
  induction p generalizing a with
  | ret b => exact ⟨rfl, rfl⟩
  | throw e => exact ⟨rfl, rfl⟩
  | call o k ih => exact ih (g o a.1).1 (noting g o a).2

theorem run_noting (hg : ∀ o w, ∃ w₁, E.moves w w₁ ∧ E.answers o w₁ (g o w).1 (g o w).2)
    (p : Prog S ε α) (a : W × History S ε) :
    Run E.logged p a (p.eval (noting g) a).1 (p.eval (noting g) a).2 := by
  refine run_eval (fun o b => ?_) p a
  obtain ⟨w₁, hm, ha⟩ := hg o b.1
  exact ⟨(w₁, b.2), ⟨hm, rfl⟩, ha, rfl⟩

/-! ## In a pool -/

/-- The first `n` calls of a program: what is left of it, and what they leave behind. -/
def Prog.advance (g : (o : S.Op) → W → Except ε (S.Res o) × W) :
    Nat → Prog S ε α → W → Prog S ε α × W
  | n + 1, .call o k, w => Prog.advance g n (k (g o w).1) (g o w).2
  | _, p, w => (p, w)

namespace Pool

variable {τ : Type} [DecidableEq τ] {A : Arena S ε α W τ} {t : τ}
  {g : (o : S.Op) → W → Except ε (S.Res o) × W}

theorem traced_answers (hg : ∀ o w, A.answers t o w (g o w).1 (g o w).2)
    (log : List (τ × Call S ε)) {o : S.Op} {w : W} :
    A.traced.answers t o (w, log) (g o w).1 ((g o w).2, log ++ [(t, ⟨o, (g o w).1⟩)]) :=
  ⟨hg o w, rfl⟩

/-- A program of a pool goes on for some calls. -/
theorem Reach.traced_advance (hg : ∀ o w, A.answers t o w (g o w).1 (g o w).2) (n : Nat)
    (p : Prog S ε α) (w : W) (log : List (τ × Call S ε)) (l r : List (τ × Prog S ε α))
    (fin : List (τ × Except ε α)) :
    ∃ calls : History S ε, Reach A.traced ⟨(w, log), l ++ (t, p) :: r, fin⟩
      ⟨((p.advance g n w).2, log ++ calls.map fun c => (t, c)),
        l ++ (t, (p.advance g n w).1) :: r, fin⟩ := by
  induction n generalizing p w log with
  | zero => exact ⟨[], by cases p <;> exact (List.append_nil log).symm ▸ .refl⟩
  | succ n ih =>
    cases p with
    | call o k =>
      obtain ⟨calls, hrest⟩ := ih (k (g o w).1) (g o w).2 (log ++ [(t, ⟨o, (g o w).1⟩)])
      refine ⟨⟨o, (g o w).1⟩ :: calls, .head (.call (traced_answers hg log)) ?_⟩
      rw [List.append_assoc] at hrest
      exact hrest
    | ret a => exact ⟨[], (List.append_nil log).symm ▸ .refl⟩
    | throw e => exact ⟨[], (List.append_nil log).symm ▸ .refl⟩

/-- A program of a pool goes on to its end. -/
theorem Reach.traced_eval (hg : ∀ o w, A.answers t o w (g o w).1 (g o w).2) {p : Prog S ε α}
    {w w' : W} {out : Except ε α} (heval : p.eval g w = (out, w')) (log : List (τ × Call S ε))
    (l r : List (τ × Prog S ε α)) (fin : List (τ × Except ε α)) :
    ∃ calls : History S ε, Reach A.traced ⟨(w, log), l ++ (t, p) :: r, fin⟩
      ⟨(w', log ++ calls.map fun c => (t, c)), l ++ r, fin ++ [(t, out)]⟩ := by
  induction p generalizing w log with
  | ret a =>
    cases heval
    exact ⟨[], .single (by simpa using Step.finish rfl)⟩
  | throw e =>
    cases heval
    exact ⟨[], .single (by simpa using Step.finish rfl)⟩
  | call o k ih =>
    obtain ⟨calls, hrest⟩ := ih (g o w).1 heval (log ++ [(t, ⟨o, (g o w).1⟩)])
    refine ⟨⟨o, (g o w).1⟩ :: calls, .head (.call (traced_answers hg log)) ?_⟩
    rw [List.append_assoc] at hrest
    exact hrest

end Pool

end Effect
