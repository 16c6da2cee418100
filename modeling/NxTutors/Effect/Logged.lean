import NxTutors.Effect.Pool

/-!
# Keeping a log of calls

How often a program made a call, and what it was answered, is not something a world can
tell. `Setting.logged` adds a log of our own calls to the world of a setting; others do not
touch it. Nothing else changes: every run is a run that keeps a log (`Run.logged`), and
dropping the log gives it back (`Run.unlogged`). In a pool the log also says who called
(`Arena.logged`), and every pool that can be reached can be reached with a log.
-/

namespace Effect

variable {S : Sig} {ε α W : Type}

/-- A call, and what it was answered. -/
abbrev Call (S : Sig) (ε : Type) : Type := Σ o : S.Op, Except ε (S.Res o)

/-- The same setting, with a log of our calls beside the world. -/
def Setting.logged (E : Setting S ε W) : Setting S ε (W × List (Call S ε)) where
  answers o a r b := E.answers o a.1 r b.1 ∧ b.2 = a.2 ++ [⟨o, r⟩]
  moves a b := E.moves a.1 b.1 ∧ b.2 = a.2

variable {E : Setting S ε W} {p : Prog S ε α} {out : Except ε α}

/-- Every run can be logged. -/
theorem Run.logged {w w' : W} (h : Run E p w out w') (log : List (Call S ε)) :
    ∃ calls, Run E.logged p (w, log) out (w', log ++ calls) := by
  induction h generalizing log with
  | @ret a w => exact ⟨[], by rw [List.append_nil]; exact .ret⟩
  | @throw e w => exact ⟨[], by rw [List.append_nil]; exact .throw⟩
  | @call o k w w₁ w₂ w' r out hm ha _ ih =>
    obtain ⟨calls, hrest⟩ := ih (log ++ [⟨o, r⟩])
    rw [List.append_assoc] at hrest
    have hmove : E.logged.moves (w, log) (w₁, log) := ⟨hm, rfl⟩
    have hans : E.logged.answers o (w₁, log) r (w₂, log ++ [⟨o, r⟩]) := ⟨ha, rfl⟩
    exact ⟨⟨o, r⟩ :: calls, .call hmove hans hrest⟩

/-- A logged run is a run. -/
theorem Run.unlogged {a b : W × List (Call S ε)} (h : Run E.logged p a out b) :
    Run E p a.1 out b.1 := by
  induction h with
  | ret => exact .ret
  | throw => exact .throw
  | call hm ha _ ih => exact .call hm.1 ha.1 ih

/-- A script that keeps the log. -/
def scribe (f : Nat → (o : S.Op) → W → Except ε (S.Res o) × W) (n : Nat) (o : S.Op)
    (a : W × List (Call S ε)) : Except ε (S.Res o) × (W × List (Call S ε)) :=
  let answer := f n o a.1
  (answer.1, answer.2, a.2 ++ [⟨o, answer.1⟩])

/-- A script whose answers are possible stays so when it keeps the log. -/
theorem scribe_possible {f : Nat → (o : S.Op) → W → Except ε (S.Res o) × W}
    (hf : ∀ n o w, ∃ w₁, E.moves w w₁ ∧ E.answers o w₁ (f n o w).1 (f n o w).2) (n : Nat)
    (o : S.Op) (a : W × List (Call S ε)) :
    ∃ a₁, E.logged.moves a a₁ ∧ E.logged.answers o a₁ (scribe f n o a).1 (scribe f n o a).2 := by
  obtain ⟨w₁, hm, ha⟩ := hf n o a.1
  exact ⟨(w₁, a.2), ⟨hm, rfl⟩, ha, rfl⟩

/-! ## Pools -/

variable {τ : Type}

/-- The same arena, with a log of who made which call. -/
def Arena.logged (A : Arena S ε α W τ) : Arena S ε α (W × List (τ × Call S ε)) τ where
  answers t o a r b := A.answers t o a.1 r b.1 ∧ b.2 = a.2 ++ [(t, ⟨o, r⟩)]
  enters t p a := A.enters t p a.1
  outside a b := A.outside a.1 b.1 ∧ b.2 = a.2

/-- Every pool that can be reached can be reached with a log. -/
theorem Pool.Reach.logged {A : Arena S ε α W τ} {w : W} {p : Pool S ε α W τ}
    (h : Reach A (start w) p) :
    ∃ log, Reach A.logged (start (w, [])) ⟨(p.world, log), p.running, p.finished⟩ := by
  induction h with
  | refl => exact ⟨[], .refl⟩
  | tail _ hstep ih =>
    obtain ⟨log, hreach⟩ := ih
    cases hstep with
    | @enter w run fin t q henter hfresh => exact ⟨log, hreach.tail (.enter henter hfresh)⟩
    | @call w w' l r fin t o k res hans =>
      have hans' : A.logged.answers t o (w, log) res (w', log ++ [(t, ⟨o, res⟩)]) := ⟨hans, rfl⟩
      exact ⟨_, hreach.tail (.call hans')⟩
    | @finish w l r fin t q out hend => exact ⟨log, hreach.tail (.finish hend)⟩
    | @crash w l r fin x => exact ⟨log, hreach.tail .crash⟩
    | @outside w w' run fin hout =>
      have hout' : A.logged.outside (w, log) (w', log) := ⟨hout, rfl⟩
      exact ⟨log, hreach.tail (.outside hout')⟩

end Effect
