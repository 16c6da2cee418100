import Mathlib.Logic.Relation
import NxTutors.Effect.Program

/-!
# Runs and contracts

A `Setting` says what the calls of an interface do in a world `W`: which answers a call can
come back with, what it leaves behind, and what everybody else may do to the world between
two of our calls. Answers are a relation, so a call may fail, may be free to answer
anything, or may be determined by the world.

* `Run` is the big-step reading: from the world `w`, the program can end with `out` in `w'`.
* `Meets` is the reading from the other side, a contract: whatever the world answers and
  whatever others do in between, every call of the program is a step in `G` (what the
  program *guarantees* to others) and the program ends in `Q`.

`Meets` is computed by recursion on the program, so a contract is proved by walking
through it; `Meets.run` brings it back to runs. The rules below are the usual ones:
sequencing, handling, consequence, and stability, which says that a contract survives
what others do meanwhile. `Meets.of_within` is the frame rule: a program that only makes
harmless calls keeps every invariant those calls keep.
-/

namespace Effect

variable {S T : Sig} {ε α β W : Type}

/-- What the calls of an interface do in a world. -/
structure Setting (S : Sig) (ε W : Type) where
  /-- `answers o w r w'`: made in `w`, the call `o` can come back with `r` and leave `w'` -/
  answers : (o : S.Op) → W → Except ε (S.Res o) → W → Prop
  /-- `moves w w'`: between two of our calls, others can take the world from `w` to `w'` -/
  moves : W → W → Prop

/-! ## Runs -/

/-- `Run E p w out w'`: started in `w`, the program `p` can end with `out` in `w'`. Others
move before each call. -/
inductive Run (E : Setting S ε W) : Prog S ε α → W → Except ε α → W → Prop
  /-- a finished program ends where it is -/
  | ret {a : α} {w : W} : Run E (.ret a) w (.ok a) w
  /-- a program that has raised ends where it is -/
  | throw {e : ε} {w : W} : Run E (.throw e) w (.error e) w
  /-- others move, the call is answered, and the rest runs -/
  | call {o : S.Op} {k : Except ε (S.Res o) → Prog S ε α} {w w₁ w₂ w' : W}
      {r : Except ε (S.Res o)} {out : Except ε α} (hmove : E.moves w w₁)
      (hans : E.answers o w₁ r w₂) (hrest : Run E (k r) w₂ out w') :
      Run E (.call o k) w out w'

section Runs

variable {E : Setting S ε W} {w w' : W}

@[simp] theorem run_ret_iff {a : α} {out : Except ε α} :
    Run E (.ret a) w out w' ↔ out = .ok a ∧ w' = w := by
  refine ⟨fun h => ?_, fun ⟨ho, hw⟩ => ho ▸ hw ▸ .ret⟩
  cases h with
  | ret => exact ⟨rfl, rfl⟩

@[simp] theorem run_throw_iff {e : ε} {out : Except ε α} :
    Run E (.throw e) w out w' ↔ out = .error e ∧ w' = w := by
  refine ⟨fun h => ?_, fun ⟨ho, hw⟩ => ho ▸ hw ▸ .throw⟩
  cases h with
  | throw => exact ⟨rfl, rfl⟩

theorem run_call_iff {o : S.Op} {k : Except ε (S.Res o) → Prog S ε α} {out : Except ε α} :
    Run E (.call o k) w out w' ↔
      ∃ w₁ r w₂, E.moves w w₁ ∧ E.answers o w₁ r w₂ ∧ Run E (k r) w₂ out w' := by
  refine ⟨fun h => ?_, fun ⟨w₁, r, w₂, hm, ha, hk⟩ => .call hm ha hk⟩
  cases h with
  | call hm ha hk => exact ⟨_, _, _, hm, ha, hk⟩

/-- A run of a sequence is a run of its first part, and, if that returned, a run of the
second. -/
theorem run_bind_iff {p : Prog S ε α} {f : α → Prog S ε β} {out : Except ε β} :
    Run E (p >>= f) w out w' ↔
      (∃ a w₁, Run E p w (.ok a) w₁ ∧ Run E (f a) w₁ out w') ∨
        ∃ e, Run E p w (.error e) w' ∧ out = .error e := by
  induction p generalizing w with
  | ret a =>
    rw [Prog.ret_bind]
    refine ⟨fun h => .inl ⟨a, w, .ret, h⟩, ?_⟩
    rintro (⟨b, w₁, h₁, h₂⟩ | ⟨e, h₁, h₂⟩)
    · obtain ⟨hb, rfl⟩ := run_ret_iff.mp h₁
      cases hb
      exact h₂
    · cases (run_ret_iff.mp h₁).1
  | throw e =>
    rw [Prog.throw_bind, run_throw_iff]
    constructor
    · rintro ⟨rfl, rfl⟩
      exact .inr ⟨e, .throw, rfl⟩
    · rintro (⟨b, w₁, h₁, h₂⟩ | ⟨e', h₁, h₂⟩)
      · cases (run_throw_iff.mp h₁).1
      · obtain ⟨he, rfl⟩ := run_throw_iff.mp h₁
        cases he
        exact ⟨h₂, rfl⟩
  | call o k ih =>
    rw [Prog.call_bind, run_call_iff]
    constructor
    · rintro ⟨w₁, r, w₂, hm, ha, hrest⟩
      rcases (ih r).mp hrest with ⟨a, w₃, h₁, h₂⟩ | ⟨e, h₁, h₂⟩
      · exact .inl ⟨a, w₃, .call hm ha h₁, h₂⟩
      · exact .inr ⟨e, .call hm ha h₁, h₂⟩
    · rintro (⟨a, w₃, h₁, h₂⟩ | ⟨e, h₁, h₂⟩)
      · obtain ⟨w₁, r, w₂, hm, ha, hk⟩ := run_call_iff.mp h₁
        exact ⟨w₁, r, w₂, hm, ha, (ih r).mpr (.inl ⟨a, w₃, hk, h₂⟩)⟩
      · obtain ⟨w₁, r, w₂, hm, ha, hk⟩ := run_call_iff.mp h₁
        exact ⟨w₁, r, w₂, hm, ha, (ih r).mpr (.inr ⟨e, hk, h₂⟩)⟩

/-- An attempt ends with the ending of its body, and never raises. -/
theorem run_attempt_iff {p : Prog S ε α} {out : Except ε (Except ε α)} :
    Run E p.attempt w out w' ↔ ∃ r, Run E p w r w' ∧ out = .ok r := by
  induction p generalizing w with
  | ret a =>
    rw [Prog.attempt_ret, run_ret_iff]
    exact ⟨fun ⟨ho, hw⟩ => ⟨.ok a, run_ret_iff.mpr ⟨rfl, hw⟩, ho⟩,
      fun ⟨r, hr, ho⟩ => ⟨(run_ret_iff.mp hr).1 ▸ ho, (run_ret_iff.mp hr).2⟩⟩
  | throw e =>
    rw [Prog.attempt_throw, run_ret_iff]
    exact ⟨fun ⟨ho, hw⟩ => ⟨.error e, run_throw_iff.mpr ⟨rfl, hw⟩, ho⟩,
      fun ⟨r, hr, ho⟩ => ⟨(run_throw_iff.mp hr).1 ▸ ho, (run_throw_iff.mp hr).2⟩⟩
  | call o k ih =>
    simp only [Prog.attempt_call, run_call_iff, ih]
    constructor
    · rintro ⟨w₁, r, w₂, hm, ha, out', hk, rfl⟩
      exact ⟨out', ⟨w₁, r, w₂, hm, ha, hk⟩, rfl⟩
    · rintro ⟨out', ⟨w₁, r, w₂, hm, ha, hk⟩, rfl⟩
      exact ⟨w₁, r, w₂, hm, ha, out', hk, rfl⟩

/-- A single call ends with what it is answered. -/
theorem run_perform_iff {o : S.Op} {out : Except ε (S.Res o)} :
    Run E (Prog.perform o) w out w' ↔ ∃ w₁, E.moves w w₁ ∧ E.answers o w₁ out w' := by
  rw [Prog.perform, run_call_iff]
  constructor
  · rintro ⟨w₁, r, w₂, hm, ha, hk⟩
    cases r with
    | ok a => obtain ⟨rfl, rfl⟩ := run_ret_iff.mp hk; exact ⟨w₁, hm, ha⟩
    | error e => obtain ⟨rfl, rfl⟩ := run_throw_iff.mp hk; exact ⟨w₁, hm, ha⟩
  · rintro ⟨w₁, hm, ha⟩
    cases out with
    | ok a => exact ⟨w₁, .ok a, w', hm, ha, .ret⟩
    | error e => exact ⟨w₁, .error e, w', hm, ha, .throw⟩

/-- A program that raises nothing ends with a value. -/
theorem Run.returns {p : Prog S ε α} {out : Except ε α} (h : Run E p w out w') (hp : p.Returns) :
    ∃ a, out = .ok a := by
  induction h with
  | ret => exact ⟨_, rfl⟩
  | throw => exact hp.elim
  | call _ _ _ ih => exact ih (hp _)

/-- Where calls may be answered more, and others may do more, there are more runs. -/
theorem Run.weaken {E' : Setting S ε W} {p : Prog S ε α} {out : Except ε α} (h : Run E p w out w')
    (hans : ∀ o a r b, E.answers o a r b → E'.answers o a r b)
    (hmoves : ∀ a b, E.moves a b → E'.moves a b) : Run E' p w out w' := by
  induction h with
  | ret => exact .ret
  | throw => exact .throw
  | call hm ha _ ih => exact .call (hmoves _ _ hm) (hans _ _ _ _ ha) ih

/-- Where others may do more, there are more runs. -/
theorem Run.mono {p : Prog S ε α} {out : Except ε α} (h : Run E p w out w')
    (E' : Setting S ε W) (hans : E'.answers = E.answers)
    (hmoves : ∀ a b, E.moves a b → E'.moves a b) : Run E' p w out w' :=
  h.weaken (fun _ _ _ _ ha => hans ▸ ha) hmoves

end Runs

/-! ## Playing a run -/

/-- Run `p` against a script: `f n o w` is the answer to the `n`-th call `o`, and the world
after it. -/
def play (f : Nat → (o : S.Op) → W → Except ε (S.Res o) × W) :
    Nat → Prog S ε α → W → Except ε α × W
  | _, .ret a, w => (.ok a, w)
  | _, .throw e, w => (.error e, w)
  | n, .call o k, w =>
    let answer := f n o w
    play f (n + 1) (k answer.1) answer.2

/-- Playing a sequence whose first part is a call that is answered. -/
theorem play_perform_bind {f : Nat → (o : S.Op) → W → Except ε (S.Res o) × W} {n : Nat}
    {o : S.Op} {k : S.Res o → Prog S ε α} {w w' : W} {a : S.Res o}
    (h : f n o w = (.ok a, w')) :
    play f n (Prog.perform o >>= k) w = play f (n + 1) (k a) w' := by
  rw [Prog.perform, Prog.call_bind, play, h]
  rfl

/-- Playing against a script whose answers are possible is a run. -/
theorem run_play {E : Setting S ε W} {f : Nat → (o : S.Op) → W → Except ε (S.Res o) × W}
    (hf : ∀ n o w, ∃ w₁, E.moves w w₁ ∧ E.answers o w₁ (f n o w).1 (f n o w).2)
    (n : Nat) (p : Prog S ε α) (w : W) : Run E p w (play f n p w).1 (play f n p w).2 := by
  induction p generalizing n w with
  | ret a => exact .ret
  | throw e => exact .throw
  | call o k ih =>
    obtain ⟨w₁, hm, ha⟩ := hf n o w
    exact .call hm ha (ih _ (n + 1) _)

/-! ## Contracts -/

/-- **The contract of a program** started in `w`: however others move between its calls and
whatever its calls are answered, each of them is a step in `G`, and the program ends in `Q`. -/
def Meets (E : Setting S ε W) (G : W → W → Prop) (Q : Except ε α → W → Prop) :
    Prog S ε α → W → Prop
  | .ret a, w => Q (.ok a) w
  | .throw e, w => Q (.error e) w
  | .call o k, w => ∀ w₁, E.moves w w₁ → ∀ r w₂, E.answers o w₁ r w₂ →
      G w₁ w₂ ∧ Meets E G Q (k r) w₂

section Contracts

variable {E : Setting S ε W} {G G' : W → W → Prop} {w w' : W}

@[simp] theorem meets_ret {Q : Except ε α → W → Prop} {a : α} :
    Meets E G Q (.ret a) w ↔ Q (.ok a) w := Iff.rfl

@[simp] theorem meets_throw {Q : Except ε α → W → Prop} {e : ε} :
    Meets E G Q (.throw e) w ↔ Q (.error e) w := Iff.rfl

/-- A program that meets its contract ends every run in `Q`. -/
theorem Meets.run {Q : Except ε α → W → Prop} {p : Prog S ε α} {out : Except ε α}
    (hp : Meets E G Q p w) (h : Run E p w out w') : Q out w' := by
  induction h with
  | ret => exact hp
  | throw => exact hp
  | call hm ha _ ih => exact ih (hp _ hm _ _ ha).2

/-- What every run ends in is a contract with nothing guaranteed. -/
theorem Meets.of_run {Q : Except ε α → W → Prop} {p : Prog S ε α}
    (h : ∀ out w', Run E p w out w' → Q out w') : Meets E (fun _ _ => True) Q p w := by
  induction p generalizing w with
  | ret a => exact h _ _ .ret
  | throw e => exact h _ _ .throw
  | call o k ih =>
    intro w₁ hm r w₂ ha
    exact ⟨trivial, ih r fun out w' hk => h out w' (.call hm ha hk)⟩

/-- Weaken what is guaranteed and what is ensured. -/
theorem Meets.mono {Q Q' : Except ε α → W → Prop} {p : Prog S ε α} (hp : Meets E G Q p w)
    (hG : ∀ a b, G a b → G' a b) (hQ : ∀ out w, Q out w → Q' out w) : Meets E G' Q' p w := by
  induction p generalizing w with
  | ret a => exact hQ _ _ hp
  | throw e => exact hQ _ _ hp
  | call o k ih =>
    intro w₁ hm r w₂ ha
    obtain ⟨hg, hk⟩ := hp w₁ hm r w₂ ha
    exact ⟨hG _ _ hg, ih r hk⟩

/-- Weaken what is ensured. -/
theorem Meets.post {Q Q' : Except ε α → W → Prop} {p : Prog S ε α} (hp : Meets E G Q p w)
    (hQ : ∀ out w, Q out w → Q' out w) : Meets E G Q' p w :=
  hp.mono (fun _ _ h => h) hQ

/-- A contract is met where less is answered, and others may do less. -/
theorem Meets.restrict {E' : Setting S ε W} {Q : Except ε α → W → Prop} {p : Prog S ε α}
    (hp : Meets E' G Q p w) (hans : ∀ o a r b, E.answers o a r b → E'.answers o a r b)
    (hmoves : ∀ a b, E.moves a b → E'.moves a b) : Meets E G Q p w := by
  induction p generalizing w with
  | ret a => exact hp
  | throw e => exact hp
  | call o k ih =>
    intro w₁ hm r w₂ ha
    obtain ⟨hg, hk⟩ := hp w₁ (hmoves _ _ hm) r w₂ (hans _ _ _ _ ha)
    exact ⟨hg, ih r hk⟩

/-- A program that meets two contracts meets both at once. -/
theorem Meets.and {Q Q' : Except ε α → W → Prop} {p : Prog S ε α} (hp : Meets E G Q p w)
    (hp' : Meets E G Q' p w) : Meets E G (fun out w => Q out w ∧ Q' out w) p w := by
  induction p generalizing w with
  | ret a => exact ⟨hp, hp'⟩
  | throw e => exact ⟨hp, hp'⟩
  | call o k ih =>
    intro w₁ hm r w₂ ha
    obtain ⟨hg, hk⟩ := hp w₁ hm r w₂ ha
    exact ⟨hg, ih r hk (hp' w₁ hm r w₂ ha).2⟩

/-- **Sequencing.** The first part ends in `M`; from there the second meets the contract,
and an exception ends it. -/
theorem Meets.bind {Q : Except ε β → W → Prop} {M : Except ε α → W → Prop}
    {p : Prog S ε α} {f : α → Prog S ε β} (hp : Meets E G M p w)
    (hf : ∀ a w, M (.ok a) w → Meets E G Q (f a) w)
    (he : ∀ e w, M (.error e) w → Q (.error e) w) : Meets E G Q (p >>= f) w := by
  induction p generalizing w with
  | ret a => exact hf a w hp
  | throw e => exact he e w hp
  | call o k ih =>
    intro w₁ hm r w₂ ha
    obtain ⟨hg, hk⟩ := hp w₁ hm r w₂ ha
    exact ⟨hg, ih r hk⟩

/-- An attempt meets what its body meets, told about the ending as a value. -/
theorem Meets.attempt {Q : Except ε (Except ε α) → W → Prop} {p : Prog S ε α}
    (hp : Meets E G (fun out w => Q (.ok out) w) p w) : Meets E G Q p.attempt w := by
  induction p generalizing w with
  | ret a => exact hp
  | throw e => exact hp
  | call o k ih =>
    intro w₁ hm r w₂ ha
    obtain ⟨hg, hk⟩ := hp w₁ hm r w₂ ha
    exact ⟨hg, ih r hk⟩

/-- **Handling.** The body ends in `M`; from each of its exceptions the handler meets the
contract. -/
theorem Meets.tryCatch {Q M : Except ε α → W → Prop} {p : Prog S ε α}
    {h : ε → Prog S ε α} (hp : Meets E G M p w)
    (hret : ∀ a w, M (.ok a) w → Q (.ok a) w)
    (hh : ∀ e w, M (.error e) w → Meets E G Q (h e) w) : Meets E G Q (p.tryCatch h) w := by
  induction p generalizing w with
  | ret a => exact hret a w hp
  | throw e => exact hh e w hp
  | call o k ih =>
    intro w₁ hm r w₂ ha
    obtain ⟨hg, hk⟩ := hp w₁ hm r w₂ ha
    exact ⟨hg, ih r hk⟩

/-- A single call ends in `Q` when each of its answers does. -/
theorem meets_perform {o : S.Op} {Q : Except ε (S.Res o) → W → Prop} :
    Meets E G Q (Prog.perform o) w ↔ ∀ w₁, E.moves w w₁ → ∀ r w₂, E.answers o w₁ r w₂ →
      G w₁ w₂ ∧ Q r w₂ := by
  refine ⟨fun h w₁ hm r w₂ ha => ?_, fun h w₁ hm r w₂ ha => ?_⟩
  · obtain ⟨hg, hk⟩ := h w₁ hm r w₂ ha
    cases r with
    | ok a => exact ⟨hg, hk⟩
    | error e => exact ⟨hg, hk⟩
  · obtain ⟨hg, hk⟩ := h w₁ hm r w₂ ha
    cases r with
    | ok a => exact ⟨hg, hk⟩
    | error e => exact ⟨hg, hk⟩

/-- Sequencing after a single call: each of its answers is passed on. -/
theorem Meets.perform_bind {o : S.Op} {f : S.Res o → Prog S ε β} {Q : Except ε β → W → Prop}
    (h : ∀ w₁, E.moves w w₁ → ∀ r w₂, E.answers o w₁ r w₂ → G w₁ w₂ ∧
      (∀ a, r = .ok a → Meets E G Q (f a) w₂) ∧ ∀ e, r = .error e → Q (.error e) w₂) :
    Meets E G Q (Prog.perform o >>= f) w := by
  intro w₁ hm r w₂ ha
  obtain ⟨hg, hok, herr⟩ := h w₁ hm r w₂ ha
  cases r with
  | ok a => exact ⟨hg, hok a rfl⟩
  | error e => exact ⟨hg, herr e rfl⟩

/-- **Stability.** A contract survives what others do meanwhile, when their moves compose
and `Q` survives them too. -/
theorem Meets.stable {Q : Except ε α → W → Prop} {p : Prog S ε α} (hp : Meets E G Q p w)
    (htrans : ∀ a b c, E.moves a b → E.moves b c → E.moves a c)
    (hQ : ∀ out a b, Q out a → E.moves a b → Q out b) (hm : E.moves w w') :
    Meets E G Q p w' := by
  cases p with
  | ret a => exact hQ _ _ _ hp hm
  | throw e => exact hQ _ _ _ hp hm
  | call o k => exact fun w₁ hm₁ r w₂ ha => hp w₁ (htrans _ _ _ hm hm₁) r w₂ ha

/-- **The frame rule.** If others keep `I`, and every call in `P` keeps `I`, is a step in
`G` and raises only what is in `X`, then so does any program that stays within `P`. -/
theorem Meets.of_within {P : S.Op → Prop} {X : ε → Prop} {R : α → Prop} {I : W → Prop}
    {p : Prog S ε α} (hp : p.Within P X R) (hmove : ∀ a b, I a → E.moves a b → I b)
    (hcall : ∀ o a r b, P o → I a → E.answers o a r b →
      G a b ∧ I b ∧ ∀ e, r = .error e → X e) (hw : I w) :
    Meets E G (fun out w' => I w' ∧ Prog.Ended R X out) p w := by
  induction p generalizing w with
  | ret a => exact ⟨hw, hp⟩
  | throw e => exact ⟨hw, hp⟩
  | call o k ih =>
    intro w₁ hm r w₂ ha
    obtain ⟨hg, hi, hx⟩ := hcall o w₁ r w₂ hp.1 (hmove _ _ hw hm) ha
    exact ⟨hg, ih r (hp.2 r hx) hi⟩

end Contracts

end Effect

/-!
## What a run passes through

A contract says how a program ends, and what each of its calls guarantees. Between the two lies
what is true while it runs: of every world it passes through, before it has made a call or after any
of them. `Passes` says which worlds these are; a program that has ended has passed through all of
its run, and one that is cut off has passed through some of it.
-/

namespace Effect

variable {S : Sig} {ε α W : Type} {E : Setting S ε W} {G : W → W → Prop}
  {Q : Except ε α → W → Prop} {I : W → Prop} {w w' : W}

/-- Started in one world, the program may come through another. -/
inductive Passes (E : Setting S ε W) : Prog S ε α → W → W → Prop
  | here {p : Prog S ε α} {w : W} : Passes E p w w
  | call {o : S.Op} {k : Except ε (S.Res o) → Prog S ε α} {w w₁ w₂ w' : W}
      {r : Except ε (S.Res o)} (hm : E.moves w w₁) (ha : E.answers o w₁ r w₂)
      (hrest : Passes E (k r) w₂ w') : Passes E (.call o k) w w'

/-- A run comes through where it ends. -/
theorem Run.passes {p : Prog S ε α} {out : Except ε α} (h : Run E p w out w') :
    Passes E p w w' := by
  induction h with
  | ret => exact .here
  | throw => exact .here
  | call hm ha _ ih => exact .call hm ha ih

/-- **At every moment.** What each call guarantees, and others keep, is true of every world that a
program comes through. -/
theorem Meets.passes {p : Prog S ε α} (hp : Meets E G Q p w)
    (hmoves : ∀ a b, I a → E.moves a b → I b) (hG : ∀ a b, I a → G a b → I b) (hw : I w)
    (h : Passes E p w w') : I w' := by
  induction h with
  | here => exact hw
  | @call o k w w₁ w₂ w' r hm ha _ ih =>
    obtain ⟨hg, hk⟩ := hp w₁ hm r w₂ ha
    exact ih hk (hG w₁ w₂ (hmoves w w₁ hw hm) hg)

end Effect
