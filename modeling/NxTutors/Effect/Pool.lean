import Mathlib.Data.List.Nodup
import NxTutors.Effect.Contract

/-!
# Programs taking turns

A `Pool` holds a world, the programs running in it and the endings of those that are done.
In one step of a pool a new program enters, one program makes one call, one program that is
done leaves its ending behind, one program is killed where it stands, or the outside moves
the world. Everything in between is somebody else's turn: the steps of a pool are exactly
the interleavings of its programs at their calls, with a crash possible at every call.

Programs carry a name, so that an ending can be told from another and so that the answers of
a call may depend on who makes it (a log of who called what, say). The rule of the module is
`Reach.inv`: if every program that may enter meets a contract whose guarantee the others can
live with, every pool that can be reached keeps the invariant, every running program still
meets its contract, and every ending is as the contract promised.
-/

namespace Effect

variable {S : Sig} {ε α W τ : Type}

/-- How a program ended, if it has. -/
def Prog.ending : Prog S ε α → Option (Except ε α)
  | .ret a => some (.ok a)
  | .throw e => some (.error e)
  | .call _ _ => none

/-- A contract of a program that is done is a fact about its ending. -/
theorem Meets.ending {E : Setting S ε W} {G : W → W → Prop} {Q : Except ε α → W → Prop}
    {p : Prog S ε α} {w : W} {out : Except ε α} (hp : Meets E G Q p w)
    (h : p.ending = some out) : Q out w := by
  cases p with
  | ret a => cases h; exact hp
  | throw e => cases h; exact hp
  | call o k => cases h

/-- A world, the programs running in it, and how those that are done ended. -/
structure Pool (S : Sig) (ε α W τ : Type) where
  /-- the world all programs share -/
  world : W
  /-- the programs that are not done, each under its name -/
  running : List (τ × Prog S ε α)
  /-- the endings so far, oldest first -/
  finished : List (τ × Except ε α)

/-- What can happen in a pool. -/
structure Arena (S : Sig) (ε α W τ : Type) where
  /-- what a call of the program named `t` can be answered, and what it leaves behind -/
  answers : τ → (o : S.Op) → W → Except ε (S.Res o) → W → Prop
  /-- which programs may be started, under which name, in which world -/
  enters : τ → Prog S ε α → W → Prop
  /-- what happens to the world that no program of the pool does -/
  outside : W → W → Prop

namespace Pool

/-- The names in use: of the programs that are done and of those that run. -/
def names (p : Pool S ε α W τ) : List τ := p.finished.map Prod.fst ++ p.running.map Prod.fst

/-- One step of a pool. -/
inductive Step (A : Arena S ε α W τ) : Pool S ε α W τ → Pool S ε α W τ → Prop
  /-- a program enters under a name nobody uses -/
  | enter {w : W} {run : List (τ × Prog S ε α)} {fin : List (τ × Except ε α)} {t : τ}
      {p : Prog S ε α} (henter : A.enters t p w) (hfresh : t ∉ names ⟨w, run, fin⟩) :
      Step A ⟨w, run, fin⟩ ⟨w, run ++ [(t, p)], fin⟩
  /-- a running program makes its next call -/
  | call {w w' : W} {l r : List (τ × Prog S ε α)} {fin : List (τ × Except ε α)} {t : τ}
      {o : S.Op} {k : Except ε (S.Res o) → Prog S ε α} {res : Except ε (S.Res o)}
      (hans : A.answers t o w res w') :
      Step A ⟨w, l ++ (t, .call o k) :: r, fin⟩ ⟨w', l ++ (t, k res) :: r, fin⟩
  /-- a program that is done leaves its ending -/
  | finish {w : W} {l r : List (τ × Prog S ε α)} {fin : List (τ × Except ε α)} {t : τ}
      {p : Prog S ε α} {out : Except ε α} (hend : p.ending = some out) :
      Step A ⟨w, l ++ (t, p) :: r, fin⟩ ⟨w, l ++ r, fin ++ [(t, out)]⟩
  /-- a running program is killed -/
  | crash {w : W} {l r : List (τ × Prog S ε α)} {fin : List (τ × Except ε α)}
      {x : τ × Prog S ε α} : Step A ⟨w, l ++ x :: r, fin⟩ ⟨w, l ++ r, fin⟩
  /-- the outside moves the world -/
  | outside {w w' : W} {run : List (τ × Prog S ε α)} {fin : List (τ × Except ε α)}
      (hout : A.outside w w') : Step A ⟨w, run, fin⟩ ⟨w', run, fin⟩

/-- The pools that can come out of `p`. -/
def Reach (A : Arena S ε α W τ) : Pool S ε α W τ → Pool S ε α W τ → Prop :=
  Relation.ReflTransGen (Step A)

/-- A world in which nothing runs and nothing has run. -/
def start (w : W) : Pool S ε α W τ := ⟨w, [], []⟩

variable {A : Arena S ε α W τ}

/-- Who is left beside a program was there with it. -/
theorem mem_of_others {β : Type} {l r : List β} {x y : β} (h : x ∈ l ++ r) : x ∈ l ++ y :: r :=
  ((List.sublist_cons_self y r).append_left l).subset h

/-- No name is used twice. -/
theorem Reach.nodup {w : W} {p : Pool S ε α W τ} (h : Reach A (start w) p) :
    p.names.Nodup := by
  induction h with
  | refl => exact List.nodup_nil
  | tail _ hstep ih =>
    cases hstep with
    | @enter w run fin t q henter hfresh =>
      have hperm : (names ⟨w, run ++ [(t, q)], fin⟩).Perm (t :: names ⟨w, run, fin⟩) := by
        simp only [names, List.map_append, List.map_cons, List.map_nil, ← List.append_assoc]
        exact List.perm_append_singleton t _
      exact hperm.nodup_iff.mpr (List.nodup_cons.mpr ⟨hfresh, ih⟩)
    | call hans => simpa [names] using ih
    | @finish w l r fin t q out hend =>
      have hperm : (names ⟨w, l ++ r, fin ++ [(t, out)]⟩).Perm
          (names ⟨w, l ++ (t, q) :: r, fin⟩) := by
        simp only [names, List.map_append, List.map_cons, List.map_nil, List.append_assoc,
          List.cons_append, List.nil_append]
        exact List.perm_middle.symm.append_left _
      exact hperm.nodup_iff.mpr ih
    | @crash w l r fin x =>
      refine ih.sublist ?_
      simp only [names, List.map_append, List.map_cons]
      exact ((List.sublist_cons_self _ _).append_left _).append_left _
    | outside hout => exact ih

/-- What is true of the name of whoever enters is true of every name. -/
theorem Reach.named {P : τ → Prop} {w : W} {p : Pool S ε α W τ}
    (henters : ∀ t q w, A.enters t q w → P t) (h : Reach A (start w) p) :
    ∀ t ∈ p.names, P t := by
  induction h with
  | refl =>
    intro t ht
    cases ht
  | tail _ hstep ih =>
    intro t ht
    cases hstep with
    | @enter w run fin t' q henter hfresh =>
      have hmem : t ∈ names ⟨w, run, fin⟩ ∨ t = t' := by simpa [names, or_assoc] using ht
      rcases hmem with hmem | rfl
      · exact ih t hmem
      · exact henters _ _ _ henter
    | call hans => exact ih t (by simpa [names] using ht)
    | finish hend => exact ih t (by simp [names] at ht ⊢; tauto)
    | crash => exact ih t (by simp [names] at ht ⊢; tauto)
    | outside hout => exact ih t ht

/-- What one program does undisturbed, it can do in a pool. -/
theorem Reach.of_run {E : Setting S ε W} {t : τ} {p : Prog S ε α} {w w' : W}
    {out : Except ε α} (hrun : Run E p w out w') (hmoves : ∀ a b, E.moves a b → a = b)
    (hans : E.answers = A.answers t) (l r : List (τ × Prog S ε α))
    (fin : List (τ × Except ε α)) :
    Reach A ⟨w, l ++ (t, p) :: r, fin⟩ ⟨w', l ++ r, fin ++ [(t, out)]⟩ := by
  induction hrun with
  | ret => exact .single (.finish rfl)
  | throw => exact .single (.finish rfl)
  | call hm ha _ ih =>
    obtain rfl := hmoves _ _ hm
    exact .head (.call (hans ▸ ha)) ih

/-- A program that enters an idle pool and runs undisturbed leaves it idle. -/
theorem Reach.enter_run {E : Setting S ε W} {t : τ} {p : Prog S ε α} {w w' : W}
    {out : Except ε α} {fin : List (τ × Except ε α)} (henter : A.enters t p w)
    (hfresh : t ∉ fin.map Prod.fst) (hrun : Run E p w out w')
    (hmoves : ∀ a b, E.moves a b → a = b) (hans : E.answers = A.answers t) :
    Reach A ⟨w, [], fin⟩ ⟨w', [], fin ++ [(t, out)]⟩ :=
  .head (.enter henter (by simpa [names] using hfresh))
    (Reach.of_run hrun hmoves hans [] [] fin)

section Invariants

variable {E : τ → Setting S ε W} {G : τ → W → W → Prop} {Q : τ → Except ε α → W → Prop}
  {I : W → Prop}

/-- The state of a pool in which everybody keeps their contract. -/
structure Sound (E : τ → Setting S ε W) (G : τ → W → W → Prop)
    (Q : τ → Except ε α → W → Prop) (I : W → Prop) (p : Pool S ε α W τ) : Prop where
  /-- the world keeps the invariant -/
  inv : I p.world
  /-- whoever runs still meets its contract -/
  running : ∀ x ∈ p.running, Meets (E x.1) (G x.1) (Q x.1) x.2 p.world
  /-- whoever is done ended as promised -/
  finished : ∀ x ∈ p.finished, Q x.1 x.2 p.world

/-- What the contracts of a pool have to agree on. -/
structure Agree (A : Arena S ε α W τ) (E : τ → Setting S ε W) (G : τ → W → W → Prop)
    (Q : τ → Except ε α → W → Prop) (I : W → Prop) : Prop where
  /-- the contracts are about the answers the pool gives -/
  answers : ∀ t, (E t).answers = A.answers t
  /-- whoever may enter meets its contract -/
  enters : ∀ t p w, I w → A.enters t p w → Meets (E t) (G t) (Q t) p w
  /-- what one guarantees keeps the invariant, and everybody can live with it -/
  step : ∀ t t' a b, I a → G t a b → I b ∧ (E t').moves a b
  /-- what the outside does keeps the invariant -/
  outside : ∀ a b, I a → A.outside a b → I b
  /-- and everybody can live with that too -/
  outside_moves : ∀ t a b, I a → A.outside a b → (E t).moves a b
  /-- others may do nothing -/
  refl : ∀ t a, I a → (E t).moves a a
  /-- others may do one thing after another -/
  trans : ∀ t a b c, (E t).moves a b → (E t).moves b c → (E t).moves a c
  /-- what was promised of an ending stays true -/
  stable : ∀ t out a b, Q t out a → (E t).moves a b → Q t out b

/-- One step keeps everybody's contract. -/
theorem Sound.step {p q : Pool S ε α W τ} (ha : Agree A E G Q I) (hp : Sound E G Q I p)
    (h : Step A p q) : Sound E G Q I q := by
  obtain ⟨hinv, hrun, hfin⟩ := hp
  cases h with
  | @enter w run fin t q henter hfresh =>
    refine ⟨hinv, fun x hx => ?_, hfin⟩
    rcases List.mem_append.mp hx with hx | hx
    · exact hrun x hx
    · obtain rfl := List.mem_singleton.mp hx
      exact ha.enters t q w hinv henter
  | @call w w' l r fin t o k res hans =>
    -- the caller's own contract gives the guarantee; the others are stable under it
    have hcall := hrun (t, .call o k) (by simp)
    obtain ⟨hg, hk⟩ := hcall w (ha.refl t w hinv) res w' (by rw [ha.answers]; exact hans)
    have hmoves : ∀ t', (E t').moves w w' := fun t' => (ha.step t t' w w' hinv hg).2
    refine ⟨(ha.step t t w w' hinv hg).1, fun x hx => ?_, fun x hx => ?_⟩
    · have hrest : ∀ y ∈ l ++ r, Meets (E y.1) (G y.1) (Q y.1) y.2 w' := fun y hy =>
        (hrun y (mem_of_others hy)).stable (ha.trans y.1) (ha.stable y.1) (hmoves y.1)
      rcases List.mem_append.mp hx with hx | hx
      · exact hrest x (List.mem_append_left _ hx)
      · rcases List.mem_cons.mp hx with rfl | hx
        · exact hk
        · exact hrest x (List.mem_append_right _ hx)
    · exact ha.stable x.1 x.2 w w' (hfin x hx) (hmoves x.1)
  | @finish w l r fin t q out hend =>
    refine ⟨hinv, fun x hx => hrun x (mem_of_others hx), fun x hx => ?_⟩
    rcases List.mem_append.mp hx with hx | hx
    · exact hfin x hx
    · obtain rfl := List.mem_singleton.mp hx
      exact (hrun (t, q) (by simp)).ending hend
  | @crash w l r fin y =>
    exact ⟨hinv, fun x hx => hrun x (mem_of_others hx), hfin⟩
  | @outside w w' run fin hout =>
    have hmoves : ∀ t', (E t').moves w w' := fun t' => ha.outside_moves t' w w' hinv hout
    exact ⟨ha.outside w w' hinv hout,
      fun x hx => (hrun x hx).stable (ha.trans x.1) (ha.stable x.1) (hmoves x.1),
      fun x hx => ha.stable x.1 x.2 w w' (hfin x hx) (hmoves x.1)⟩

/-- **The rule of the module.** From a world with the invariant, every pool that can be
reached is sound. -/
theorem Reach.inv {w : W} {p : Pool S ε α W τ} (ha : Agree A E G Q I) (hw : I w)
    (h : Reach A (start w) p) : Sound E G Q I p := by
  induction h with
  | refl => exact ⟨hw, by simp [start], by simp [start]⟩
  | tail _ hstep ih => exact ih.step ha hstep

end Invariants

end Pool

end Effect

/-!
## Maintaining an invariant

Often all there is to say about a program is that it does no harm: whoever else is running,
each of its calls keeps an invariant `I` of the world. That is a contract with itself on both
sides: others keep `I`, and so do we (`Maintains`).

Programs that maintain `I` can be put together in any way, and any number of them can take
turns: `Pool.Reach.maintained`.
-/

namespace Effect

variable {S : Sig} {ε α β W τ : Type}

/-- A move that keeps `I`. -/
def Keeps (I : W → Prop) (a b : W) : Prop := I a → I b

/-- The setting in which calls are answered so, and others keep `I`. -/
def keeping (answers : (o : S.Op) → W → Except ε (S.Res o) → W → Prop) (I : W → Prop) :
    Setting S ε W := ⟨answers, Keeps I⟩

/-- **The program maintains `I`**: started where `I` holds, and among others that keep it,
each of its calls keeps it. -/
def Maintains (answers : (o : S.Op) → W → Except ε (S.Res o) → W → Prop) (I : W → Prop)
    (p : Prog S ε α) : Prop :=
  ∀ w, I w → Meets (keeping answers I) (Keeps I) (fun _ w => I w) p w

namespace Maintains

variable {answers : (o : S.Op) → W → Except ε (S.Res o) → W → Prop} {I : W → Prop}

theorem ret (a : α) : Maintains answers I (.ret a : Prog S ε α) := fun _ hw => hw

theorem throw (e : ε) : Maintains answers I (.throw e : Prog S ε α) := fun _ hw => hw

/-- A call that keeps `I` maintains it. -/
theorem perform {o : S.Op} (h : ∀ a r b, I a → answers o a r b → I b) :
    Maintains answers I (Prog.perform o) := fun _ hw =>
  meets_perform.mpr fun w₁ hm r w₂ ha =>
    have hw₂ : I w₂ := h w₁ r w₂ (hm hw) ha
    ⟨fun _ => hw₂, hw₂⟩

theorem bind {p : Prog S ε α} {f : α → Prog S ε β} (hp : Maintains answers I p)
    (hf : ∀ a, Maintains answers I (f a)) : Maintains answers I (p >>= f) := fun w hw =>
  (hp w hw).bind (fun a w hw => hf a w hw) fun _ _ hw => hw

theorem tryCatch {p : Prog S ε α} {h : ε → Prog S ε α} (hp : Maintains answers I p)
    (hh : ∀ e, Maintains answers I (h e)) : Maintains answers I (p.tryCatch h) := fun w hw =>
  (hp w hw).tryCatch (fun _ _ hw => hw) fun e w hw => hh e w hw

/-- A program maintains what each of its calls keeps. -/
theorem of_within {P : S.Op → Prop} {X : ε → Prop} {R : α → Prop} {p : Prog S ε α}
    (hp : p.Within P X R) (hX : ∀ e, X e) (h : ∀ o a r b, P o → I a → answers o a r b → I b) :
    Maintains answers I p := by
  intro w hw
  have hmove : ∀ a b, I a → (keeping answers I).moves a b → I b := fun a b ha hm => hm ha
  have hcall : ∀ o a r b, P o → I a → (keeping answers I).answers o a r b →
      Keeps I a b ∧ I b ∧ ∀ e, r = .error e → X e := by
    intro o a r b ho ha hans
    have hb : I b := h o a r b ho ha hans
    exact ⟨fun _ => hb, hb, fun e _ => hX e⟩
  exact (Meets.of_within hp hmove hcall hw).post fun _ _ h => h.1

/-- What a program maintains holds when it is done, if others keep it. -/
theorem run {E : Setting S ε W} {p : Prog S ε α} {w w' : W} {out : Except ε α}
    (hp : Maintains E.answers I p) (hmoves : ∀ a b, E.moves a b → I a → I b) (hw : I w)
    (h : Run E p w out w') : I w' :=
  (hp w hw).run (h.mono (keeping E.answers I) rfl hmoves)

end Maintains

/-- **Maintaining together.** If whoever enters maintains `I`, and the outside keeps it, then
`I` holds in every pool that can be reached. -/
theorem Pool.Reach.maintained {A : Arena S ε α W τ} {I : W → Prop} {w : W}
    {p : Pool S ε α W τ}
    (henters : ∀ t q w, I w → A.enters t q w → Maintains (A.answers t) I q)
    (houtside : ∀ a b, I a → A.outside a b → I b) (hw : I w) (h : Reach A (start w) p) :
    I p.world := by
  have hagree : Agree A (fun t => keeping (A.answers t) I) (fun _ => Keeps I)
      (fun _ _ w => I w) I :=
    { answers := fun _ => rfl
      enters := fun t q w hw henter => henters t q w hw henter w hw
      step := fun _ _ a b ha hab => ⟨hab ha, hab⟩
      outside := houtside
      outside_moves := fun _ a b ha hab _ => houtside a b ha hab
      refl := fun _ _ _ ha => ha
      trans := fun _ _ _ _ hab hbc ha => hbc (hab ha)
      stable := fun _ _ _ _ ha hab => hab ha }
  exact (Reach.inv hagree hw h).inv

end Effect
