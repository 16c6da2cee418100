import NxTutors.Effect.Guarded

/-!
# Nothing but answers

Some properties of a program depend only on what its calls are answered. The setting `answering P`
has no world: a call may be answered whatever `P` lets through. With a log beside it, the calls of a
program are determined by their answers, and a run is inverted call by call. The same goes for a
world that nobody else moves (`meets_still_bind`).
-/

namespace Effect

variable {S : Sig} {ε α β : Type} {P : (o : S.Op) → Except ε (S.Res o) → Prop}

/-- The setting in which only the answers matter, and those in `P` are given. -/
def answering (P : (o : S.Op) → Except ε (S.Res o) → Prop) : Setting S ε Unit :=
  ⟨fun o _ r _ => P o r, fun _ _ => True⟩

section Answers

variable {o : S.Op} {log : History S ε} {a b : Unit × History S ε}

/-- What may be answered is answered, and written down. -/
theorem answering_answers {r : Except ε (S.Res o)} (hr : P o r) :
    (answering P).logged.answers o ((), log) r ((), log ++ [⟨o, r⟩]) := ⟨hr, rfl⟩

theorem answering_moves : (answering P).logged.moves a a := ⟨trivial, rfl⟩

/-- A call with an answer, and what comes after it. -/
theorem run_answering {k : Except ε (S.Res o) → Prog S ε α} {r : Except ε (S.Res o)}
    {out : Except ε α} (hr : P o r)
    (hrest : Run (answering P).logged (k r) ((), log ++ [⟨o, r⟩]) out b) :
    Run (answering P).logged (.call o k) ((), log) out b :=
  .call answering_moves (answering_answers hr) hrest

/-- A call, and what comes after each of its answers. -/
theorem meets_answering {k : Except ε (S.Res o) → Prog S ε α}
    {Q : Except ε α → Unit × History S ε → Prop}
    (h : ∀ r, P o r → Meets (answering P).logged (fun _ _ => True) Q (k r)
      ((), log ++ [⟨o, r⟩])) :
    Meets (answering P).logged (fun _ _ => True) Q (.call o k) ((), log) := by
  rintro ⟨⟨⟩, log₁⟩ ⟨-, hlog⟩ r ⟨⟨⟩, log₂⟩ ⟨hr, hlog'⟩
  obtain rfl : log₁ = log := hlog
  obtain rfl : log₂ = log₁ ++ [⟨o, r⟩] := hlog'
  exact ⟨trivial, h r hr⟩

/-- The same for a call that a program continues from where it returns. -/
theorem meets_answering_bind {f : S.Res o → Prog S ε β}
    {Q : Except ε β → Unit × History S ε → Prop}
    (hok : ∀ x, P o (.ok x) → Meets (answering P).logged (fun _ _ => True) Q (f x)
      ((), log ++ [⟨o, .ok x⟩]))
    (herr : ∀ e, P o (.error e) → Q (.error e) ((), log ++ [⟨o, .error e⟩])) :
    Meets (answering P).logged (fun _ _ => True) Q (Prog.perform o >>= f) ((), log) := by
  refine meets_answering fun r hr => ?_
  cases r with
  | ok x => exact hok x hr
  | error e => exact herr e hr

end Answers

/-! ## Nobody else moves -/

section Still

variable {W : Type} {E : Setting S ε W} {o : S.Op} {a : W} {log : History S ε}

/-- A call in a world that nobody else moves, and what comes after it. -/
theorem run_still (hmoves : ∀ a, E.moves a a) {k : Except ε (S.Res o) → Prog S ε α}
    {r : Except ε (S.Res o)} {b : W} {out : Except ε α} {c : W × History S ε}
    (hans : E.answers o a r b) (hrest : Run E.logged (k r) (b, log ++ [⟨o, r⟩]) out c) :
    Run E.logged (.call o k) (a, log) out c :=
  have hmoved : E.logged.moves (a, log) (a, log) := ⟨hmoves a, rfl⟩
  .call hmoved ⟨hans, rfl⟩ hrest

/-- A call in a world that nobody else moves, and what comes after each of its answers. -/
theorem meets_still_bind (hmoves : ∀ a b, E.moves a b → a = b) {f : S.Res o → Prog S ε β}
    {Q : Except ε β → W × History S ε → Prop}
    (hok : ∀ x b, E.answers o a (.ok x) b →
      Meets E.logged (fun _ _ => True) Q (f x) (b, log ++ [⟨o, .ok x⟩]))
    (herr : ∀ e b, E.answers o a (.error e) b → Q (.error e) (b, log ++ [⟨o, .error e⟩])) :
    Meets E.logged (fun _ _ => True) Q (Prog.perform o >>= f) (a, log) := by
  rintro ⟨a₁, log₁⟩ ⟨hsame, hlog⟩ r ⟨b, log₂⟩ ⟨hans, hlog'⟩
  obtain rfl : a = a₁ := hmoves a a₁ hsame
  obtain rfl : log₁ = log := hlog
  obtain rfl : log₂ = log₁ ++ [⟨o, r⟩] := hlog'
  cases r with
  | ok x => exact ⟨trivial, hok x b hans⟩
  | error e => exact ⟨trivial, herr e b hans⟩

end Still

/-- A program only adds calls that it may make, with answers they may be given. -/
theorem Prog.Within.meets_answering {C : S.Op → Prop} {X : ε → Prop} {R : α → Prop}
    {p : Prog S ε α} (hp : p.Within C X R) (hraise : ∀ o e, C o → P o (.error e) → X e)
    {log : History S ε} :
    Meets (answering P).logged (fun _ _ => True) (fun out b => Prog.Ended R X out ∧
      ∃ rest, b = ((), log ++ rest) ∧ ∀ c ∈ rest, C c.1) p ((), log) := by
  refine (Meets.of_within (I := fun b => ∃ rest, b = ((), log ++ rest) ∧ ∀ c ∈ rest, C c.1) hp
    ?_ ?_ ⟨[], by rw [List.append_nil], fun c hc => absurd hc List.not_mem_nil⟩).post
    fun out b ⟨hrest, hout⟩ => ⟨hout, hrest⟩
  · rintro a b ⟨rest, rfl, hrest⟩ ⟨-, hlog⟩
    exact ⟨rest, Prod.ext rfl hlog, hrest⟩
  · rintro o a r b ho ⟨rest, rfl, hrest⟩ ⟨hr, hlog⟩
    refine ⟨trivial, ⟨rest ++ [⟨o, r⟩], Prod.ext rfl ?_, fun c hc => ?_⟩, fun e heq => ?_⟩
    · rw [hlog, List.append_assoc]
    · rcases List.mem_append.mp hc with hc | hc
      · exact hrest c hc
      · obtain rfl := List.mem_singleton.mp hc
        exact ho
    · subst heq
      exact hraise o e ho hr

/-- What a guarded program leaves when it is done, its calls determine. -/
theorem Prog.GuardedTo.meets_answering {G : History S ε → S.Op → Prop} {R : α → History S ε → Prop}
    {p : Prog S ε α} {log : History S ε} (hp : p.GuardedTo G R log) :
    Meets (answering P).logged (fun _ _ => True) (fun out b => ∀ a, out = .ok a → R a b.2) p
      ((), log) := by
  induction p generalizing log with
  | ret a => exact fun _ heq => Except.ok.inj heq ▸ hp
  | throw e => exact fun _ heq => nomatch heq
  | call o k ih => exact Effect.meets_answering fun r _ => ih r (hp.2 r)

/-! ## Pools of programs that are known by their answers -/

section Pools

variable {W τ : Type}

/-- Whoever is done has another name than whoever runs. -/
theorem Pool.ne_of_finished {w : W} {l r : List (τ × Prog S ε α)} {fin : List (τ × Except ε α)}
    {t : τ} {p : Prog S ε α} (hnodup : (names ⟨w, l ++ (t, p) :: r, fin⟩).Nodup)
    {y : τ × Except ε α} (hy : y ∈ fin) : t ≠ y.1 := by
  rintro rfl
  have hrunning : y.1 ∈ (l ++ (y.1, p) :: r).map Prod.fst := by simp
  exact (List.disjoint_of_nodup_append hnodup) (List.mem_map_of_mem hy) hrunning

variable [DecidableEq τ] {A : Arena S ε α W τ} {R : τ → Except ε α → History S ε → Prop}
  {I : W × List (τ × Call S ε) → Prop}

/-- The state of a pool of programs whose endings go with their calls. -/
structure Pool.Recounted (P : (o : S.Op) → Except ε (S.Res o) → Prop)
    (R : τ → Except ε α → History S ε → Prop) (I : W × List (τ × Call S ε) → Prop)
    (p : Pool S ε α (W × List (τ × Call S ε)) τ) : Prop where
  /-- the world and the log keep the invariant -/
  inv : I p.world
  /-- whoever runs will end as its calls say -/
  running : ∀ x ∈ p.running, Meets (answering P).logged (fun _ _ => True)
    (fun out b => R x.1 out b.2) x.2 ((), own x.1 p.world.2)
  /-- whoever is done has -/
  finished : ∀ x ∈ p.finished, R x.1 x.2 (own x.1 p.world.2)

/-- **Endings go with calls.** If the calls of whoever enters determine how it ends, then in every
pool that can be reached whoever is done ended as the log says of its name; and an invariant that
every call keeps holds of the world and the log. -/
theorem Pool.Reach.recounted {w : W} {p : Pool S ε α (W × List (τ × Call S ε)) τ}
    (hanswers : ∀ t o a r b, A.answers t o a r b → P o r)
    (henters : ∀ t q w, A.enters t q w → Meets (answering P).logged (fun _ _ => True)
      (fun out b => R t out b.2) q ((), []))
    (hw : I (w, []))
    (hcall : ∀ t o a r b log, I (a, log) → A.answers t o a r b → I (b, log ++ [(t, ⟨o, r⟩)]))
    (houtside : ∀ a b log, I (a, log) → A.outside a b → I (b, log))
    (h : Reach A.traced (start (w, [])) p) : Recounted P R I p := by
  induction h with
  | refl =>
    exact ⟨hw, fun x hx => absurd hx List.not_mem_nil, fun x hx => absurd hx List.not_mem_nil⟩
  | @tail p q hreach hstep ih =>
    have hnodup := Reach.nodup hreach
    obtain ⟨hinv, hrun, hfin⟩ := ih
    cases hstep with
    | @enter w run fin t q henter hfresh =>
      refine ⟨hinv, fun x hx => ?_, hfin⟩
      rcases List.mem_append.mp hx with hx | hx
      · exact hrun x hx
      · obtain rfl := List.mem_singleton.mp hx
        change Meets _ _ _ q ((), own t w.2)
        rw [henter.2]
        exact henters t q w.1 henter.1
    | @call a b l r fin t o k res hans =>
      obtain ⟨w, log⟩ := a
      obtain ⟨w', log'⟩ := b
      obtain ⟨hans, rfl⟩ := hans
      have hgiven : P o res := hanswers t o w res w' hans
      refine ⟨hcall t o w res w' log hinv hans, fun x hx => ?_, fun x hx => ?_⟩
      · -- the history of the caller has grown; the others have other names
        have hother : ∀ y ∈ l ++ r, Meets (answering P).logged (fun _ _ => True)
            (fun out b => R y.1 out b.2) y.2 ((), own y.1 (log ++ [(t, ⟨o, res⟩)])) := by
          intro y hy
          rw [own_concat_of_ne (ne_of_names hnodup hy)]
          exact hrun y (Pool.mem_of_others hy)
        rcases List.mem_append.mp hx with hx | hx
        · exact hother x (List.mem_append_left _ hx)
        · rcases List.mem_cons.mp hx with rfl | hx
          · have hcaller := hrun (t, .call o k) (by simp) _ answering_moves res _
              (answering_answers hgiven)
            change Meets _ _ _ (k res) ((), own t (log ++ [(t, ⟨o, res⟩)]))
            rw [own_concat_self]
            exact hcaller.2
          · exact hother x (List.mem_append_right _ hx)
      · change R x.1 x.2 (own x.1 (log ++ [(t, ⟨o, res⟩)]))
        rw [own_concat_of_ne (ne_of_finished hnodup hx)]
        exact hfin x hx
    | @finish w l r fin t q out hend =>
      refine ⟨hinv, fun x hx => hrun x (Pool.mem_of_others hx), fun x hx => ?_⟩
      rcases List.mem_append.mp hx with hx | hx
      · exact hfin x hx
      · obtain rfl := List.mem_singleton.mp hx
        exact (hrun (t, q) (by simp)).ending hend
    | @crash w l r fin y =>
      exact ⟨hinv, fun x hx => hrun x (Pool.mem_of_others hx), hfin⟩
    | @outside a b run fin hout =>
      obtain ⟨w, log⟩ := a
      obtain ⟨w', log'⟩ := b
      obtain ⟨hout, rfl⟩ := hout
      exact ⟨houtside w w' log' hinv hout, hrun, hfin⟩

end Pools

end Effect
