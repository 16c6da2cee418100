import NxTutors.Effect.Guarded
import NxTutors.Effect.Path

/-!
# Calls that are carried out by programs

Some calls of an interface stand for whole components, and a component is itself a program over
the interface. `Parts` says which: where it has a program for a call, making the call is running
the program. A setting that is staffed with parts keeps a record of what is called. An entry of
the record is a call, what it was answered, and the calls that were made on its behalf.

A run of a program is then two things at once. `Run.path` says that the entries it adds to the
record are the labels of a path through the world, and `Run.allowed` that a guarded program has
made each of its calls after calls it was permitted after. The first is about what the calls do,
the second about which of them there are.
-/

namespace Effect

variable {S : Sig} {ε α W : Type}

/-! ## Recording -/

/-- A step of a record: others move, and then what is written down takes place. -/
def Recorded {ℓ : Type} (moves : W → W → Prop) (happens : W → ℓ → W → Prop) (a : W) (l : ℓ)
    (b : W) : Prop := ∃ a₁, moves a a₁ ∧ happens a₁ l b

/-- The setting that keeps a record of its calls, in which `call` finds them. -/
def recording {ℓ : Type} (call : ℓ → Call S ε) (moves : W → W → Prop)
    (happens : W → ℓ → W → Prop) : Setting S ε (W × List ℓ) where
  answers o a r b := ∃ l, call l = ⟨o, r⟩ ∧ happens a.1 l b.1 ∧ b.2 = a.2 ++ [l]
  moves a b := moves a.1 b.1 ∧ b.2 = a.2

/-- Each of the calls was permitted after those before it, `h` being what came before them all. -/
def Allowed (P : History S ε → S.Op → Prop) (h cs : History S ε) : Prop :=
  ∀ before c after, cs = before ++ c :: after → P (h ++ before) c.1

theorem allowed_nil {P : History S ε → S.Op → Prop} {h : History S ε} : Allowed P h [] :=
  fun _ _ _ heq => absurd heq.symm (List.append_ne_nil_of_right_ne_nil _ (List.cons_ne_nil _ _))

theorem Allowed.cons {P : History S ε → S.Op → Prop} {h cs : History S ε} {c : Call S ε}
    (hc : P h c.1) (hcs : Allowed P (h ++ [c]) cs) : Allowed P h (c :: cs) := by
  intro before c' after heq
  cases before with
  | nil =>
    obtain ⟨rfl, -⟩ := List.cons.inj heq
    rwa [List.append_nil]
  | cons x before =>
    obtain ⟨rfl, hrest⟩ := List.cons.inj heq
    have hpermit := hcs before c' after hrest
    rwa [List.append_assoc, List.singleton_append] at hpermit

theorem Allowed.of_mem {P : History S ε → S.Op → Prop} {h cs : History S ε} (hcs : Allowed P h cs)
    {c : Call S ε} (hc : c ∈ cs) : ∃ past, P past c.1 := by
  obtain ⟨before, after, heq⟩ := List.append_of_mem hc
  exact ⟨h ++ before, hcs before c after heq⟩

theorem allowed_concat {P : History S ε → S.Op → Prop} {h cs : History S ε} {c : Call S ε} :
    Allowed P h (cs ++ [c]) ↔ Allowed P h cs ∧ P (h ++ cs) c.1 := by
  refine ⟨fun hall => ⟨fun before c' after heq => ?_, hall cs c [] rfl⟩,
    fun ⟨hcs, hc⟩ before c' after heq => ?_⟩
  · exact hall before c' (after ++ [c]) (by rw [heq, List.append_assoc, List.cons_append])
  · rcases List.eq_nil_or_concat after with rfl | ⟨after, c'', rfl⟩
    · obtain ⟨rfl, hlast⟩ := List.append_inj' heq rfl
      obtain rfl := List.singleton_inj.mp hlast
      exact hc
    · rw [List.concat_eq_append, ← List.cons_append, ← List.append_assoc] at heq
      obtain ⟨hfirst, -⟩ := List.append_inj' heq rfl
      exact hcs before c' after hfirst

/-- What holds at the start, and is kept by every step whose call was permitted, holds at the
end. -/
theorem Path.invariant_allowed {ℓ : Type} {call : ℓ → Call S ε} {step : W → ℓ → W → Prop}
    {P : History S ε → S.Op → Prop} {I : List ℓ → W → Prop} {a b : W} {entries : List ℓ}
    (hpath : Path step a entries b) (hcalls : Allowed P [] (entries.map call)) (hstart : I [] a)
    (hstep : ∀ past x t u, I past t → P (past.map call) (call x).1 → step t x u →
      I (past ++ [x]) u) : I entries b := by
  induction hpath with
  | nil => exact hstart
  | @snoc past x t u hpath hst ih =>
    rw [List.map_append, List.map_singleton] at hcalls
    obtain ⟨hpast, hx⟩ := allowed_concat.mp hcalls
    exact hstep past x t u (ih hpast) hx hst

section Recording

variable {ℓ : Type} {call : ℓ → Call S ε} {moves : W → W → Prop} {happens : W → ℓ → W → Prop}
  {p : Prog S ε α} {a b : W × List ℓ} {out : Except ε α}

/-- **A run is a path**, whose labels are what it adds to the record; and of a guarded program each
of them was permitted, and the whole is as it says when it returns. -/
theorem Run.record (h : Run (recording call moves happens) p a out b) :
    ∃ entries, b.2 = a.2 ++ entries ∧ Path (Recorded moves happens) a.1 entries b.1 ∧
      ∀ P R past, p.GuardedTo P R past → Allowed P past (entries.map call) ∧
        ∀ x, out = .ok x → R x (past ++ entries.map call) := by
  induction h with
  | @ret x a =>
    refine ⟨[], (List.append_nil _).symm, .nil, fun P R past hp => ⟨allowed_nil, fun y hy => ?_⟩⟩
    cases hy
    rw [List.map_nil, List.append_nil]
    exact hp
  | @throw e a =>
    exact ⟨[], (List.append_nil _).symm, .nil, fun P R past _ => ⟨allowed_nil, nofun⟩⟩
  | @call o k a a₁ a₂ b r out hmove hans _ ih =>
    obtain ⟨l, hcall, hhappens, hlog⟩ := hans
    obtain ⟨entries, hrecord, hpath, hguard⟩ := ih
    refine ⟨l :: entries, ?_, .cons ⟨a₁.1, hmove.1, hhappens⟩ hpath, fun P R past hp => ?_⟩
    · rw [hrecord, hlog, hmove.2, List.append_assoc, List.singleton_append]
    · obtain ⟨hallowed, hend⟩ := hguard P R (past ++ [⟨o, r⟩]) (hp.2 r)
      rw [List.map_cons, hcall]
      refine ⟨.cons hp.1 hallowed, fun x hx => ?_⟩
      have hR := hend x hx
      rwa [List.append_assoc, List.singleton_append] at hR

end Recording

/-! ## Parts -/

/-- The programs that carry out the calls that stand for components. -/
abbrev Parts (S : Sig) (ε : Type) : Type := (o : S.Op) → Option (Prog S ε (S.Res o))

/-- A call, what it was answered, and the calls made on behalf of it. -/
structure Entry (S : Sig) (ε : Type) where
  call : Call S ε
  inner : History S ε

/-- What the latest call of a record says is said by its last entry, or before. -/
theorem latest_entries {γ : Type} (f : Call S ε → Option γ) (past : List (Entry S ε))
    (x : Entry S ε) : latest f ((past ++ [x]).map Entry.call) =
      (f x.call).or (latest f (past.map Entry.call)) := by
  rw [List.map_append, List.map_singleton, latest_concat]

/-- What a plain call does. -/
def Setting.plain (E : Setting S ε W) (a : W) (c : Call S ε) (b : W) : Prop :=
  E.answers c.1 a c.2 b

/-- What a call does: a plain one what the setting says, and one that has a program whatever that
does. -/
inductive Setting.Carries (E : Setting S ε W) (parts : Parts S ε) : W → Entry S ε → W → Prop
  | plain {o : S.Op} {r : Except ε (S.Res o)} {a b : W} (hnone : parts o = none)
      (h : E.answers o a r b) : Carries E parts a ⟨⟨o, r⟩, []⟩ b
  | part {o : S.Op} {p : Prog S ε (S.Res o)} {r : Except ε (S.Res o)} {a b : W}
      {inner : History S ε} (hsome : parts o = some p)
      (h : Run (recording id E.moves E.plain) p (a, []) r (b, inner)) :
      Carries E parts a ⟨⟨o, r⟩, inner⟩ b

/-- The setting in which the calls of `parts` are carried out by their programs. -/
def Setting.staffed (E : Setting S ε W) (parts : Parts S ε) :
    Setting S ε (W × List (Entry S ε)) :=
  recording Entry.call E.moves (E.Carries parts)

section Parts

variable {E : Setting S ε W} {parts : Parts S ε}

/-- **What a component does is a path**, along the calls it has made, each of which it was permitted
to make. -/
theorem Setting.Carries.record {o : S.Op} {p : Prog S ε (S.Res o)} {r : Except ε (S.Res o)}
    {inner : History S ε} {a b : W} (h : E.Carries parts a ⟨⟨o, r⟩, inner⟩ b)
    (hp : parts o = some p) :
    Path (Recorded E.moves E.plain) a inner b ∧
      ∀ P R, p.GuardedTo P R [] → Allowed P [] inner ∧ ∀ x, r = .ok x → R x inner := by
  cases h with
  | plain hnone h => rw [hp] at hnone; cases hnone
  | part hsome h =>
    obtain rfl := Option.some.inj (hp.symm.trans hsome)
    obtain ⟨entries, hrecord, hpath, hguard⟩ := h.record
    obtain rfl : inner = entries := hrecord
    refine ⟨hpath, fun P R hG => ?_⟩
    have h := hguard P R [] hG
    rwa [List.map_id, List.nil_append] at h

/-- Where others may do more, a call may do more. -/
theorem Setting.Carries.weaken {E' : Setting S ε W} {x : Entry S ε} {a b : W}
    (h : E.Carries parts a x b) (hans : ∀ o a r b, E.answers o a r b → E'.answers o a r b)
    (hmoves : ∀ a b, E.moves a b → E'.moves a b) : E'.Carries parts a x b := by
  cases h with
  | plain hnone h => exact .plain hnone (hans _ _ _ _ h)
  | part hsome h =>
    refine .part hsome (h.weaken (fun o a r b ⟨l, hcall, hplain, hlog⟩ => ?_)
      fun a b hmove => ⟨hmoves _ _ hmove.1, hmove.2⟩)
    exact ⟨l, hcall, hans _ _ _ _ hplain, hlog⟩

/-- A component that raises nothing answers. -/
theorem Setting.Carries.returns {o : S.Op} {p : Prog S ε (S.Res o)} {r : Except ε (S.Res o)}
    {inner : History S ε} {a b : W} (h : E.Carries parts a ⟨⟨o, r⟩, inner⟩ b)
    (hp : parts o = some p) (hreturns : p.Returns) : ∃ x, r = .ok x := by
  cases h with
  | plain hnone h => rw [hp] at hnone; cases hnone
  | part hsome h =>
    obtain rfl := Option.some.inj (hp.symm.trans hsome)
    exact h.returns hreturns

/-- A plain call does what the setting says. -/
theorem Setting.Carries.answers {o : S.Op} {r : Except ε (S.Res o)} {inner : History S ε} {a b : W}
    (h : E.Carries parts a ⟨⟨o, r⟩, inner⟩ b) (hp : parts o = none) :
    E.answers o a r b ∧ inner = [] := by
  cases h with
  | plain hnone h => exact ⟨h, rfl⟩
  | part hsome h => rw [hp] at hsome; cases hsome

/-! ## Playing with parts -/

/-- A script whose calls with a program are answered by playing the program. -/
def enact (parts : Parts S ε) (f : (o : S.Op) → W → Except ε (S.Res o) × W) (o : S.Op)
    (a : W × List (Entry S ε)) : Except ε (S.Res o) × (W × List (Entry S ε)) :=
  match parts o with
  | none =>
    let answer := f o a.1
    (answer.1, answer.2, a.2 ++ [⟨⟨o, answer.1⟩, []⟩])
  | some p =>
    let ending := play (fun _ => f) 0 p a.1
    (ending.1, ending.2, a.2 ++ [⟨⟨o, ending.1⟩, transcript (fun _ => f) 0 p a.1⟩])

/-- Playing a program is a run that records what is called. -/
theorem run_transcript {f : (o : S.Op) → W → Except ε (S.Res o) × W}
    (hmoves : ∀ w, E.moves w w) (hf : ∀ o w, E.answers o w (f o w).1 (f o w).2) (n : Nat)
    (p : Prog S ε α) (w : W) (past : History S ε) :
    Run (recording id E.moves E.plain) p (w, past) (play (fun _ => f) n p w).1
      ((play (fun _ => f) n p w).2, past ++ transcript (fun _ => f) n p w) := by
  induction p generalizing n w past with
  | ret a => rw [transcript, List.append_nil]; exact .ret
  | throw e => rw [transcript, List.append_nil]; exact .throw
  | call o k ih =>
    have hrest := ih (f o w).1 (n + 1) (f o w).2 (past ++ [⟨o, (f o w).1⟩])
    rw [List.append_assoc] at hrest
    have hans : (recording id E.moves E.plain).answers o (w, past) (f o w).1
        ((f o w).2, past ++ [⟨o, (f o w).1⟩]) := ⟨⟨o, (f o w).1⟩, rfl, hf o w, rfl⟩
    exact .call ⟨hmoves w, rfl⟩ hans hrest

/-- What a script with parts answers is what the staffed setting may answer. -/
theorem enact_possible {f : (o : S.Op) → W → Except ε (S.Res o) × W} (hmoves : ∀ w, E.moves w w)
    (hf : ∀ o w, E.answers o w (f o w).1 (f o w).2) (o : S.Op) (a : W × List (Entry S ε)) :
    ∃ a₁, (E.staffed parts).moves a a₁ ∧
      (E.staffed parts).answers o a₁ (enact parts f o a).1 (enact parts f o a).2 := by
  refine ⟨a, ⟨hmoves a.1, rfl⟩, ?_⟩
  cases hp : parts o with
  | none =>
    rw [enact, hp]
    exact ⟨_, rfl, .plain hp (hf o a.1), rfl⟩
  | some q =>
    rw [enact, hp]
    exact ⟨_, rfl, .part hp (run_transcript hmoves hf 0 q a.1 []), rfl⟩

/-- Playing with parts is a run. -/
theorem run_enact {f : (o : S.Op) → W → Except ε (S.Res o) × W} (hmoves : ∀ w, E.moves w w)
    (hf : ∀ o w, E.answers o w (f o w).1 (f o w).2) (p : Prog S ε α)
    (a : W × List (Entry S ε)) :
    Run (E.staffed parts) p a (play (fun _ => enact parts f) 0 p a).1
      (play (fun _ => enact parts f) 0 p a).2 :=
  run_play (E := E.staffed parts) (fun _ => enact_possible hmoves hf) 0 p a

end Parts

end Effect
