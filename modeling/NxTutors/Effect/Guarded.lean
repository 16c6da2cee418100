import NxTutors.Effect.Logged

/-!
# Calls that come after others

What a program has called so far, and what it was answered, is its *history*. `Guarded P h p`
says that with the history `h` behind it, `p` makes no call that `P` does not permit after the
calls made until then, whatever these are answered. It is a bound on the program alone, computed by
recursion on it, as `Within` is; a gate that comes before a call is a fact about the history the
call is permitted after.

In a pool that keeps a log, the history of a program is what the log says about its name. The
rule of the module is `Pool.Reach.guarded`: if whoever enters is guarded, every call in the log
was permitted after the calls its caller had made before, and an invariant that permitted calls
keep holds of the world and the log.
-/

namespace Effect

variable {S : Sig} {ε α β W τ : Type}

/-- The calls of a program, the latest last. -/
abbrev History (S : Sig) (ε : Type) : Type := List (Call S ε)

namespace Prog

/-- Each call of `p` is permitted after those in `h` and those `p` made before it. -/
def Guarded (P : History S ε → S.Op → Prop) : History S ε → Prog S ε α → Prop
  | _, .ret _ => True
  | _, .throw _ => True
  | h, .call o k => P h o ∧ ∀ r, Guarded P (h ++ [⟨o, r⟩]) (k r)

variable {P : History S ε → S.Op → Prop} {h : History S ε}

@[simp] theorem guarded_ret (a : α) : (Prog.ret a : Prog S ε α).Guarded P h := trivial

@[simp] theorem guarded_throw (e : ε) : (Prog.throw e : Prog S ε α).Guarded P h := trivial

/-- A permitted call, and what comes after its answer. -/
theorem guarded_perform_bind {o : S.Op} {f : S.Res o → Prog S ε β} (ho : P h o)
    (hf : ∀ a, (f a).Guarded P (h ++ [⟨o, .ok a⟩])) : (perform o >>= f).Guarded P h := by
  refine ⟨ho, fun r => ?_⟩
  cases r with
  | ok a => exact hf a
  | error e => trivial

/-- The same, of a program whose value, and history when it is done, are in `R`. Of its
exceptions nothing is said. -/
def GuardedTo (P : History S ε → S.Op → Prop) (R : α → History S ε → Prop) :
    History S ε → Prog S ε α → Prop
  | h, .ret a => R a h
  | _, .throw _ => True
  | h, .call o k => P h o ∧ ∀ r, GuardedTo P R (h ++ [⟨o, r⟩]) (k r)

variable {R R' : α → History S ε → Prop} {Q : β → History S ε → Prop}

theorem GuardedTo.guarded {p : Prog S ε α} (hp : p.GuardedTo P R h) : p.Guarded P h := by
  induction p generalizing h with
  | ret a => trivial
  | throw e => trivial
  | call o k ih => exact ⟨hp.1, fun r => ih r (hp.2 r)⟩

theorem GuardedTo.mono {p : Prog S ε α} (hp : p.GuardedTo P R h) (hR : ∀ a h', R a h' → R' a h') :
    p.GuardedTo P R' h := by
  induction p generalizing h with
  | ret a => exact hR a h hp
  | throw e => trivial
  | call o k ih => exact ⟨hp.1, fun r => ih r (hp.2 r)⟩

/-- What a program has called is never taken back. -/
theorem GuardedTo.history {p : Prog S ε α} (hp : p.GuardedTo P R h) :
    p.GuardedTo P (fun a h' => R a h' ∧ h <+: h') h := by
  induction p generalizing h with
  | ret a => exact ⟨hp, List.prefix_rfl⟩
  | throw e => trivial
  | call o k ih =>
    refine ⟨hp.1, fun r => (ih r (hp.2 r)).mono fun a h' hR => ?_⟩
    exact ⟨hR.1, (List.prefix_append _ _).trans hR.2⟩

/-- A sequence is guarded if its parts are, the second after whatever the first leaves. -/
theorem GuardedTo.bind {p : Prog S ε α} {f : α → Prog S ε β} (hp : p.GuardedTo P R h)
    (hf : ∀ a h', R a h' → (f a).GuardedTo P Q h') : (p >>= f).GuardedTo P Q h := by
  induction p generalizing h with
  | ret a => exact hf a h hp
  | throw e => trivial
  | call o k ih => exact ⟨hp.1, fun r => ih r (hp.2 r)⟩

/-- A handler is guarded after whatever its body has called. -/
theorem GuardedTo.tryCatch {p : Prog S ε α} {f : ε → Prog S ε α} (hp : p.GuardedTo P R h)
    (hf : ∀ e h', (f e).GuardedTo P R h') : (p.tryCatch f).GuardedTo P R h := by
  induction p generalizing h with
  | ret a => exact hp
  | throw e => exact hf e h
  | call o k ih => exact ⟨hp.1, fun r => ih r (hp.2 r)⟩

/-- An attempt hands back an exception, too. -/
theorem GuardedTo.attempt {p : Prog S ε α} (hp : p.GuardedTo P R h) :
    p.attempt.GuardedTo P (fun out h' => ∀ a, out = .ok a → R a h') h := by
  induction p generalizing h with
  | ret a => exact fun _ heq => Except.ok.inj heq ▸ hp
  | throw e => exact fun _ heq => nomatch heq
  | call o k ih => exact ⟨hp.1, fun r => ih r (hp.2 r)⟩

theorem guardedTo_perform {o : S.Op} {R : S.Res o → History S ε → Prop} (ho : P h o)
    (hR : ∀ a, R a (h ++ [⟨o, .ok a⟩])) : (perform o).GuardedTo P R h := by
  refine ⟨ho, fun r => ?_⟩
  cases r with
  | ok a => exact hR a
  | error e => trivial

theorem guardedTo_perform_bind {o : S.Op} {f : S.Res o → Prog S ε β} (ho : P h o)
    (hf : ∀ a, (f a).GuardedTo P Q (h ++ [⟨o, .ok a⟩])) :
    (perform o >>= f).GuardedTo P Q h := by
  refine ⟨ho, fun r => ?_⟩
  cases r with
  | ok a => exact hf a
  | error e => trivial

/-- A call whose exception is looked at, and what comes after either ending. -/
theorem guardedTo_attempt_bind {o : S.Op} {f : Except ε (S.Res o) → Prog S ε β} (ho : P h o)
    (hf : ∀ r, (f r).GuardedTo P Q (h ++ [⟨o, r⟩])) :
    ((perform o).attempt >>= f).GuardedTo P Q h := by
  refine ⟨ho, fun r => ?_⟩
  cases r with
  | ok a => exact hf (.ok a)
  | error e => exact hf (.error e)

/-- What a program stays within whatever its calls raise, it may call at any time. -/
theorem Within.guardedTo {P : S.Op → Prop} {R : α → Prop} {p : Prog S ε α}
    (hp : p.Within P (fun _ => True) R) :
    p.GuardedTo (fun _ o => P o) (fun a _ => R a) h := by
  induction p generalizing h with
  | ret a => exact hp
  | throw e => trivial
  | call o k ih => exact ⟨hp.1, fun r => ih r (hp.2 r fun _ _ => trivial)⟩

/-- The same, with the calls that it has added. -/
theorem Within.guardedTo_rest {C : S.Op → Prop} {R : α → Prop} {p : Prog S ε α}
    (hp : p.Within C (fun _ => True) R) (hC : ∀ h' o, C o → P h' o) :
    p.GuardedTo P (fun a h' => R a ∧ ∃ rest, h' = h ++ rest ∧ ∀ c ∈ rest, C c.1) h := by
  induction p generalizing h with
  | ret a => exact ⟨hp, [], (List.append_nil h).symm, fun c hc => absurd hc List.not_mem_nil⟩
  | throw e => trivial
  | call o k ih =>
    refine ⟨hC h o hp.1, fun r => (ih r (hp.2 r fun _ _ => trivial)).mono ?_⟩
    rintro a h' ⟨hR, rest, rfl, hrest⟩
    refine ⟨hR, ⟨o, r⟩ :: rest, by rw [List.append_assoc]; rfl, fun c hc => ?_⟩
    rcases List.mem_cons.mp hc with rfl | hc
    · exact hp.1
    · exact hrest c hc

end Prog

/-! ## What a history says last -/

/-- What the latest of the calls that `f` reads something off says. -/
def latest {γ : Type} (f : Call S ε → Option γ) (h : History S ε) : Option γ :=
  (h.filterMap f).getLast?

section Latest

variable {γ : Type} {f : Call S ε → Option γ} {h : History S ε}

theorem latest_concat (f : Call S ε → Option γ) (h : History S ε) (c : Call S ε) :
    latest f (h ++ [c]) = (f c).or (latest f h) := by
  rw [latest, List.filterMap_append]
  cases hc : f c with
  | none => simp [latest, hc]
  | some x => simp [hc]

/-- A call that says nothing changes nothing. -/
theorem latest_concat_none {c : Call S ε} (hc : f c = none) :
    latest f (h ++ [c]) = latest f h := by
  rw [latest_concat, hc, Option.none_or]

/-- Calls that say nothing change nothing. -/
theorem latest_append_none {rest : History S ε} (hrest : ∀ c ∈ rest, f c = none) :
    latest f (h ++ rest) = latest f h := by
  rw [latest, List.filterMap_append, List.filterMap_eq_nil_iff.mpr hrest, List.append_nil, latest]

/-- What is said last is said by some call. -/
theorem exists_of_latest {x : γ} (hx : latest f h = some x) : ∃ c ∈ h, f c = some x :=
  List.mem_filterMap.mp (List.mem_of_getLast? hx)

theorem latest_concat_some {c : Call S ε} {x : γ} (hc : f c = some x) :
    latest f (h ++ [c]) = some x := by
  rw [latest_concat, hc, Option.some_or]

end Latest

/-- The calls of a program that is played against a script. -/
def transcript (f : Nat → (o : S.Op) → W → Except ε (S.Res o) × W) :
    Nat → Prog S ε α → W → History S ε
  | _, .ret _, _ => []
  | _, .throw _, _ => []
  | n, .call o k, w =>
    let answer := f n o w
    ⟨o, answer.1⟩ :: transcript f (n + 1) (k answer.1) answer.2

/-! ## Pools -/

namespace Pool

/-- Whoever else runs has another name. -/
theorem ne_of_names {w : W} {l r : List (τ × Prog S ε α)} {fin : List (τ × Except ε α)} {t : τ}
    {p : Prog S ε α} (hnodup : (names ⟨w, l ++ (t, p) :: r, fin⟩).Nodup) {y : τ × Prog S ε α}
    (hy : y ∈ l ++ r) : t ≠ y.1 := by
  have hrunning : (l.map Prod.fst ++ t :: r.map Prod.fst).Nodup := by
    simpa [names] using hnodup.sublist (List.sublist_append_right _ _)
  have hnot : t ∉ (l ++ r).map Prod.fst := by
    rw [List.map_append]
    exact (List.nodup_cons.mp (List.perm_middle.nodup_iff.mp hrunning)).1
  exact fun heq => hnot (heq ▸ List.mem_map_of_mem hy)

/-- An entry of a log that has grown by one is the new one, or was there. -/
theorem split_concat {γ : Type} {log before after : List γ} {c x : γ}
    (h : log ++ [c] = before ++ x :: after) :
    before = log ∧ x = c ∧ after = [] ∨
      ∃ rest, log = before ++ x :: rest ∧ after = rest ++ [c] := by
  rcases List.eq_nil_or_concat after with rfl | ⟨rest, z, rfl⟩
  · obtain ⟨rfl, hlast⟩ := List.append_inj' h rfl
    exact .inl ⟨rfl, (List.singleton_inj.mp hlast).symm, rfl⟩
  · have hcons : log ++ [c] = (before ++ x :: rest) ++ [z] := by simpa using h
    obtain ⟨hlog, hlast⟩ := List.append_inj' hcons rfl
    exact .inr ⟨rest, hlog, by rw [List.singleton_inj.mp hlast, List.concat_eq_append]⟩

end Pool

section Pools

variable [DecidableEq τ]

/-- The history of a name, as the log has it. -/
def own (t : τ) (log : List (τ × Call S ε)) : History S ε :=
  (log.filter fun x => x.1 = t).map Prod.snd

@[simp] theorem own_nil (t : τ) : own t ([] : List (τ × Call S ε)) = [] := rfl

theorem own_append (t : τ) (log more : List (τ × Call S ε)) :
    own t (log ++ more) = own t log ++ own t more := by
  simp [own]

theorem own_concat_self (t : τ) (log : List (τ × Call S ε)) (c : Call S ε) :
    own t (log ++ [(t, c)]) = own t log ++ [c] := by
  simp [own]

theorem own_concat_of_ne {t t' : τ} (h : t' ≠ t) (log : List (τ × Call S ε)) (c : Call S ε) :
    own t (log ++ [(t', c)]) = own t log := by
  simp [own, h]

/-- What others call is not in a history. -/
theorem own_map_of_ne {t t' : τ} (h : t' ≠ t) (calls : History S ε) :
    own t (calls.map fun c => (t', c)) = [] := by
  have hnone : (calls.map fun c => (t', c)).filter (fun x => x.1 = t) = [] := by
    refine List.filter_eq_nil_iff.mpr fun x hx => ?_
    obtain ⟨c, -, rfl⟩ := List.mem_map.mp hx
    simpa using h
  rw [own, hnone, List.map_nil]

/-- Where a history divides, the log does. -/
theorem own_split {t : τ} {log : List (τ × Call S ε)} {before rest : History S ε} {c : Call S ε}
    (h : own t log = before ++ c :: rest) :
    ∃ l r, log = l ++ (t, c) :: r ∧ own t l = before ∧ own t r = rest := by
  rw [own, List.map_eq_append_iff] at h
  obtain ⟨a, b, hfilter, ha, hb⟩ := h
  obtain ⟨l, m, rfl, hl, hm⟩ := List.filter_eq_append_iff.mp hfilter
  obtain ⟨x, b', rfl, rfl, hb'⟩ := List.map_eq_cons_iff.mp hb
  obtain ⟨skip, r, rfl, hskip, hx, hr⟩ := List.filter_eq_cons_iff.mp hm
  have hname : x.1 = t := of_decide_eq_true hx
  have hnone : skip.filter (fun x => x.1 = t) = [] :=
    List.filter_eq_nil_iff.mpr fun y hy => by simpa using hskip y hy
  refine ⟨l ++ skip, r, by simp [← hname], ?_, by rw [own, hr, hb']⟩
  rw [own, List.filter_append, hnone, List.append_nil, hl, ha]

theorem mem_own {t : τ} {log : List (τ × Call S ε)} {c : Call S ε} :
    c ∈ own t log ↔ (t, c) ∈ log := by
  simp [own]

/-- The same arena, with a log of who made which call; nobody enters under a name that is in the
log. -/
def Arena.traced (A : Arena S ε α W τ) : Arena S ε α (W × List (τ × Call S ε)) τ where
  answers t o a r b := A.answers t o a.1 r b.1 ∧ b.2 = a.2 ++ [(t, ⟨o, r⟩)]
  enters t p a := A.enters t p a.1 ∧ own t a.2 = []
  outside a b := A.outside a.1 b.1 ∧ b.2 = a.2

namespace Pool

variable {A : Arena S ε α W τ} {P : τ → History S ε → S.Op → Prop}
  {I : W × List (τ × Call S ε) → Prop}

/-- The state of a pool of guarded programs. -/
structure Watched (P : τ → History S ε → S.Op → Prop) (I : W × List (τ × Call S ε) → Prop)
    (p : Pool S ε α (W × List (τ × Call S ε)) τ) : Prop where
  /-- the world and the log keep the invariant -/
  inv : I p.world
  /-- whoever runs is guarded, with its history behind it -/
  running : ∀ x ∈ p.running, x.2.Guarded (P x.1) (own x.1 p.world.2)
  /-- whatever has been called was permitted -/
  permitted : ∀ before t o r after, p.world.2 = before ++ (t, ⟨o, r⟩) :: after →
    P t (own t before) o

/-- **The rule of the module.** If whoever enters is guarded, and permitted calls and the outside
keep the invariant, every pool that can be reached is watched. -/
theorem Reach.guarded {w : W} {p : Pool S ε α (W × List (τ × Call S ε)) τ}
    (henters : ∀ t q w, A.enters t q w → q.Guarded (P t) []) (hw : I (w, []))
    (hcall : ∀ t o a r b log, P t (own t log) o → I (a, log) → A.answers t o a r b →
      I (b, log ++ [(t, ⟨o, r⟩)]))
    (houtside : ∀ a b log, I (a, log) → A.outside a b → I (b, log))
    (h : Reach A.traced (start (w, [])) p) : Watched P I p := by
  induction h with
  | refl =>
    refine ⟨hw, fun x hx => absurd hx List.not_mem_nil, fun before t o r after heq => ?_⟩
    exact absurd heq.symm (List.append_ne_nil_of_right_ne_nil _ (List.cons_ne_nil _ _))
  | @tail p q hreach hstep ih =>
    have hnodup := Reach.nodup hreach
    obtain ⟨hinv, hrun, hlog⟩ := ih
    cases hstep with
    | @enter w run fin t q henter hfresh =>
      refine ⟨hinv, fun x hx => ?_, hlog⟩
      rcases List.mem_append.mp hx with hx | hx
      · exact hrun x hx
      · obtain rfl := List.mem_singleton.mp hx
        change q.Guarded (P t) (own t w.2)
        rw [henter.2]
        exact henters t q w.1 henter.1
    | @call a b l r fin t o k res hans =>
      obtain ⟨w, log⟩ := a
      obtain ⟨w', log'⟩ := b
      obtain ⟨hans, rfl⟩ := hans
      obtain ⟨hpermit, hrest⟩ := hrun (t, .call o k) (by simp)
      -- the caller's history has grown; the others have other names
      have hother : ∀ y ∈ l ++ r, y.2.Guarded (P y.1) (own y.1 (log ++ [(t, ⟨o, res⟩)])) := by
        intro y hy
        rw [own_concat_of_ne (ne_of_names hnodup hy)]
        exact hrun y (Pool.mem_of_others hy)
      refine ⟨hcall t o w res w' log hpermit hinv hans, fun x hx => ?_, ?_⟩
      · rcases List.mem_append.mp hx with hx | hx
        · exact hother x (List.mem_append_left _ hx)
        · rcases List.mem_cons.mp hx with rfl | hx
          · change (k res).Guarded (P t) (own t (log ++ [(t, ⟨o, res⟩)]))
            rw [own_concat_self]
            exact hrest res
          · exact hother x (List.mem_append_right _ hx)
      · intro before t' o' r' after heq
        rcases split_concat heq with ⟨rfl, hx, -⟩ | ⟨rest, hbefore, -⟩
        · cases hx
          exact hpermit
        · exact hlog before t' o' r' rest hbefore
    | @finish w l r fin t q out hend =>
      exact ⟨hinv, fun x hx => hrun x (Pool.mem_of_others hx), hlog⟩
    | @crash w l r fin y =>
      exact ⟨hinv, fun x hx => hrun x (Pool.mem_of_others hx), hlog⟩
    | @outside a b run fin hout =>
      obtain ⟨w, log⟩ := a
      obtain ⟨w', log'⟩ := b
      obtain ⟨hout, rfl⟩ := hout
      exact ⟨houtside w w' log' hinv hout, hrun, hlog⟩

/-- A program that enters an idle pool, and is played undisturbed, leaves it idle, and its calls
in the log. -/
theorem Reach.traced_play {f : Nat → (o : S.Op) → W → Except ε (S.Res o) × W} {t : τ}
    (hf : ∀ n o w, A.answers t o w (f n o w).1 (f n o w).2) {p : Prog S ε α} {w : W}
    (log : List (τ × Call S ε)) (fin : List (τ × Except ε α)) (henter : A.enters t p w)
    (hlog : own t log = []) (hfresh : t ∉ fin.map Prod.fst) :
    Reach A.traced ⟨(w, log), [], fin⟩
      ⟨((play f 0 p w).2, log ++ (transcript f 0 p w).map fun c => (t, c)), [],
        fin ++ [(t, (play f 0 p w).1)]⟩ := by
  have hrun : ∀ (p : Prog S ε α) n w log, Run ⟨A.traced.answers t, Eq⟩ p (w, log)
      (play f n p w).1
      ((play f n p w).2, log ++ (transcript f n p w).map fun c => (t, c)) := by
    intro p
    induction p with
    | ret a => intro n w log; rw [transcript, List.map_nil, List.append_nil]; exact .ret
    | throw e => intro n w log; rw [transcript, List.map_nil, List.append_nil]; exact .throw
    | call o k ih =>
      intro n w log
      have hrest := ih (f n o w).1 (n + 1) (f n o w).2 (log ++ [(t, ⟨o, (f n o w).1⟩)])
      rw [List.append_assoc] at hrest
      exact .call rfl ⟨hf n o w, rfl⟩ hrest
  exact Reach.enter_run ⟨henter, hlog⟩ hfresh (hrun p 0 w log) (fun _ _ h => h) rfl

/-- What programs leave that are played one after the other, and the log of their calls. -/
def tracePlays (f : Nat → (o : S.Op) → W → Except ε (S.Res o) × W) :
    List (τ × Prog S ε α) → W × List (τ × Call S ε) → W × List (τ × Call S ε)
  | [], a => a
  | (t, p) :: rest, (w, log) =>
    tracePlays f rest ((play f 0 p w).2, log ++ (transcript f 0 p w).map fun c => (t, c))

/-- Programs that enter an idle pool one after the other, and are played undisturbed. -/
theorem Reach.traced_plays {f : Nat → (o : S.Op) → W → Except ε (S.Res o) × W}
    {programs : List (τ × Prog S ε α)}
    (hf : ∀ t n o w, A.answers t o w (f n o w).1 (f n o w).2)
    (henter : ∀ x ∈ programs, ∀ w, A.enters x.1 x.2 w) (hnodup : (programs.map Prod.fst).Nodup)
    (a : W × List (τ × Call S ε)) (fin : List (τ × Except ε α))
    (hlog : ∀ x ∈ programs, own x.1 a.2 = []) (hfresh : ∀ x ∈ programs, x.1 ∉ fin.map Prod.fst) :
    ∃ fin', Reach A.traced ⟨a, [], fin⟩ ⟨tracePlays f programs a, [], fin'⟩ := by
  induction programs generalizing a fin with
  | nil => exact ⟨fin, .refl⟩
  | cons x rest ih =>
    obtain ⟨t, p⟩ := x
    obtain ⟨w, log⟩ := a
    rw [List.map_cons, List.nodup_cons] at hnodup
    have hother : ∀ y ∈ rest, t ≠ y.1 := by
      intro y hy heq
      exact hnodup.1 (List.mem_map.mpr ⟨y, hy, heq.symm⟩)
    have hfirst := Reach.traced_play (A := A) (hf t) log fin
      (henter (t, p) List.mem_cons_self w) (hlog (t, p) List.mem_cons_self)
      (hfresh (t, p) List.mem_cons_self)
    have hlogs : ∀ y ∈ rest,
        own y.1 (log ++ (transcript f 0 p w).map fun c => (t, c)) = [] := by
      intro y hy
      rw [own_append, hlog y (List.mem_cons_of_mem _ hy), own_map_of_ne (hother y hy),
        List.nil_append]
    have hnames : ∀ y ∈ rest, y.1 ∉ (fin ++ [(t, (play f 0 p w).1)]).map Prod.fst := by
      intro y hy hmem
      rw [List.map_append, List.mem_append] at hmem
      rcases hmem with hmem | hmem
      · exact hfresh y (List.mem_cons_of_mem _ hy) hmem
      · exact hother y hy (List.mem_singleton.mp hmem).symm
    obtain ⟨fin', hrest⟩ := ih (fun y hy => henter y (List.mem_cons_of_mem _ hy)) hnodup.2
      ((play f 0 p w).2, log ++ (transcript f 0 p w).map fun c => (t, c))
      (fin ++ [(t, (play f 0 p w).1)]) hlogs hnames
    exact ⟨fin', hfirst.trans hrest⟩

end Pool

end Pools

end Effect
