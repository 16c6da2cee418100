import Mathlib.Data.List.Infix

/-!
# Runs of a machine that takes orders

A machine with states `σ` that takes orders from `ℓ`, each of them in one way, is a function
`f : σ → ℓ → σ`, and a run of it is a list of orders. `Along f P s ls` says that `P` holds of
every order in the state in which it is taken, and `Throughout f I s ls` that `I` holds of every
state of the run, the first and the last included.

`throughout_iff_along` is the rule of the module: if each step keeps `I` exactly when it meets a
condition, then `I` holds throughout a run exactly when the condition is met along it.
`Along.simulate` compares two machines that are given the same orders.
-/

namespace Effect

variable {σ τ ℓ : Type} {f : σ → ℓ → σ}

/-- `P` holds of every order, in the state in which it is taken. -/
def Along (f : σ → ℓ → σ) (P : σ → ℓ → Prop) : σ → List ℓ → Prop
  | _, [] => True
  | s, l :: ls => P s l ∧ Along f P (f s l) ls

instance Along.decidable {P : σ → ℓ → Prop} [∀ s l, Decidable (P s l)] :
    ∀ (s : σ) (ls : List ℓ), Decidable (Along f P s ls)
  | _, [] => .isTrue trivial
  | s, l :: ls =>
    have := Along.decidable (P := P) (f s l) ls
    inferInstanceAs (Decidable (P s l ∧ Along f P (f s l) ls))

/-- `I` holds of every state of the run. -/
def Throughout (f : σ → ℓ → σ) (I : σ → Prop) : σ → List ℓ → Prop
  | s, [] => I s
  | s, l :: ls => I s ∧ Throughout f I (f s l) ls

variable {P Q : σ → ℓ → Prop} {I : σ → Prop}

/-- The state a run begins in is one of its states. -/
theorem Throughout.start {s : σ} {ls : List ℓ} (h : Throughout f I s ls) : I s := by
  cases ls with
  | nil => exact h
  | cons l ls => exact h.1

theorem Throughout.mono {J : σ → Prop} {s : σ} {ls : List ℓ} (h : Throughout f I s ls)
    (himp : ∀ a, I a → J a) : Throughout f J s ls := by
  induction ls generalizing s with
  | nil => exact himp s h
  | cons l ls ih => exact ⟨himp s h.1, ih h.2⟩

/-- The states of a run are those its beginnings lead to. -/
theorem throughout_iff {s : σ} {ls : List ℓ} :
    Throughout f I s ls ↔ ∀ pre, pre <+: ls → I (pre.foldl f s) := by
  induction ls generalizing s with
  | nil =>
    constructor
    · intro h pre hpre
      rw [List.prefix_nil.mp hpre]
      exact h
    · intro h
      exact h [] List.nil_prefix
  | cons l ls ih =>
    constructor
    · rintro ⟨hs, hrest⟩ pre hpre
      cases pre with
      | nil => exact hs
      | cons x pre =>
        obtain ⟨rfl, htail⟩ := List.cons_prefix_cons.mp hpre
        exact ih.mp hrest pre htail
    · intro h
      exact ⟨h [] List.nil_prefix,
        ih.mpr fun pre hpre => h (l :: pre) (List.cons_prefix_cons.mpr ⟨rfl, hpre⟩)⟩

/-- **Where steps keep an invariant exactly under a condition**, it holds throughout a run
exactly if the condition is met along it. -/
theorem throughout_iff_along {s : σ} {ls : List ℓ} (hs : I s) (hQ : Along f Q s ls)
    (hstep : ∀ a l, I a → Q a l → (I (f a l) ↔ P a l)) :
    Throughout f I s ls ↔ Along f P s ls := by
  induction ls generalizing s with
  | nil => exact ⟨fun _ => trivial, fun _ => hs⟩
  | cons l ls ih =>
    constructor
    · rintro ⟨_, hrest⟩
      have hnext : I (f s l) := hrest.start
      exact ⟨(hstep s l hs hQ.1).mp hnext, (ih hnext hQ.2).mp hrest⟩
    · rintro ⟨hP, hrest⟩
      have hnext : I (f s l) := (hstep s l hs hQ.1).mpr hP
      exact ⟨hs, (ih hnext hQ.2).mpr hrest⟩

/-- What holds of every order in every state is met along every run. -/
theorem Along.of_forall {s : σ} {ls : List ℓ} (h : ∀ a l, P a l) : Along f P s ls := by
  induction ls generalizing s with
  | nil => trivial
  | cons l ls ih => exact ⟨h s l, ih⟩

/-- **What orders taken under a condition keep** holds throughout a run along which it is met. -/
theorem Throughout.of_along {s : σ} {ls : List ℓ} (hs : I s) (hP : Along f P s ls)
    (hstep : ∀ a l, I a → P a l → I (f a l)) : Throughout f I s ls := by
  induction ls generalizing s with
  | nil => exact hs
  | cons l ls ih => exact ⟨hs, ih (hstep s l hs hP.1) hP.2⟩

/-- Where orders taken under `P` keep an invariant, what the two imply together holds along the
run. -/
theorem Along.of_invariant {s : σ} {ls : List ℓ} (hs : I s) (hP : Along f P s ls)
    (hstep : ∀ a l, I a → P a l → Q a l ∧ I (f a l)) : Along f Q s ls := by
  induction ls generalizing s with
  | nil => trivial
  | cons l ls ih =>
    have hnext := hstep s l hs hP.1
    exact ⟨hnext.1, ih hnext.2 hP.2⟩

/-- Two conditions that are met along a run are met together. -/
theorem Along.and {s : σ} {ls : List ℓ} (hP : Along f P s ls) (hQ : Along f Q s ls) :
    Along f (fun s l => P s l ∧ Q s l) s ls := by
  induction ls generalizing s with
  | nil => trivial
  | cons l ls ih => exact ⟨⟨hP.1, hQ.1⟩, ih hP.2 hQ.2⟩

/-- Two conditions that agree wherever an invariant holds, which orders taken under the first keep,
agree along a run. -/
theorem Along.iff_of_invariant {s : σ} {ls : List ℓ} (hs : I s)
    (hiff : ∀ a l, I a → (P a l ↔ Q a l)) (hstep : ∀ a l, I a → P a l → I (f a l)) :
    Along f P s ls ↔ Along f Q s ls := by
  induction ls generalizing s with
  | nil => exact Iff.rfl
  | cons l ls ih =>
    constructor
    · rintro ⟨hP, hrest⟩
      exact ⟨(hiff s l hs).mp hP, (ih (hstep s l hs hP)).mp hrest⟩
    · rintro ⟨hQ, hrest⟩
      have hP := (hiff s l hs).mpr hQ
      exact ⟨hP, (ih (hstep s l hs hP)).mpr hrest⟩

/-- **Two machines on the same orders.** If related states stay related, by orders taken under
`P`, and `A` holds of any two related states and such an order, it holds along the run. -/
theorem Along.simulate {g : τ → ℓ → τ} {R : σ → τ → Prop} {A : σ → τ → ℓ → Prop}
    {s : σ} {t : τ} {ls : List ℓ} (hR : R s t) (hP : Along f P s ls)
    (hstep : ∀ a b l, R a b → P a l → A a b l ∧ R (f a l) (g b l)) :
    Along (fun ab l => (f ab.1 l, g ab.2 l)) (fun ab l => A ab.1 ab.2 l) (s, t) ls := by
  induction ls generalizing s t with
  | nil => trivial
  | cons l ls ih =>
    have hnext := hstep s t l hR hP.1
    exact ⟨hnext.1, ih hnext.2 hP.2⟩

/-- **Two machines that agree under a condition only.** If in related states `A` holds exactly of
the orders that meet `P`, and those keep the states related, it holds along a run exactly if `P`
does. -/
theorem Along.simulate_iff {g : τ → ℓ → τ} {R : σ → τ → Prop} {A : σ → τ → ℓ → Prop}
    {s : σ} {t : τ} {ls : List ℓ} (hR : R s t) (hiff : ∀ a b l, R a b → (A a b l ↔ P a l))
    (hstep : ∀ a b l, R a b → P a l → R (f a l) (g b l)) :
    Along (fun ab l => (f ab.1 l, g ab.2 l)) (fun ab l => A ab.1 ab.2 l) (s, t) ls ↔
      Along f P s ls := by
  constructor
  · intro h
    induction ls generalizing s t with
    | nil => trivial
    | cons l ls ih =>
      have hP : P s l := (hiff s t l hR).mp h.1
      exact ⟨hP, ih (hstep s t l hR hP) h.2⟩
  · intro h
    exact .simulate hR h fun a b l hab hP => ⟨(hiff a b l hab).mpr hP, hstep a b l hab hP⟩

end Effect
