import Mathlib.Data.List.Chain

/-!
# Labelled paths

A log is a path when each of its entries is a step from where the entries before it led.
`Path step s ls t` grows at the end, as logs do. `Path.replay` says what a log of a system
whose labels name both ends of their steps looks like from outside: it begins where the
system began, each entry begins where the one before ended, and the system is where the last
entry ended.
-/

namespace Effect

variable {σ ℓ : Type} {step : σ → ℓ → σ → Prop}

/-- The labels `ls`, taken in order, lead from `s` to `t`. -/
inductive Path (step : σ → ℓ → σ → Prop) (s : σ) : List ℓ → σ → Prop
  /-- no label leads nowhere -/
  | nil : Path step s [] s
  /-- one more label is one more step -/
  | snoc {ls : List ℓ} {l : ℓ} {t u : σ} (hpath : Path step s ls t) (hstep : step t l u) :
      Path step s (ls ++ [l]) u

namespace Path

variable {s t : σ} {ls : List ℓ}

/-- Every label of a path is a step from somewhere. -/
theorem mem (h : Path step s ls t) {l : ℓ} (hl : l ∈ ls) : ∃ a b, step a l b := by
  induction h with
  | nil => cases hl
  | @snoc ls l' t u hpath hstep ih =>
    rcases List.mem_append.mp hl with hl | hl
    · exact ih hl
    · obtain rfl := List.mem_singleton.mp hl
      exact ⟨t, u, hstep⟩

/-- The empty path leads nowhere. -/
theorem eq_of_nil (h : Path step s ls t) (hls : ls = []) : t = s := by
  cases h with
  | nil => rfl
  | snoc _ _ => simp at hls

/-- One path after another. -/
theorem trans {u : σ} {ls' : List ℓ} (h : Path step s ls t) (h' : Path step t ls' u) :
    Path step s (ls ++ ls') u := by
  induction h' with
  | nil => rwa [List.append_nil]
  | snoc _ hst ih =>
    rw [← List.append_assoc]
    exact .snoc ih hst

/-- One more label at the front. -/
theorem cons {u : σ} {l : ℓ} (hst : step s l t) (h : Path step t ls u) :
    Path step s (l :: ls) u :=
  have hone : Path step s [l] t := .snoc .nil hst
  hone.trans h

/-- Where the labels divide, the path does. -/
theorem append_iff {u : σ} {ls' : List ℓ} :
    Path step s (ls ++ ls') u ↔ ∃ t, Path step s ls t ∧ Path step t ls' u := by
  refine ⟨fun h => ?_, fun ⟨t, h, h'⟩ => h.trans h'⟩
  induction ls' using List.reverseRecOn generalizing u with
  | nil => exact ⟨u, by rwa [List.append_nil] at h, .nil⟩
  | append_singleton ls' l ih =>
    rw [← List.append_assoc] at h
    generalize hls : ls ++ ls' ++ [l] = labels at h
    cases h with
    | nil => simp at hls
    | @snoc xs x v u hpath hst =>
      obtain ⟨rfl, hx⟩ := List.append_inj' hls rfl
      obtain rfl := List.singleton_inj.mp hx
      obtain ⟨t, hfirst, hrest⟩ := ih hpath
      exact ⟨t, hfirst, .snoc hrest hst⟩

/-- Weaker steps. -/
theorem mono {step' : σ → ℓ → σ → Prop} (h : Path step s ls t)
    (hstep : ∀ a l b, step a l b → step' a l b) : Path step' s ls t := by
  induction h with
  | nil => exact .nil
  | snoc _ hst ih => exact .snoc ih (hstep _ _ _ hst)

/-- What holds at the start and is kept by every step holds at the end. -/
theorem invariant {I : σ → Prop} (h : Path step s ls t) (hs : I s)
    (hstep : ∀ a l b, I a → step a l b → I b) : I t := by
  induction h with
  | nil => exact hs
  | snoc _ hst ih => exact hstep _ _ _ ih hst

/-- What holds at the start and is kept by every step with a label in `Q` holds at the end, if the
labels are. -/
theorem invariant_of {I : σ → Prop} {Q : ℓ → Prop} (h : Path step s ls t) (hs : I s)
    (hQ : ∀ l ∈ ls, Q l) (hstep : ∀ a l b, I a → Q l → step a l b → I b) : I t := by
  induction h with
  | nil => exact hs
  | snoc _ hst ih =>
    exact hstep _ _ _ (ih fun l hl => hQ l (List.mem_append_left _ hl)) (hQ _ (by simp)) hst

/-- Where nothing mends what is bad, a path that does not end badly is never bad. -/
theorem avoid {bad : σ → Prop} (h : Path step s ls t)
    (hstep : ∀ a l b, step a l b → bad a → bad b) (ht : ¬ bad t) :
    Path (fun a l b => step a l b ∧ ¬ bad b) s ls t := by
  induction h with
  | nil => exact .nil
  | snoc _ hst ih => exact .snoc (ih fun hb => ht (hstep _ _ _ hst hb)) ⟨hst, ht⟩

/-- Taking steps that a function chooses is a path. -/
theorem foldl {f : σ → ℓ → σ} (s : σ) (ls : List ℓ) (h : ∀ l ∈ ls, ∀ a, step a l (f a l)) :
    Path step s ls (ls.foldl f s) := by
  induction ls using List.reverseRecOn with
  | nil => exact .nil
  | append_singleton ls l ih =>
    rw [List.foldl_append]
    exact .snoc (ih fun x hx => h x (List.mem_append_left _ hx)) (h l (by simp) _)

section Replay

variable {src dst : ℓ → σ}

/-- The state a log leads to, read off its last entry. -/
def replay (dst : ℓ → σ) (s : σ) (ls : List ℓ) : σ := (ls.getLast?.map dst).getD s

@[simp] theorem replay_nil : replay dst s [] = s := rfl

@[simp] theorem replay_concat (l : ℓ) : replay dst s (ls ++ [l]) = dst l := by
  simp [replay]

/-- A path ends where its last entry says. -/
theorem replay_eq (h : Path step s ls t) (hdst : ∀ a l b, step a l b → dst l = b) :
    replay dst s ls = t := by
  cases h with
  | nil => rfl
  | snoc _ hst => rw [replay_concat, hdst _ _ _ hst]

/-- The first entry of a path begins where the path does. -/
theorem head_src (h : Path step s ls t) (hsrc : ∀ a l b, step a l b → src l = a) {l : ℓ}
    (hl : ls.head? = some l) : src l = s := by
  induction h with
  | nil => cases hl
  | @snoc ls l' t u hpath hst ih =>
    cases ls with
    | nil =>
      cases hl
      rw [hsrc _ _ _ hst, hpath.eq_of_nil rfl]
    | cons x xs => exact ih hl

/-- Each entry of a path begins where the one before it ended. -/
theorem chain (h : Path step s ls t) (hsrc : ∀ a l b, step a l b → src l = a)
    (hdst : ∀ a l b, step a l b → dst l = b) :
    ls.IsChain fun x y => src y = dst x := by
  induction h with
  | nil => exact .nil
  | @snoc ls l t u hpath hst ih =>
    refine ih.append (.singleton l) fun x hx y hy => ?_
    obtain rfl : l = y := by simpa using hy
    have hx' : replay dst s ls = dst x := by simp [replay, Option.mem_def.mp hx]
    rw [hsrc _ _ _ hst, ← hpath.replay_eq hdst, hx']

end Replay

end Path

end Effect
