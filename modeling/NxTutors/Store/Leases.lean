import Mathlib.Order.Basic
import Mathlib.Logic.Function.Basic

/-!
# Leases

A key is let to whoever bids for it, until a time that the bid says, and the table keeps until
when each key is let. Which bids are granted is for the lessor to say, from that time and the
bid, but none is granted before that time. So two bids of one key that are granted never overlap:
the second comes when the first has ended (`Lessor.granted_apart`).
-/

namespace Store

/-- Who lets keys `κ` for times `T` to bids `β`. -/
structure Lessor (β κ T : Type) [LE T] where
  key : β → κ
  now : β → T
  /-- until when the key is let, if the bid is granted -/
  ends : β → T
  /-- whether a bid is granted, when its key was let until that time -/
  grants : Option T → β → Bool
  /-- none is granted while the key is let -/
  waits : ∀ (u : T) (b : β), grants (some u) b = true → u ≤ now b

namespace Lessor

section Bids

variable {β κ T : Type} [DecidableEq κ] [Preorder T] (L : Lessor β κ T)

/-- A bid that is granted lets its key. -/
def bid (s : κ → Option T) (b : β) : κ → Option T :=
  if L.grants (s (L.key b)) b then Function.update s (L.key b) (some (L.ends b)) else s

/-- The bids that are granted, in their order. -/
def granted : (κ → Option T) → List β → List β
  | _, [] => []
  | s, b :: bs =>
    if L.grants (s (L.key b)) b then b :: granted (L.bid s b) bs else granted (L.bid s b) bs

variable {L} {s : κ → Option T} {b : β} {bs : List β}

theorem bid_of_granted (h : L.grants (s (L.key b)) b = true) :
    L.bid s b = Function.update s (L.key b) (some (L.ends b)) := if_pos h

theorem bid_of_refused (h : ¬ L.grants (s (L.key b)) b = true) : L.bid s b = s := if_neg h

theorem mem_of_granted (h : b ∈ L.granted s bs) : b ∈ bs := by
  induction bs generalizing s with
  | nil => exact h
  | cons x bs ih =>
    rw [granted] at h
    split at h
    · rcases List.mem_cons.mp h with rfl | hrest
      · exact List.mem_cons_self
      · exact List.mem_cons_of_mem _ (ih hrest)
    · exact List.mem_cons_of_mem _ (ih h)

/-- While a key is let until `u`, no bid of it is granted before. -/
theorem granted_after {k : κ} {u : T} (hlater : bs.Pairwise fun a b => L.now a ≤ L.now b)
    (hs : s k = some u) : ∀ b ∈ L.granted s bs, L.key b = k → u ≤ L.now b := by
  induction bs generalizing s with
  | nil => exact fun b hb => absurd hb List.not_mem_nil
  | cons x bs ih =>
    intro b hb hk
    rw [List.pairwise_cons] at hlater
    rw [granted] at hb
    split at hb
    · rename_i hx
      by_cases hxk : L.key x = k
      · -- the key is let anew, at `u` or after it, and every later bid comes later still
        have hux : u ≤ L.now x := L.waits u x (by rw [← hs, ← hxk]; exact hx)
        rcases List.mem_cons.mp hb with rfl | hrest
        · exact hux
        · exact hux.trans (hlater.1 b (mem_of_granted hrest))
      · rcases List.mem_cons.mp hb with rfl | hrest
        · exact absurd hk hxk
        · refine ih hlater.2 ?_ b hrest hk
          rw [bid_of_granted hx, Function.update_of_ne (Ne.symm hxk)]
          exact hs
    · rename_i hx
      refine ih hlater.2 ?_ b hb hk
      rw [bid_of_refused hx]
      exact hs

/-- **Two bids of one key that are granted**: the second comes when the first has ended. -/
theorem granted_apart (hlater : bs.Pairwise fun a b => L.now a ≤ L.now b) (s : κ → Option T) :
    (L.granted s bs).Pairwise fun a b => L.key a = L.key b → L.ends a ≤ L.now b := by
  induction bs generalizing s with
  | nil => exact .nil
  | cons x bs ih =>
    rw [List.pairwise_cons] at hlater
    rw [granted]
    split
    · rename_i hx
      have hlet : L.bid s x (L.key x) = some (L.ends x) := by
        rw [bid_of_granted hx, Function.update_self]
      refine .cons (fun b hb hk => ?_) (ih hlater.2 _)
      exact granted_after hlater.2 hlet b hb hk.symm
    · exact ih hlater.2 _

end Bids

end Lessor

end Store
