import Mathlib.Logic.Basic

/-!
# Programs over an interface

A program that talks to repositories, queues and clocks is a tree: it has an answer, it
has raised, or it has made one call and waits for what comes back. `Prog S ε α` is that
tree, over an arbitrary interface `S` (which calls there are and what each one answers)
and an arbitrary type `ε` of exceptions. Nothing here says what a call does. The module
`Effect.Contract` gives calls a meaning, one world at a time, and the module
`Effect.Pool` lets several programs take turns in one world.

A call may come back with an exception instead of an answer. The continuation of a call
therefore receives an `Except`, and `perform` is the call that passes an exception on to
whoever asked for it: everything between a `perform` and the nearest `tryCatch` is
skipped, as in any language with exceptions.
-/

namespace Effect

/-- An interface: the calls a program may make, and the type of each one's answer. -/
structure Sig where
  /-- the calls -/
  Op : Type
  /-- what a call answers -/
  Res : Op → Type

/-- A program over the interface `S` that returns an `α` or raises an `ε`. -/
inductive Prog (S : Sig) (ε α : Type) : Type
  /-- the program is done and returns `a` -/
  | ret (a : α)
  /-- the program has raised `e` -/
  | throw (e : ε)
  /-- the program calls `o` and goes on with what comes back -/
  | call (o : S.Op) (k : Except ε (S.Res o) → Prog S ε α)

namespace Prog

variable {S T : Sig} {ε α β γ : Type}

/-! ## Sequencing and handling -/

/-- Run `p`, hand its value to `f`; an exception of `p` is the exception of the whole. -/
protected def bind : Prog S ε α → (α → Prog S ε β) → Prog S ε β
  | .ret a, f => f a
  | .throw e, _ => .throw e
  | .call o k, f => .call o fun r => (k r).bind f

/-- Run `p`; if it raises, run the handler instead. -/
protected def tryCatch : Prog S ε α → (ε → Prog S ε α) → Prog S ε α
  | .ret a, _ => .ret a
  | .throw e, h => h e
  | .call o k, h => .call o fun r => (k r).tryCatch h

instance : Monad (Prog S ε) where
  pure := .ret
  bind := Prog.bind

instance : MonadExceptOf ε (Prog S ε) where
  throw := .throw
  tryCatch := Prog.tryCatch

@[simp] theorem pure_eq (a : α) : (pure a : Prog S ε α) = .ret a := rfl

@[simp] theorem ret_bind (a : α) (f : α → Prog S ε β) : Prog.ret a >>= f = f a := rfl

@[simp] theorem throw_bind (e : ε) (f : α → Prog S ε β) :
    Prog.throw e >>= f = .throw e := rfl

@[simp] theorem call_bind (o : S.Op) (k : Except ε (S.Res o) → Prog S ε α)
    (f : α → Prog S ε β) : Prog.call o k >>= f = .call o fun r => k r >>= f := rfl

theorem bind_ret (p : Prog S ε α) : p >>= Prog.ret = p := by
  induction p with
  | ret a => rfl
  | throw e => rfl
  | call o k ih => rw [call_bind]; exact congrArg (Prog.call o) (funext ih)

theorem bind_assoc (p : Prog S ε α) (f : α → Prog S ε β) (g : β → Prog S ε γ) :
    p >>= f >>= g = p >>= fun a => f a >>= g := by
  induction p with
  | ret a => rfl
  | throw e => rfl
  | call o k ih =>
    rw [call_bind, call_bind, call_bind]
    exact congrArg (Prog.call o) (funext ih)

instance : LawfulMonad (Prog S ε) :=
  LawfulMonad.mk' (Prog S ε) bind_ret (fun _ _ => rfl) bind_assoc

/-- Call `o` and pass on what comes back, an exception included. -/
def perform (o : S.Op) : Prog S ε (S.Res o) :=
  .call o fun
    | .ok a => .ret a
    | .error e => .throw e

/-- Run `p` and hand back how it ended, as a value. -/
def attempt : Prog S ε α → Prog S ε (Except ε α)
  | .ret a => .ret (.ok a)
  | .throw e => .ret (.error e)
  | .call o k => .call o fun r => (k r).attempt

@[simp] theorem attempt_ret (a : α) : (Prog.ret a : Prog S ε α).attempt = .ret (.ok a) := rfl

@[simp] theorem attempt_throw (e : ε) :
    (Prog.throw e : Prog S ε α).attempt = .ret (.error e) := rfl

@[simp] theorem attempt_call (o : S.Op) (k : Except ε (S.Res o) → Prog S ε α) :
    (Prog.call o k).attempt = .call o fun r => (k r).attempt := rfl

/-- Handling an exception is looking at how the body ended. -/
theorem tryCatch_eq_attempt (p : Prog S ε α) (h : ε → Prog S ε α) :
    p.tryCatch h = p.attempt >>= fun
      | .ok a => .ret a
      | .error e => h e := by
  induction p with
  | ret a => rfl
  | throw e => rfl
  | call o k ih => exact congrArg (Prog.call o) (funext ih)

/-- The program raises nothing, whatever its calls come back with. -/
def Returns : Prog S ε α → Prop
  | .ret _ => True
  | .throw _ => False
  | .call _ k => ∀ r, (k r).Returns

/-- A sequence of programs that raise nothing raises nothing. -/
theorem Returns.bind {p : Prog S ε α} {f : α → Prog S ε β} (hp : p.Returns)
    (hf : ∀ a, (f a).Returns) : (p >>= f).Returns := by
  induction p with
  | ret a => exact hf a
  | throw e => exact hp.elim
  | call o k ih => exact fun r => ih r (hp r)

/-- An attempt raises nothing. -/
theorem returns_attempt (p : Prog S ε α) : p.attempt.Returns := by
  induction p with
  | ret a => trivial
  | throw e => trivial
  | call o k ih => exact fun r => ih r

/-! ## What a program can do at all

`Within P X R p` bounds a program from the outside, whatever the world: it only makes calls
in `P`, it only returns values in `R`, and as long as the exceptions its calls come back
with are in `X`, so are the ones it raises. -/

/-- The value of an ending is in `R`, or its exception in `X`. -/
def Ended (R : α → Prop) (X : ε → Prop) : Except ε α → Prop
  | .ok a => R a
  | .error e => X e

/-- The calls of `p` are in `P`, its exceptions in `X` if theirs are, its values in `R`. -/
def Within (P : S.Op → Prop) (X : ε → Prop) (R : α → Prop) : Prog S ε α → Prop
  | .ret a => R a
  | .throw e => X e
  | .call o k => P o ∧ ∀ r, (∀ e, r = .error e → X e) → (k r).Within P X R

variable {P : S.Op → Prop} {X : ε → Prop} {R R' : α → Prop}

@[simp] theorem within_ret {a : α} : (Prog.ret a : Prog S ε α).Within P X R ↔ R a := Iff.rfl

@[simp] theorem within_throw {e : ε} : (Prog.throw e : Prog S ε α).Within P X R ↔ X e :=
  Iff.rfl

/-- A single call returns anything. -/
theorem within_perform {o : S.Op} (ho : P o) :
    (perform o : Prog S ε (S.Res o)).Within P X fun _ => True := by
  refine ⟨ho, fun r hr => ?_⟩
  cases r with
  | ok a => trivial
  | error e => exact hr e rfl

/-- A smaller set of values is a stronger bound. -/
theorem Within.mono {p : Prog S ε α} (hp : p.Within P X R) (h : ∀ a, R a → R' a) :
    p.Within P X R' := by
  induction p with
  | ret a => exact h a hp
  | throw e => exact hp
  | call o k ih => exact ⟨hp.1, fun r hr => ih r (hp.2 r hr)⟩

/-- A sequence stays within what its parts stay within. -/
theorem Within.bind {Q : β → Prop} {p : Prog S ε α} {f : α → Prog S ε β}
    (hp : p.Within P X R) (hf : ∀ a, R a → (f a).Within P X Q) : (p >>= f).Within P X Q := by
  induction p with
  | ret a => exact hf a hp
  | throw e => exact hp
  | call o k ih => exact ⟨hp.1, fun r hr => ih r (hp.2 r hr)⟩

/-- Sequencing after a single call. -/
theorem within_perform_bind {Q : β → Prop} {o : S.Op} {f : S.Res o → Prog S ε β} (ho : P o)
    (hf : ∀ a, (f a).Within P X Q) : (perform o >>= f).Within P X Q :=
  (within_perform ho).bind fun a _ => hf a

/-- An attempt hands back the ending of its body. -/
theorem Within.attempt {p : Prog S ε α} (hp : p.Within P X R) :
    p.attempt.Within P X (Ended R X) := by
  induction p with
  | ret a => exact hp
  | throw e => exact hp
  | call o k ih => exact ⟨hp.1, fun r hr => ih r (hp.2 r hr)⟩

/-- Handled exceptions do not count. -/
theorem Within.tryCatch {p : Prog S ε α} {h : ε → Prog S ε α} (hp : p.Within P X R)
    (hh : ∀ e, X e → (h e).Within P X R) : (p.tryCatch h).Within P X R := by
  rw [tryCatch_eq_attempt]
  refine hp.attempt.bind fun out hout => ?_
  cases out with
  | ok a => exact hout
  | error e => exact hh e hout

/-! ## Replacing calls by programs -/

/-- Replace every call of `p` by the program `h` gives for it, over another interface. -/
def interp (h : ∀ o, Prog T ε (S.Res o)) : Prog S ε α → Prog T ε α
  | .ret a => .ret a
  | .throw e => .throw e
  | .call o k => (h o).attempt >>= fun r => (k r).interp h

variable {h : ∀ o, Prog T ε (S.Res o)}

@[simp] theorem interp_ret (a : α) : (Prog.ret a : Prog S ε α).interp h = .ret a := rfl

@[simp] theorem interp_throw (e : ε) : (Prog.throw e : Prog S ε α).interp h = .throw e := rfl

@[simp] theorem interp_call (o : S.Op) (k : Except ε (S.Res o) → Prog S ε α) :
    (Prog.call o k).interp h = (h o).attempt >>= fun r => (k r).interp h := rfl

/-- If the programs put in place of the calls stay within `P`, so does the result. -/
theorem Within.interp {P' : T.Op → Prop} {p : Prog S ε α} (hp : p.Within P X R)
    (hh : ∀ o, P o → (h o).Within P' X fun _ => True) : (p.interp h).Within P' X R := by
  induction p with
  | ret a => exact hp
  | throw e => exact hp
  | call o k ih =>
    refine (hh o hp.1).attempt.bind fun r hr => ih r (hp.2 r fun e he => ?_)
    subst he
    exact hr

end Prog

end Effect
