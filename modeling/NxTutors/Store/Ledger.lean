import Mathlib.Data.List.Infix
import Mathlib.Logic.Function.Basic

/-!
# Writers of one ledger

A ledger is a list of entries. A writer reads it, adds entries of its own, and hands them in;
what is handed in comes behind whatever the ledger has by then. What a writer has read is always a
beginning of the ledger (`Ledger.Read`), so a writer that may hand in only while the ledger is as
long as it was read has read everything (`Ledger.Read.all`), and nothing comes between what was
read and what is added.
-/

namespace Store

variable {ρ : Type}

/-- What a writer has read, and what it has added. -/
structure Draft (ρ : Type) where
  read : List ρ
  added : List ρ := []

structure Ledger (ρ : Type) where
  log : List ρ := []
  drafts : Nat → Option (Draft ρ) := fun _ => none

namespace Ledger

/-- A writer reads. -/
def consult (l : Ledger ρ) (i : Nat) : Ledger ρ :=
  { l with drafts := Function.update l.drafts i (some { read := l.log }) }

/-- A writer adds entries. -/
def note (l : Ledger ρ) (i : Nat) (rs : List ρ) : Ledger ρ :=
  let draft := (l.drafts i).map fun d => { d with added := d.added ++ rs }
  { l with drafts := Function.update l.drafts i draft }

/-- A writer hands in. -/
def commit (l : Ledger ρ) (i : Nat) : Ledger ρ :=
  { l with log := l.log ++ ((l.drafts i).map Draft.added).getD [] }

variable {l : Ledger ρ} {i j : Nat} {d : Draft ρ} {rs : List ρ}

@[simp] theorem log_consult : (l.consult i).log = l.log := rfl

@[simp] theorem log_note : (l.note i rs).log = l.log := rfl

@[simp] theorem drafts_commit : (l.commit i).drafts = l.drafts := rfl

@[simp] theorem drafts_consult_self : (l.consult i).drafts i = some { read := l.log } :=
  Function.update_self ..

@[simp] theorem drafts_note_self :
    (l.note i rs).drafts i = (l.drafts i).map fun d => { d with added := d.added ++ rs } :=
  Function.update_self ..

theorem drafts_consult_of_ne (h : j ≠ i) : (l.consult i).drafts j = l.drafts j :=
  Function.update_of_ne h ..

theorem drafts_note_of_ne (h : j ≠ i) : (l.note i rs).drafts j = l.drafts j :=
  Function.update_of_ne h ..

theorem log_commit (hd : l.drafts i = some d) : (l.commit i).log = l.log ++ d.added := by
  unfold commit
  rw [hd]
  rfl

/-- **What has been read is a beginning** of the ledger. -/
def Read (l : Ledger ρ) : Prop := ∀ i d, l.drafts i = some d → d.read <+: l.log

theorem read_empty : ({} : Ledger ρ).Read := nofun

theorem Read.consult (h : l.Read) : (l.consult i).Read := by
  intro j d hd
  by_cases hji : j = i
  · subst hji
    rw [drafts_consult_self] at hd
    cases hd
    exact List.prefix_refl _
  · rw [drafts_consult_of_ne hji] at hd
    exact h j d hd

theorem Read.note (h : l.Read) : (l.note i rs).Read := by
  intro j d hd
  by_cases hji : j = i
  · subst hji
    rw [drafts_note_self] at hd
    obtain ⟨d', hd', rfl⟩ := Option.map_eq_some_iff.mp hd
    exact h j d' hd'
  · rw [drafts_note_of_ne hji] at hd
    exact h j d hd

theorem Read.commit (h : l.Read) : (l.commit i).Read :=
  fun j d hd => (h j d hd).trans (List.prefix_append _ _)

/-- **Who has read as much as there is has read everything.** -/
theorem Read.all (h : l.Read) (hd : l.drafts i = some d) (hlength : d.read.length = l.log.length) :
    d.read = l.log := (h i d hd).eq_of_length hlength

end Ledger

/-! ## The last entries -/

/-- `l[-n:]`. -/
def lastN (n : Nat) (l : List ρ) : List ρ := l.drop (l.length - n)

section LastN

variable {n m : Nat} {l k : List ρ}

theorem length_lastN : (lastN n l).length = min n l.length := by
  rw [lastN, List.length_drop]
  omega

theorem lastN_of_length_le (h : l.length ≤ n) : lastN n l = l := by
  rw [lastN, Nat.sub_eq_zero_of_le h, List.drop_zero]

/-- What comes before the last entries does not matter. -/
theorem lastN_append_of_le (h : n ≤ k.length) : lastN n (l ++ k) = lastN n k := by
  rw [lastN, lastN, List.drop_append, List.length_append,
    List.drop_eq_nil_of_le (by omega), List.nil_append]
  congr 1
  omega

/-- The last entries of what is behind more of the last. -/
theorem lastN_lastN_append (h : n ≤ m) : lastN n (lastN m l ++ k) = lastN n (l ++ k) := by
  by_cases hlong : n ≤ k.length
  · rw [lastN_append_of_le hlong, lastN_append_of_le hlong]
  · have hsplit : l.take (l.length - m) ++ (lastN m l ++ k) = l ++ k := by
      rw [← List.append_assoc, lastN, List.take_append_drop]
    by_cases hshort : l.length ≤ m
    · rw [lastN_of_length_le hshort]
    · have hlength : n ≤ (lastN m l ++ k).length := by
        rw [List.length_append, length_lastN]
        omega
      rw [← hsplit, lastN_append_of_le hlength]

/-- The last entries are the last of more of the last. -/
theorem lastN_lastN (h : n ≤ m) : lastN n (lastN m l) = lastN n l := by
  have happend := lastN_lastN_append (l := l) (k := []) h
  rwa [List.append_nil, List.append_nil] at happend

/-- **When nothing is missing** of the last entries: there is nothing before, or there are enough.
-/
theorem lastN_append_iff : lastN n k = lastN n (l ++ k) ↔ l = [] ∨ n ≤ k.length := by
  constructor
  · intro h
    have hlengths := congrArg List.length h
    rw [length_lastN, length_lastN, List.length_append] at hlengths
    by_cases hnil : l = []
    · exact .inl hnil
    · have hpos := List.length_pos_iff.mpr hnil
      exact .inr (by omega)
  · rintro (rfl | h)
    · rfl
    · exact (lastN_append_of_le h).symm

end LastN

end Store
