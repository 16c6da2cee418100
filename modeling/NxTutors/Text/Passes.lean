import NxTutors.Text.RegexRules
import NxTutors.Text.Substitution

/-!
# Several rules, one after another

A text is gone over once for each of several rules: all that a rule finds is replaced, and the next
rule sees what the ones before it have left. A pattern may also look at the character before it and
at what is ahead of it, without taking them in.
-/

namespace Text

namespace Re

/-- The first of several patterns that leads on. -/
def oneOf : List Re → Re
  | [] => .one fun _ => false
  | [a] => a
  | a :: as => .alt a (oneOf as)

/-- A pattern so many times. -/
def times (a : Re) : Nat → Re
  | 0 => .empty
  | n + 1 => .seq a (times a n)

/-- A pattern as many times as possible, but no more than so many. -/
def upTo (a : Re) : Nat → Re
  | 0 => .empty
  | n + 1 => .opt (.seq a (upTo a n))

/-- So many characters of a class, and as many more as lead on. -/
def atLeast (n : Nat) (p : Char → Bool) : Re := .seq (times (.one p) n) (.many p)

/-- As few characters as lead on, and no more than so many. -/
def fewest : Nat → Re
  | 0 => .empty
  | n + 1 => .alt .empty (.seq (.one fun _ => true) (fewest n))

/-- A word of small letters with its case ignored, a Kelvin sign being a `k`. -/
def ignoringCase (s : String) : Re :=
  s.toList.foldr (fun c r => .seq
    (if c = 'k' then .alt (.ignoreCase c) (.one (· = '\u212a')) else .ignoreCase c) r) .empty

end Re

/-- A pattern with a look at the character before it, and one at what is ahead of it. -/
structure Pattern where
  body : Re
  behind : Option Char → Bool := fun _ => true
  ahead : List Char → Bool := fun _ => true

/-- At the first way it matches that ends in front of what it wants. -/
def Pattern.finder (t : Tables) (a : Pattern) : Finder := fun before rest =>
  if a.behind before then
    (a.body.run t (fun end' => if a.ahead end'.rest then some end' else none)
      ⟨before, rest, fun _ => none⟩).map fun end' => rest.length - end'.rest.length
  else none

/-- A rule: what is found, and what it is replaced by. -/
structure Rule where
  find : Finder
  token : String

/-- `pattern.sub(token, text)`. -/
def Rule.apply (r : Rule) (s : List Char) : List Char := (subn r.find r.token.toList s).1

/-- All rules, one after another. -/
def passes (rules : List Rule) (s : List Char) : List Char := rules.foldl (fun s r => r.apply s) s

/-- `pattern.search(text)`: something is found, here or later. -/
def occursFrom (find : Finder) (before : Option Char) : List Char → Bool
  | [] => (find before []).isSome
  | c :: cs => (find before (c :: cs)).isSome || occursFrom find (some c) cs

def occurs (find : Finder) (s : List Char) : Bool := occursFrom find none s

/-- What is found somewhere is found at a position. -/
theorem of_occursFrom {find : Finder} {before : Option Char} {s : List Char}
    (h : occursFrom find before s = true) :
    ∃ a b, s = a ++ b ∧ (find (a.getLast?.or before) b).isSome = true := by
  induction s generalizing before with
  | nil => exact ⟨[], [], rfl, h⟩
  | cons c cs ih =>
    rw [occursFrom, Bool.or_eq_true] at h
    rcases h with h | h
    · exact ⟨[], c :: cs, rfl, h⟩
    · obtain ⟨a, b, rfl, hfound⟩ := ih h
      exact ⟨c :: a, b, rfl, Re.getLast?_cons_or ▸ hfound⟩

/-- Nothing is found in a text that has no character of a kind that the pattern needs. -/
theorem occurs_eq_false {t : Tables} {a : Pattern} {P : Char → Prop} {s : List Char}
    (ha : a.body.Needs P) (hs : ∀ c ∈ s, ¬P c) : occurs (a.finder t) s = false := by
  rw [Bool.eq_false_iff]
  intro h
  obtain ⟨u, v, rfl, hfound⟩ := of_occursFrom h
  rw [Pattern.finder] at hfound
  split at hfound
  · rw [Option.isSome_map] at hfound
    obtain ⟨end', hrun⟩ := Option.isSome_iff_exists.mp hfound
    obtain ⟨end₁, hleads, -⟩ := Re.run_eq_some hrun
    obtain ⟨cs, hcs, hspells⟩ := hleads.spells
    obtain ⟨c, hc, hP⟩ := hspells.needs ha
    have hcs' : v = cs ++ end₁.rest := hcs
    refine hs c ?_ hP
    rw [hcs']
    exact List.mem_append_right u (List.mem_append_left _ hc)
  · cases hfound

theorem occurs_finder_eq_false {t : Tables} {a : Re} {P : Char → Prop} {s : List Char}
    (ha : a.Needs P) (hs : ∀ c ∈ s, ¬P c) : occurs (a.finder t) s = false :=
  @occurs_eq_false t ⟨a, fun _ => true, fun _ => true⟩ P s ha hs

end Text
