import NxTutors.Text.Strings

/-!
# Phrases as whole words

A phrase may occur in a text in the middle of a word. It stands in it as a whole where no word goes
on across either end of it: a character before the phrase and the first of the phrase are not both
word characters, nor are the last of the phrase and a character after it. For a phrase that begins
and ends with word characters that is `\b` on both sides.
-/

namespace Text

/-- A phrase occurs in a text. -/
theorem contains_iff {s phrase : String} :
    contains s phrase = true ↔ phrase.toList <:+: s.toList := by
  rw [contains, List.any_eq_true, List.infix_iff_prefix_suffix]
  constructor
  · rintro ⟨rest, hrest, hpre⟩
    exact ⟨rest, List.isPrefixOf_iff_prefix.mp hpre, (List.mem_tails _ _).mp hrest⟩
  · rintro ⟨rest, hpre, hsuffix⟩
    exact ⟨rest, (List.mem_tails _ _).mpr hsuffix, List.isPrefixOf_iff_prefix.mpr hpre⟩

variable (t : Tables)

/-- No word goes on from one character to the next. -/
def apart (before after : Option Char) : Bool := !(before.any t.isWord && after.any t.isWord)

/-- A phrase stands as a whole at the beginning of what is left of a text. -/
def standsAt (phrase : List Char) (before : Option Char) (rest : List Char) : Bool :=
  phrase.isPrefixOf rest && apart t before phrase.head? &&
    apart t phrase.getLast? (rest.drop phrase.length).head?

/-- Or further on in it. -/
def wholeFrom (phrase : List Char) (before : Option Char) : List Char → Bool
  | [] => standsAt t phrase before []
  | c :: cs => standsAt t phrase before (c :: cs) || wholeFrom phrase (some c) cs

/-- A phrase stands in a text as a whole. -/
def whole (s phrase : String) : Bool := wholeFrom t phrase.toList none s.toList

variable {t}

example : whole ascii "please recommend a tutor" "eco" = false ∧
    whole ascii "eco, please" "eco" = true ∧ whole ascii "ib board" "ib " = true := by decide

end Text
