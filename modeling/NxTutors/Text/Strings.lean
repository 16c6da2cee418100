import Mathlib.Data.List.DropRight
import Mathlib.Data.List.Infix

/-!
# Strings with Unicode tables

The string operations of a scripting language depend on Unicode tables: what the lower case
of a text is, which characters are white space, which are decimal digits, which make up
words. `Tables` is an arbitrary choice of them, so that what is proved here holds for every
version of the tables; `ascii` is the choice that agrees with them on ASCII and knows nothing
else, for evaluating examples.
-/

namespace Text

/-- What the string operations need to know about characters. -/
structure Tables where
  /-- the lower case of a text -/
  lower : String → String
  /-- white space, as `split` and `strip` see it and as `\s` matches it -/
  isSpace : Char → Bool
  /-- word characters, as `\w` matches them -/
  isWord : Char → Bool
  /-- decimal digits, as `\d` matches them -/
  isDigit : Char → Bool

/-- The tables on ASCII. -/
def ascii : Tables where
  lower s := String.ofList (s.toList.map Char.toLower)
  isSpace c := c ∈ [' ', '\t', '\n', '\r', '\x0b', '\x0c']
  isWord c := c.isAlphanum || c = '_'
  isDigit c := c.isDigit

/-! ## Runs of characters -/

/-- The run collected so far, if there is one. -/
def flush (run : List Char) : List (List Char) := if run = [] then [] else [run.reverse]

/-- The longest runs of characters in `p`, from left to right; `run` is the one being
collected, last character first. -/
def runsFrom (p : Char → Bool) (run : List Char) : List Char → List (List Char)
  | [] => flush run
  | c :: cs => if p c then runsFrom p (c :: run) cs else flush run ++ runsFrom p [] cs

/-- The longest runs of characters in `p`. -/
def runs (p : Char → Bool) (s : String) : List (List Char) := runsFrom p [] s.toList

/-- Every run is made of characters in `p`. -/
theorem mem_runsFrom {p : Char → Bool} {run s r : List Char} (hrun : ∀ c ∈ run, p c)
    (h : r ∈ runsFrom p run s) : ∀ c ∈ r, p c := by
  have hflush : ∀ run' : List Char, (∀ c ∈ run', p c) → r ∈ flush run' → ∀ c ∈ r, p c := by
    intro run' hrun' hr
    unfold flush at hr
    split at hr
    · cases hr
    · obtain rfl := List.mem_singleton.mp hr
      exact fun c hc => hrun' c (List.mem_reverse.mp hc)
  induction s generalizing run with
  | nil => exact hflush run hrun h
  | cons c cs ih =>
    rw [runsFrom] at h
    split at h
    · rename_i hc
      exact ih (fun d hd => by
        rcases List.mem_cons.mp hd with rfl | hd
        · exact hc
        · exact hrun d hd) h
    · rcases List.mem_append.mp h with h | h
      · exact hflush run hrun h
      · exact ih (by simp) h

/-! ## The operations -/

variable (t : Tables)

/-- `s.split()`: the parts of `s` between white space. -/
def split (s : String) : List String := (runs (fun c => !t.isSpace c) s).map String.ofList

/-- `s.strip()`. -/
def strip (s : String) : String :=
  String.ofList (((s.toList.dropWhile t.isSpace).reverse.dropWhile t.isSpace).reverse)

/-- `" ".join(s.lower().split())`: lower case, with single blanks. -/
def squash (s : String) : String := " ".intercalate (split t (t.lower s))

/-- `phrase in s`. -/
def contains (s phrase : String) : Bool :=
  s.toList.tails.any fun rest => phrase.toList.isPrefixOf rest

/-- `any(phrase in s for phrase in phrases)`. -/
def containsAny (s : String) (phrases : List String) : Bool := phrases.any (contains s)

/-- `s[:n]`. -/
def take (s : String) (n : Nat) : String := String.ofList (s.toList.take n)

/-- `not s.strip()`: there is nothing but white space. -/
theorem strip_eq_empty_iff {t : Tables} {s : String} :
    strip t s = "" ↔ ∀ c ∈ s.toList, t.isSpace c = true := by
  rw [strip, String.ofList_eq_empty_iff, ← List.rdropWhile, List.rdropWhile_eq_nil_iff]
  constructor
  · intro h
    rw [← List.dropWhile_eq_nil_iff]
    by_contra hne
    have hhead := List.head_dropWhile_not t.isSpace hne
    rw [h _ (List.head_mem hne)] at hhead
    cases hhead
  · intro h c hc
    exact h c ((List.dropWhile_sublist _).mem hc)

/-- Stripping makes no text longer. -/
theorem length_strip_le {t : Tables} {s : String} : (strip t s).length ≤ s.length := by
  rw [strip, String.length_ofList, List.length_reverse, ← String.length_toList]
  refine (List.dropWhile_sublist _).length_le.trans ?_
  rw [List.length_reverse]
  exact (List.dropWhile_sublist _).length_le

example : squash ascii "  Class 10\tCBSE " = "class 10 cbse" := by decide

end Text

/-!
## Plain text

Whatever the Unicode tables of a platform say of other texts, on printable ASCII they all say the
same: the blank is the only white space, and lower case is taken letter by letter. So a word of
such characters is left alone by `strip`, and `squash` only makes its letters small.
-/

namespace Text

/-- A character of printable ASCII. -/
def Printable (c : Char) : Prop := ' ' ≤ c ∧ c ≤ '~'

instance (c : Char) : Decidable (Printable c) := inferInstanceAs (Decidable (_ ∧ _))

/-- **What all tables say** of printable ASCII. -/
structure Tables.Plain (t : Tables) : Prop where
  lower : ∀ s : String, (∀ c ∈ s.toList, Printable c) →
    t.lower s = String.ofList (s.toList.map Char.toLower)
  isSpace : ∀ c, Printable c → (t.isSpace c = true ↔ c = ' ')

theorem plain_ascii : ascii.Plain where
  lower _ _ := rfl
  isSpace c hc := by
    constructor
    · intro h
      have hmem : c ∈ [' ', '\t', '\n', '\r', '\x0b', '\x0c'] := of_decide_eq_true h
      simp only [List.mem_cons, List.not_mem_nil, or_false] at hmem
      rcases hmem with rfl | rfl | rfl | rfl | rfl | rfl
      · rfl
      all_goals exact absurd hc (by decide)
    · rintro rfl
      decide

/-- A word: printable characters that are no blanks, at least one. -/
def Word (s : String) : Prop := s ≠ "" ∧ ∀ c ∈ s.toList, Printable c ∧ c ≠ ' '

instance (s : String) : Decidable (Word s) :=
  -- a search would also find that there are only so many characters, and try them all
  @instDecidableAnd _ _ inferInstance (List.decidableBAll _ _)

/-- A run of characters in `p` that reaches to the end is one run. -/
theorem runsFrom_all {p : Char → Bool} {run cs : List Char} (h : ∀ c ∈ cs, p c = true) :
    runsFrom p run cs = flush (cs.reverse ++ run) := by
  induction cs generalizing run with
  | nil => rfl
  | cons c cs ih =>
    rw [runsFrom, if_pos (h c List.mem_cons_self), ih fun d hd => h d (List.mem_cons_of_mem _ hd)]
    simp

namespace Tables.Plain

variable {t : Tables} {s : String}

theorem not_space (ht : t.Plain) {c : Char} (hc : Printable c ∧ c ≠ ' ') : t.isSpace c = false := by
  rw [← Bool.not_eq_true, ht.isSpace c hc.1]
  exact hc.2

theorem strip_word (ht : t.Plain) (hs : Word s) : strip t s = s := by
  have hspace : ∀ c ∈ s.toList, t.isSpace c = false := fun c hc => ht.not_space (hs.2 c hc)
  have hdrop : ∀ l : List Char, (∀ c ∈ l, t.isSpace c = false) → l.dropWhile t.isSpace = l := by
    intro l hl
    cases l with
    | nil => rfl
    | cons c cs => rw [List.dropWhile_cons, if_neg (by rw [hl c List.mem_cons_self]; decide)]
  rw [strip, hdrop _ hspace, hdrop _ fun c hc => hspace c (List.mem_reverse.mp hc),
    List.reverse_reverse, String.ofList_toList]

/-- The only part of a word is the word. -/
theorem split_word (ht : t.Plain) (hs : Word s) : split t s = [s] := by
  have hnil : s.toList.reverse ++ [] ≠ [] := by simpa using hs.1
  rw [split, runs, runsFrom_all fun c hc => by rw [ht.not_space (hs.2 c hc)]; rfl, flush,
    if_neg hnil]
  simp

/-- A word without capitals stays what it is. -/
theorem squash_word (ht : t.Plain) (hs : Word s)
    (hlower : String.ofList (s.toList.map Char.toLower) = s) : squash t s = s := by
  rw [squash, ht.lower s fun c hc => (hs.2 c hc).1, hlower, ht.split_word hs]
  rfl

end Tables.Plain

end Text
