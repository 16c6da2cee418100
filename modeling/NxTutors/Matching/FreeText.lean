import NxTutors.Matching.Vocabulary
import NxTutors.Text.Joined
import NxTutors.Text.Substitution
import NxTutors.Text.Words

/-!
# Cities and classes in what a parent writes

A message is cut into words, and the names of the cities and of the years before school are looked
for in the words written without the blanks between them. That finds "new delhi" and "Greater-Noida",
and also "kg" in "background" and across the blank in "book group"; and it finds the first name of
the table, not the longest, so that Greater Noida is Noida.

What is found is what the words say exactly if the first name of the table that occurs at all is as
good as the longest one that the words make up (`reads_words_iff`).
-/

namespace NxTutors.Matching

open Text

/-! ## Words -/

/-- `_TRANSLITERATIONS`. -/
def TRANSLITERATIONS : List (String × String) :=
  [("क्लास", "class"), ("कक्षा", "class"), ("गणित", "maths"), ("विज्ञान", "science"),
    ("अंग्रेजी", "english"), ("हिंदी", "hindi"), ("भौतिक", "physics"), ("रसायन", "chemistry"),
    ("जीव", "biology"), ("ट्यूटर", "tutor"), ("शिक्षक", "teacher"), ("ऑनलाइन", "online"),
    ("घर", "home")]

/-- `s.replace(source, target)`. -/
def replace (s source target : String) : String :=
  String.ofList (subn (literal source.toList) target.toList s.toList).1

def transliterateHinglish (text : String) : String :=
  TRANSLITERATIONS.foldl (fun out entry => replace out entry.1 entry.2) text

/-- `[a-z0-9+#]`. -/
def tokenChar (c : Char) : Bool :=
  ('a' ≤ c && c ≤ 'z') || ('0' ≤ c && c ≤ '9') || c = '+' || c = '#'

variable (p : Platform)

/-- The words of a text, in small letters. -/
def tokens (text : String) : List String :=
  (runs tokenChar (p.lower (p.asciiFold (transliterateHinglish text)))).map String.ofList

/-- `"".join(tokens(text))`. -/
def joined (text : String) : String := "".intercalate (tokens p text)

def extractCity (text : String) : Option String :=
  (CITY_ALIASES.find? fun entry => contains (joined p text) entry.1).map Prod.snd

def extractClass (text : String) : Option String :=
  let lowered := " ".intercalate (tokens p text)
  match PRESCHOOL.find? fun entry => contains (replace lowered " " "") entry.1 with
  | some entry => some entry.2
  | none => (classNumber p (some lowered)).map fun number => "Class " ++ toString number

/-! ## Whole words

A name is made up by the words if it is one of them, or several that follow each other.
-/

/-- Some words that follow each other, written without blanks. -/
def Whole (words : List String) (name : String) : Prop :=
  ∃ parts, parts <:+: words ∧ parts ≠ [] ∧ "".intercalate parts = name

instance (words : List String) (name : String) : Decidable (Whole words name) :=
  decidable_of_iff
    (∃ rest ∈ words.tails, ∃ parts ∈ rest.inits, parts ≠ [] ∧ "".intercalate parts = name) <| by
    constructor
    · rintro ⟨rest, hrest, parts, hparts, hname⟩
      exact ⟨parts, List.infix_iff_prefix_suffix.mpr ⟨rest, (List.mem_inits _ _).mp hparts,
        (List.mem_tails _ _).mp hrest⟩, hname⟩
    · rintro ⟨parts, hparts, hname⟩
      obtain ⟨rest, hpre, hsuf⟩ := List.infix_iff_prefix_suffix.mp hparts
      exact ⟨rest, (List.mem_tails _ _).mpr hsuf, parts, (List.mem_inits _ _).mpr hpre, hname⟩

/-- **A value is said**: the words make up a name of it. -/
def Says (words : List String) (table : List (String × String)) (value : String) : Prop :=
  ∃ entry ∈ table, entry.2 = value ∧ Whole words entry.1

/-- **A value is meant**: the words make up a name of it, and no longer name of the table. -/
def Means (words : List String) (table : List (String × String)) (value : String) : Prop :=
  ∃ entry ∈ table, entry.2 = value ∧ Whole words entry.1 ∧
    ∀ other ∈ table, Whole words other.1 → other.1.length ≤ entry.1.length

instance (words : List String) (table : List (String × String)) (value : String) :
    Decidable (Says words table value) :=
  inferInstanceAs (Decidable (∃ entry ∈ table, _))

instance (words : List String) (table : List (String × String)) (value : String) :
    Decidable (Means words table value) :=
  inferInstanceAs (Decidable (∃ entry ∈ table, _))

theorem toList_intercalate_empty (words : List String) :
    ("".intercalate words).toList = (words.map String.toList).flatten := by
  induction words with
  | nil => rfl
  | cons word words ih =>
    cases words with
    | nil => simp
    | cons next words =>
      rw [String.intercalate_cons_cons, String.append_empty, String.toList_append, ih]
      rfl

/-- What the words make up is found where they are written without blanks. -/
theorem contains_of_made_up {words : List String} {name : String} (h : Whole words name) :
    contains ("".intercalate words) name = true := by
  obtain ⟨parts, ⟨before, after, rfl⟩, -, rfl⟩ := h
  rw [contains_iff, toList_intercalate_empty, toList_intercalate_empty]
  refine ⟨(before.map String.toList).flatten, (after.map String.toList).flatten, ?_⟩
  rw [List.map_append, List.map_append, List.flatten_append, List.flatten_append]

theorem borderFree_blank : BorderFree [' '] := by
  intro q hq hpre _
  exact hpre.eq_of_length_le (List.length_pos_iff.mpr hq)

/-- Without the blanks between them, words that have none are written one after the other. -/
theorem replace_blanks {words : List String} (hwords : ∀ word ∈ words, ' ' ∉ word.toList) :
    replace (" ".intercalate words) " " "" = "".intercalate words := by
  have hremove : remove [' '] (" ".intercalate words).toList = ("".intercalate words).toList := by
    rw [toList_intercalate_empty]
    induction words with
    | nil => rfl
    | cons word words ih =>
      have hnot : ¬[' '] <:+: word.toList := fun hin =>
        hwords word List.mem_cons_self (hin.subset List.mem_cons_self)
      cases words with
      | nil => simpa using remove_of_absent hnot
      | cons next words =>
        have hrest := ih fun w hw => hwords w (List.mem_cons_of_mem _ hw)
        have hsplit := remove_at (by decide) borderFree_blank word.toList
          (" ".intercalate (next :: words)).toList
        rw [remove_of_absent hnot, hrest] at hsplit
        rw [toList_join_cons (c := ' ') rfl]
        exact hsplit
  rw [replace]
  exact (congrArg String.ofList hremove).trans String.ofList_toList

/-! ## What is found first -/

section

variable {α : Type} {table : List (String × α)} {s : String} {good : α → Prop}

/-- **Not by accident**: where a name of the table is in a text, and none of those before it, what it
stands for is good. -/
def NoneBefore (s : String) (table : List (String × α)) (good : α → Prop) : Prop :=
  ∀ before entry after, table = before ++ entry :: after →
    (∀ earlier ∈ before, contains s earlier.1 = false) → contains s entry.1 = true → good entry.2

theorem forall_find?_iff :
    (∀ value ∈ (table.find? fun entry => contains s entry.1).map Prod.snd, good value) ↔
      NoneBefore s table good := by
  constructor
  · intro h before entry after htable hbefore hentry
    refine h entry.2 (Option.map_eq_some_iff.mpr ⟨entry, ?_, rfl⟩)
    rw [List.find?_eq_some_iff_append]
    exact ⟨hentry, before, after, htable, fun earlier hearlier => by
      rw [hbefore earlier hearlier, Bool.not_false]⟩
  · intro h value hvalue
    obtain ⟨entry, hfound, rfl⟩ := Option.map_eq_some_iff.mp hvalue
    obtain ⟨hentry, before, after, htable, hbefore⟩ := List.find?_eq_some_iff_append.mp hfound
    refine h before entry after htable (fun earlier hearlier => ?_) hentry
    simpa using hbefore earlier hearlier

end

variable {p} {text : String}

theorem not_mem_tokens : ∀ word ∈ tokens p text, ' ' ∉ word.toList := by
  intro word hword hblank
  obtain ⟨run, hrun, rfl⟩ := List.mem_map.mp hword
  rw [String.toList_ofList] at hblank
  have htoken := mem_runsFrom (by simp) hrun ' ' hblank
  exact absurd htoken (by decide)

/-- A name of a year before school is found in the words written without blanks. -/
theorem extractClass_eq : extractClass p text =
    match PRESCHOOL.find? fun entry => contains (joined p text) entry.1 with
    | some entry => some entry.2
    | none => (classNumber p (some (" ".intercalate (tokens p text)))).map fun number =>
        "Class " ++ toString number := by
  rw [extractClass, replace_blanks not_mem_tokens]
  rfl

/-- The years before school. -/
def PRESCHOOL_LABELS : List String := PRESCHOOL.map Prod.snd

/-- A grade is no year before school. -/
theorem grade_not_preschool (number : Nat) : "Class " ++ toString number ∉ PRESCHOOL_LABELS := by
  intro hmem
  have hnot : ∀ label ∈ PRESCHOOL_LABELS, label.toList.head? ≠ some 'C' := by decide
  exact hnot _ hmem (by rw [String.toList_append]; rfl)

/-- A year before school is read exactly where the table has it first. -/
theorem extractClass_preschool_iff {label : String} :
    (extractClass p text = some label ∧ label ∈ PRESCHOOL_LABELS) ↔
      label ∈ (PRESCHOOL.find? fun entry => contains (joined p text) entry.1).map Prod.snd := by
  rw [extractClass_eq]
  cases hfound : PRESCHOOL.find? fun entry => contains (joined p text) entry.1 with
  | some entry =>
    have hmem : entry.2 ∈ PRESCHOOL_LABELS :=
      List.mem_map_of_mem (List.mem_of_find?_eq_some hfound)
    constructor
    · rintro ⟨heq, -⟩
      exact heq
    · intro heq
      obtain rfl : entry.2 = label := Option.some.inj heq
      exact ⟨rfl, hmem⟩
  | none =>
    constructor
    · rintro ⟨heq, hlabel⟩
      obtain ⟨number, -, rfl⟩ := Option.map_eq_some_iff.mp heq
      exact absurd hlabel (grade_not_preschool number)
    · rintro ⟨⟩

/-! ## Cities and years before school -/

/-- **Whole words are read**: a city that is found is meant, one is found where the words make up the
name of one, and a year before school that is found is said. -/
structure ReadsWords (p : Platform) (text : String) : Prop where
  city : ∀ city, extractCity p text = some city → Means (tokens p text) CITY_ALIASES city
  found : ∀ entry ∈ CITY_ALIASES, Whole (tokens p text) entry.1 → extractCity p text ≠ none
  preschool : ∀ label, extractClass p text = some label → label ∈ PRESCHOOL_LABELS →
    Says (tokens p text) PRESCHOOL label

/-- **Of neither table a name is found by accident**: the first name of the table that is in the words
written without blanks stands for a city that is meant, or for a year before school that is said. -/
structure NoAccident (p : Platform) (text : String) : Prop where
  city : NoneBefore (joined p text) CITY_ALIASES (Means (tokens p text) CITY_ALIASES)
  preschool : NoneBefore (joined p text) PRESCHOOL (Says (tokens p text) PRESCHOOL)

/-- **Whole words are read exactly if nothing is found by accident.** -/
theorem reads_words_iff (p : Platform) (text : String) :
    ReadsWords p text ↔ NoAccident p text := by
  constructor
  · intro h
    refine ⟨forall_find?_iff.mp h.city, forall_find?_iff.mp fun label hlabel => ?_⟩
    obtain ⟨heq, hmem⟩ := extractClass_preschool_iff.mpr hlabel
    exact h.preschool label heq hmem
  · intro h
    refine ⟨forall_find?_iff.mpr h.city, fun entry hentry hwhole hnone => ?_,
      fun label heq hmem => ?_⟩
    · have hnot := List.find?_eq_none.mp (Option.map_eq_none_iff.mp hnone) entry hentry
      exact hnot (contains_of_made_up hwhole)
    · exact forall_find?_iff.mpr h.preschool label (extractClass_preschool_iff.mp ⟨heq, hmem⟩)

/-- **A background is taken for a year before school, and Greater Noida for Noida.** -/
theorem kg_in_background : ¬ReadsWords ascii "background in maths" ∧
    ¬ReadsWords ascii "tutor in Greater Noida" := by
  constructor
  · intro h
    have hsays := h.preschool "KG" (by decide +kernel) (by decide)
    exact absurd hsays (by decide +kernel)
  · intro h
    have hmeans := h.city "Noida" (by decide +kernel)
    exact absurd hmeans (by decide +kernel)

end NxTutors.Matching
