import NxTutors.Text.Strings

/-!
# Text without markup

What people write into the forms of a website is brought to one line: tags become a blank each, and
white space of any kind and length becomes one blank, and none at the ends. Nothing here makes a
text longer (`length_clean_le`).
-/

namespace Text

variable (t : Tables)

/-- Go over a text, and keep what has been read of a tag that may not be closed. -/
def stripTags : Option (List Char) → List Char → List Char
  | none, [] => []
  | some pending, [] => pending.reverse
  | none, c :: cs => if c = '<' then stripTags (some ['<']) cs else c :: stripTags none cs
  | some pending, c :: cs =>
    if c = '>' then ' ' :: stripTags none cs else stripTags (some (c :: pending)) cs

/-- `re.sub(r"<[^>]*>", " ", value)`. -/
def stripHtml (value : String) : String := String.ofList (stripTags none value.toList)

/-- A blank for each run of white space. -/
def collapse (inSpace : Bool) : List Char → List Char
  | [] => []
  | c :: cs =>
    if t.isSpace c then if inSpace then collapse true cs else ' ' :: collapse true cs
    else c :: collapse false cs

/-- `re.sub(r"\s+", " ", value).strip()`. -/
def collapseWhitespace (value : String) : String :=
  strip t (String.ofList (collapse t false value.toList))

/-- Website free text as safe single-line text. -/
def clean (value : Option String) : String :=
  match value with
  | none => ""
  | some v => collapseWhitespace t (stripHtml v)

/-! ## Lengths -/

/-- By the text: what is kept of an open tag comes back as it was. -/
theorem length_stripTags_le : ∀ (open' : Option (List Char)) (cs : List Char),
    (stripTags open' cs).length ≤ (open'.getD []).length + cs.length := by
  intro open' cs
  induction cs generalizing open' with
  | nil =>
    cases open' with
    | none => simp [stripTags]
    | some pending => simp [stripTags]
  | cons c cs ih =>
    cases open' with
    | none =>
      rw [stripTags]
      split
      · have h := ih (some ['<'])
        simp only [Option.getD_some, List.length_singleton] at h
        simp only [Option.getD_none, List.length_nil, List.length_cons]
        omega
      · have h := ih none
        simp only [Option.getD_none, List.length_nil, List.length_cons] at h ⊢
        omega
    | some pending =>
      rw [stripTags]
      split
      · have h := ih none
        simp only [Option.getD_none, Option.getD_some, List.length_nil, List.length_cons] at h ⊢
        omega
      · have h := ih (some (c :: pending))
        simp only [Option.getD_some, List.length_cons] at h ⊢
        omega

theorem length_collapse_le : ∀ (inSpace : Bool) (cs : List Char),
    (collapse t inSpace cs).length ≤ cs.length := by
  intro inSpace cs
  induction cs generalizing inSpace with
  | nil => exact Nat.le_refl _
  | cons c cs ih =>
    rw [collapse]
    split
    · cases inSpace with
      | true => exact Nat.le_succ_of_le (ih true)
      | false => exact Nat.succ_le_succ (ih true)
    · exact Nat.succ_le_succ (ih false)

/-- **Cleaning makes no text longer.** -/
theorem length_clean_le (v : String) : (clean t (some v)).length ≤ v.length := by
  have htags := length_stripTags_le none v.toList
  have hspace := length_collapse_le t false (stripTags none v.toList)
  refine length_strip_le.trans ?_
  rw [String.length_ofList, stripHtml, String.toList_ofList, ← String.length_toList]
  simp only [Option.getD_none, List.length_nil] at htags
  omega

example : clean ascii (some " <b>Asha</b>\t Rao < 3 ") = "Asha Rao < 3" := by decide

end Text
