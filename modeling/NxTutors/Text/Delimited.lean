import NxTutors.Text.JsonText

/-!
# Texts that end by themselves

Where the texts of several values are written one behind the other, they can be told apart again if
each ends by itself, or ends where a comma or a bracket follows. Strings, numbers, lists and what
may be missing are written as `json.dumps` does, with a space behind each comma and no character
beyond the printable ones of ASCII, and each of these ways of writing passes that on to its parts.
-/

namespace Text

variable {α β : Type}

/-- What follows a value. -/
def Closes (cs : List Char) : Prop := ∃ c rest, cs = c :: rest ∧ (c = ',' ∨ c = ']' ∨ c = '}')

/-- **The texts of two values can be told apart**, whatever follows them. -/
def Delimited (write : α → List Char) : Prop :=
  ∀ {a b : α} {r s : List Char}, Closes r → Closes s → write a ++ r = write b ++ s → a = b ∧ r = s

theorem closes_comma (rest : List Char) : Closes (',' :: rest) := ⟨_, _, rfl, .inl rfl⟩

theorem closes_bracket (rest : List Char) : Closes (']' :: rest) := ⟨_, _, rfl, .inr (.inl rfl)⟩

theorem closes_brace (rest : List Char) : Closes ('}' :: rest) := ⟨_, _, rfl, .inr (.inr rfl)⟩

section Delimited

variable {write : α → List Char} {write' : β → List Char}

/-- A value and what separates it from the next. -/
theorem Delimited.peel (h : Delimited write) {a b : α} {sep r s : List Char}
    (heq : write a ++ (',' :: sep ++ r) = write b ++ (',' :: sep ++ s)) : a = b ∧ r = s := by
  obtain ⟨rfl, hrest⟩ := h (closes_comma _) (closes_comma _) heq
  have hsep : sep ++ r = sep ++ s := (List.cons.inj hrest).2
  exact ⟨rfl, List.append_cancel_left hsep⟩

/-! ## Numbers -/

/-- No comma and no bracket is in the text. -/
def Plain (cs : List Char) : Prop := ∀ c ∈ cs, c ≠ ',' ∧ c ≠ ']' ∧ c ≠ '}'

/-- Where the text goes on tells where it ended. -/
theorem Plain.split {u v r s : List Char} (hu : Plain u) (hv : Plain v) (hr : Closes r)
    (hs : Closes s) (h : u ++ r = v ++ s) : u = v ∧ r = s := by
  induction u generalizing v with
  | nil =>
    obtain ⟨c, r, rfl, hc⟩ := hr
    cases v with
    | nil => exact ⟨rfl, h⟩
    | cons d v =>
      obtain rfl : c = d := (List.cons.inj h).1
      obtain ⟨h1, h2, h3⟩ := hv c List.mem_cons_self
      rcases hc with rfl | rfl | rfl <;> contradiction
  | cons c u ih =>
    cases v with
    | nil =>
      obtain ⟨d, s, rfl, hd⟩ := hs
      obtain rfl : c = d := (List.cons.inj h).1
      obtain ⟨h1, h2, h3⟩ := hu c List.mem_cons_self
      rcases hd with rfl | rfl | rfl <;> contradiction
    | cons d v =>
      obtain ⟨rfl, htail⟩ := List.cons.inj h
      obtain ⟨rfl, hrs⟩ := ih (fun x hx => hu x (List.mem_cons_of_mem _ hx))
        (fun x hx => hv x (List.mem_cons_of_mem _ hx)) htail
      exact ⟨rfl, hrs⟩

theorem Delimited.of_plain (hplain : ∀ a, Plain (write a)) (hinj : Function.Injective write) :
    Delimited write := fun hr hs heq =>
  let ⟨hab, hrs⟩ := (hplain _).split (hplain _) hr hs heq
  ⟨hinj hab, hrs⟩

/-- The digits of a number. -/
def writeNat (n : Nat) : List Char := Nat.toDigits 10 n

theorem isDigit_of_mem_writeNat {n : Nat} {c : Char} (h : c ∈ writeNat n) : c.isDigit :=
  Nat.isDigit_of_mem_toDigits (by decide) (by decide) h

theorem writeNat_injective : Function.Injective writeNat := fun m n h => by
  rw [← @Nat.ofDigitChars_ten_toDigits m, ← @Nat.ofDigitChars_ten_toDigits n]
  exact congrArg (Nat.ofDigitChars 10 · 0) h

theorem delimited_writeNat : Delimited writeNat := by
  refine Delimited.of_plain (fun n c hc => ?_) writeNat_injective
  have hdigit := isDigit_of_mem_writeNat hc
  refine ⟨?_, ?_, ?_⟩ <;> rintro rfl <;> exact absurd hdigit (by decide)

/-! ## What a text begins with -/

/-- The text of a value does not begin with the character. -/
def NotBegins (c : Char) (write : α → List Char) : Prop := ∀ a, ∃ d ds, write a = d :: ds ∧ d ≠ c

theorem notBegins_writeNat {c : Char} (hc : c.isDigit = false) : NotBegins c writeNat := by
  intro n
  obtain ⟨d, ds, hdigits⟩ := List.exists_cons_of_ne_nil (@Nat.toDigits_ne_nil n 10)
  refine ⟨d, ds, hdigits, ?_⟩
  rintro rfl
  have hmem : d ∈ writeNat n := by
    rw [writeNat, hdigits]
    exact List.mem_cons_self
  have hdigit := isDigit_of_mem_writeNat hmem
  rw [hc] at hdigit
  cases hdigit

/-! ## What may be missing -/

/-- `null` for what is missing. -/
def writeOption (write : α → List Char) : Option α → List Char
  | none => ['n', 'u', 'l', 'l']
  | some a => write a

theorem Delimited.option (h : Delimited write) (hnot : NotBegins 'n' write) :
    Delimited (writeOption write) := by
  intro a b r s hr hs heq
  have hdiff {a : α} {r s : List Char} : write a ++ r ≠ ['n', 'u', 'l', 'l'] ++ s := by
    obtain ⟨d, ds, hd, hne⟩ := hnot a
    rw [hd]
    exact fun heq => hne (List.cons.inj heq).1
  cases a with
  | none =>
    cases b with
    | none => exact ⟨rfl, List.append_cancel_left heq⟩
    | some b => exact absurd heq.symm hdiff
  | some a =>
    cases b with
    | none => exact absurd heq hdiff
    | some b =>
      obtain ⟨rfl, hrs⟩ := h hr hs heq
      exact ⟨rfl, hrs⟩

theorem NotBegins.option {c : Char} (h : NotBegins c write) (hc : 'n' ≠ c) :
    NotBegins c (writeOption write) := fun a =>
  match a with
  | none => ⟨_, _, rfl, hc⟩
  | some a => h a

/-! ## Lists -/

/-- What follows the first item. -/
def moreOf (write : α → List Char) : List α → List Char
  | [] => [']']
  | a :: as => ',' :: ' ' :: (write a ++ moreOf write as)

/-- A list, in brackets. -/
def writeList (write : α → List Char) : List α → List Char
  | [] => ['[', ']']
  | a :: as => '[' :: (write a ++ moreOf write as)

theorem closes_moreOf (as : List α) (rest : List Char) : Closes (moreOf write as ++ rest) := by
  cases as with
  | nil => exact closes_bracket _
  | cons a as => exact closes_comma _

theorem Delimited.more (h : Delimited write) {as bs : List α} {r s : List Char}
    (heq : moreOf write as ++ r = moreOf write bs ++ s) : as = bs ∧ r = s := by
  induction as generalizing bs with
  | nil =>
    cases bs with
    | nil => exact ⟨rfl, List.append_cancel_left heq⟩
    | cons b bs => exact absurd (List.cons.inj heq).1 (by decide)
  | cons a as ih =>
    cases bs with
    | nil => exact absurd (List.cons.inj heq).1 (by decide)
    | cons b bs =>
      have htail : write a ++ moreOf write as ++ r = write b ++ moreOf write bs ++ s :=
        (List.cons.inj (List.cons.inj heq).2).2
      rw [List.append_assoc, List.append_assoc] at htail
      obtain ⟨rfl, hrest⟩ := h (closes_moreOf as r) (closes_moreOf bs s) htail
      obtain ⟨rfl, hrs⟩ := ih hrest
      exact ⟨rfl, hrs⟩

/-- **A list**, if its items are so and begin with no closing bracket. -/
theorem Delimited.list (h : Delimited write) (hnot : NotBegins ']' write) :
    Delimited (writeList write) := by
  intro as bs r s _ _ heq
  have hdiff {a : α} {u v : List Char} : write a ++ u ≠ ']' :: v := by
    obtain ⟨d, ds, hd, hne⟩ := hnot a
    rw [hd]
    exact fun heq => hne (List.cons.inj heq).1
  cases as with
  | nil =>
    cases bs with
    | nil => exact ⟨rfl, List.append_cancel_left heq⟩
    | cons b bs =>
      have htail : ']' :: r = write b ++ moreOf write bs ++ s := (List.cons.inj heq).2
      rw [List.append_assoc] at htail
      exact absurd htail.symm hdiff
  | cons a as =>
    cases bs with
    | nil =>
      have htail : write a ++ moreOf write as ++ r = ']' :: s := (List.cons.inj heq).2
      rw [List.append_assoc] at htail
      exact absurd htail hdiff
    | cons b bs =>
      have htail : write a ++ moreOf write as ++ r = write b ++ moreOf write bs ++ s :=
        (List.cons.inj heq).2
      rw [List.append_assoc, List.append_assoc] at htail
      obtain ⟨rfl, hrest⟩ := h (closes_moreOf as r) (closes_moreOf bs s) htail
      obtain ⟨rfl, hrs⟩ := h.more hrest
      exact ⟨rfl, hrs⟩

/-- Two values in brackets. -/
def writePair (write : α → List Char) (write' : β → List Char) (x : α × β) : List Char :=
  '[' :: (write x.1 ++ (',' :: [' '] ++ (write' x.2 ++ [']'])))

theorem Delimited.pair (h : Delimited write) (h' : Delimited write') :
    Delimited (writePair write write') := by
  rintro ⟨a, a'⟩ ⟨b, b'⟩ r s _ _ heq
  have htail : write a ++ (',' :: [' '] ++ (write' a' ++ ']' :: r))
      = write b ++ (',' :: [' '] ++ (write' b' ++ ']' :: s)) := by
    simpa [writePair] using heq
  obtain ⟨rfl, hrest⟩ := h.peel htail
  obtain ⟨rfl, hrs⟩ := h' (closes_bracket r) (closes_bracket s) hrest
  exact ⟨rfl, (List.cons.inj hrs).2⟩

/-- Three values in brackets. -/
def writeTriple {γ : Type} (write : α → List Char) (write' : β → List Char)
    (write'' : γ → List Char) (x : α × β × γ) : List Char :=
  '[' :: (write x.1 ++ (',' :: [' '] ++ (write' x.2.1 ++ (',' :: [' '] ++ (write'' x.2.2 ++ [']'])))))

theorem Delimited.triple {γ : Type} {write'' : γ → List Char} (h : Delimited write)
    (h' : Delimited write') (h'' : Delimited write'') :
    Delimited (writeTriple write write' write'') := by
  rintro ⟨a, a', a''⟩ ⟨b, b', b''⟩ r s _ _ heq
  have htail : write a ++ (',' :: [' '] ++ (write' a' ++ (',' :: [' '] ++ (write'' a'' ++ ']' :: r))))
      = write b ++ (',' :: [' '] ++ (write' b' ++ (',' :: [' '] ++ (write'' b'' ++ ']' :: s)))) := by
    simpa [writeTriple] using heq
  obtain ⟨rfl, hrest⟩ := h.peel htail
  obtain ⟨rfl, hlast⟩ := h'.peel hrest
  obtain ⟨rfl, hrs⟩ := h'' (closes_bracket r) (closes_bracket s) hlast
  exact ⟨rfl, (List.cons.inj hrs).2⟩

end Delimited

/-! ## Strings -/

open JsonValue

/-- A number below 65536 in four digits. -/
def hexDigits (n : Nat) : List Char :=
  [hexDigit (n / 4096), hexDigit (n / 256 % 16), hexDigit (n / 16 % 16), hexDigit (n % 16)]

/-- One character, if only the printable ones of ASCII may be written. -/
def escapeAscii (c : Char) : List Char :=
  if c = '"' then ['\\', '"']
  else if c = '\\' then ['\\', '\\']
  else if c.toNat = 8 then ['\\', 'b']
  else if c.toNat = 9 then ['\\', 't']
  else if c.toNat = 10 then ['\\', 'n']
  else if c.toNat = 12 then ['\\', 'f']
  else if c.toNat = 13 then ['\\', 'r']
  else if 32 ≤ c.toNat ∧ c.toNat ≤ 126 then [c]
  else if c.toNat < 65536 then '\\' :: 'u' :: hexDigits c.toNat
  else
    -- a pair of halves
    '\\' :: 'u' :: (hexDigits (55296 + (c.toNat - 65536) / 1024) ++
      '\\' :: 'u' :: hexDigits (56320 + (c.toNat - 65536) % 1024))

/-- A string, with its quotation marks. -/
def writeString (s : String) : List Char := '"' :: (s.toList.flatMap escapeAscii ++ ['"'])

theorem hexValue_hexDigit {n : Nat} (h : n < 16) : hexValue (hexDigit n) = some n := by
  revert n
  decide

theorem hex4_hexDigits {n : Nat} (h : n < 65536) :
    hex4 (hexDigit (n / 4096)) (hexDigit (n / 256 % 16)) (hexDigit (n / 16 % 16))
      (hexDigit (n % 16)) = some n := by
  have h3 : n / 4096 < 16 := by omega
  rw [hex4, hexValue_hexDigit h3, hexValue_hexDigit (Nat.mod_lt _ (by decide)),
    hexValue_hexDigit (Nat.mod_lt _ (by decide)), hexValue_hexDigit (Nat.mod_lt _ (by decide))]
  refine congrArg some ?_
  omega

/-- A character that is written is read. -/
theorem stringRest_escapeAscii (c : Char) (rest : List Char) :
    stringRest (escapeAscii c ++ rest) = (stringRest rest).map (push c) := by
  have hofNat (n : Nat) (h : c.toNat = n) : Char.ofNat n = c := h ▸ Char.ofNat_toNat c
  have hvalid : c.toNat < 55296 ∨ 57344 ≤ c.toNat ∧ c.toNat < 1114112 := by
    rcases c.valid with h | ⟨h1, h2⟩
    · exact .inl h
    · exact .inr ⟨Nat.succ_le_of_lt h1, h2⟩
  unfold escapeAscii
  split_ifs with hquote hback h8 h9 h10 h12 h13 hprint hsmall
  · subst hquote
    rfl
  · subst hback
    rfl
  · exact congrArg (fun c => (stringRest rest).map (push c)) (hofNat 8 h8)
  · exact congrArg (fun c => (stringRest rest).map (push c)) (hofNat 9 h9)
  · exact congrArg (fun c => (stringRest rest).map (push c)) (hofNat 10 h10)
  · exact congrArg (fun c => (stringRest rest).map (push c)) (hofNat 12 h12)
  · exact congrArg (fun c => (stringRest rest).map (push c)) (hofNat 13 h13)
  · have hread : stringRest (c :: rest) = if c.toNat < 32 then none
        else (stringRest rest).map (push c) := by
      rw [stringRest.eq_def]
      split <;> simp_all
    rw [List.singleton_append, hread, if_neg (by omega)]
  · have hread : stringRest ('\\' :: 'u' :: hexDigit (c.toNat / 4096) ::
        hexDigit (c.toNat / 256 % 16) :: hexDigit (c.toNat / 16 % 16) ::
        hexDigit (c.toNat % 16) :: rest) = (stringRest rest).map (push (Char.ofNat c.toNat)) := by
      rw [stringRest, hex4_hexDigits hsmall, Option.bind_some, if_pos (by omega)]
    rw [Char.ofNat_toNat] at hread
    exact hread
  · obtain ⟨n, hn⟩ : ∃ n, n = c.toNat - 65536 := ⟨_, rfl⟩
    have hread : stringRest ('\\' :: 'u' :: hexDigit ((55296 + n / 1024) / 4096) ::
        hexDigit ((55296 + n / 1024) / 256 % 16) :: hexDigit ((55296 + n / 1024) / 16 % 16) ::
        hexDigit ((55296 + n / 1024) % 16) :: '\\' :: 'u' ::
        hexDigit ((56320 + n % 1024) / 4096) :: hexDigit ((56320 + n % 1024) / 256 % 16) ::
        hexDigit ((56320 + n % 1024) / 16 % 16) :: hexDigit ((56320 + n % 1024) % 16) :: rest)
          = (stringRest rest).map (push c) := by
      have hsecond := hex4_hexDigits (n := 56320 + n % 1024) (by omega)
      rw [stringRest, hex4_hexDigits (by omega), Option.bind_some, if_neg (by omega)]
      simp only [hsecond, Option.bind_some]
      rw [if_pos (by omega)]
      have hback : 65536 + 1024 * (55296 + n / 1024 - 55296) + (56320 + n % 1024 - 56320)
          = c.toNat := by omega
      rw [hback, Char.ofNat_toNat]
    rw [← hn]
    exact hread

theorem stringRest_writeString (s : List Char) (rest : List Char) :
    stringRest (s.flatMap escapeAscii ++ '"' :: rest) = some (s, rest) := by
  induction s with
  | nil => rfl
  | cons c cs ih =>
    rw [List.flatMap_cons, List.append_assoc, stringRest_escapeAscii, ih]
    rfl

/-- **A string ends by itself.** -/
theorem delimited_writeString : Delimited writeString := by
  intro a b r s _ _ heq
  have htail : a.toList.flatMap escapeAscii ++ ['"'] ++ r
      = b.toList.flatMap escapeAscii ++ ['"'] ++ s := (List.cons.inj heq).2
  rw [List.append_assoc, List.append_assoc] at htail
  have hread := congrArg stringRest htail
  rw [List.singleton_append, List.singleton_append, stringRest_writeString,
    stringRest_writeString] at hread
  obtain ⟨hab, hrs⟩ := Prod.mk.inj (Option.some.inj hread)
  exact ⟨String.toList_injective hab, hrs⟩

theorem notBegins_writeString {c : Char} (hc : '"' ≠ c) : NotBegins c writeString :=
  fun _ => ⟨_, _, rfl, hc⟩

end Text
