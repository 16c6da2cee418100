import Mathlib.Data.List.TakeDrop
import NxTutors.Text.Delimited

/-!
# JSON with numbers

`JsonValue` knows no numbers. Here they are: a whole number is kept as one, any other as its text.
The reader is the same but for them. The writer is for one object, of texts and whole numbers, with
no white space and no character beyond ASCII.

**What is written is read back** (`loads_dumps`). A number does not end by itself, so its reader
has to be told what may follow.
-/

namespace Text

/-- A JSON value. -/
inductive JsonData
  | null
  | bool (b : Bool)
  | int (n : Int)
  | real (text : String)
  | str (s : String)
  | arr (items : List JsonData)
  | obj (fields : List (String × JsonData))

namespace JsonData

open JsonValue (skip stringRest)

/-! ## Reading -/

/-- The digits at the start, and what follows them. -/
def digits (cs : List Char) : List Char × List Char := cs.span Char.isDigit

/-- A part of a number that may be missing: a mark, and digits behind it. -/
def markedDigits (marked : List Char → Option (List Char × List Char)) (cs : List Char) :
    List Char × List Char :=
  match marked cs with
  | none => ([], cs)
  | some (mark, rest) =>
    if (digits rest).1 = [] then ([], cs) else (mark ++ (digits rest).1, (digits rest).2)

/-- The point of a fraction. -/
def point : List Char → Option (List Char × List Char)
  | '.' :: cs => some (['.'], cs)
  | _ => none

/-- A sign, if there is one. -/
def exponentSign : List Char → List Char × List Char
  | '+' :: cs => (['+'], cs)
  | '-' :: cs => (['-'], cs)
  | cs => ([], cs)

/-- The mark of an exponent, with its sign. -/
def exponent : List Char → Option (List Char × List Char)
  | [] => none
  | c :: cs =>
    if c = 'e' ∨ c = 'E' then some (c :: (exponentSign cs).1, (exponentSign cs).2) else none

/-- The digits of a whole number: one zero, or none at the start. -/
def wholeDigits : List Char → Option (List Char × List Char)
  | '0' :: cs => some (['0'], cs)
  | cs => if (digits cs).1 = [] then none else some (digits cs)

/-- A number without a sign, and what follows it. -/
def unsigned (negative : Bool) (cs : List Char) : Option (JsonData × List Char) :=
  (wholeDigits cs).map fun (whole, rest) =>
    let (fraction, rest) := markedDigits point rest
    let (power, rest) := markedDigits exponent rest
    if fraction = [] ∧ power = [] then
      let n : Int := Nat.ofDigitChars 10 whole 0
      (.int (if negative then -n else n), rest)
    else
      (.real (String.ofList ((if negative then ['-'] else []) ++ whole ++ fraction ++ power)), rest)

/-- A number, and what follows it. What is not finite counts as one. -/
def number : List Char → Option (JsonData × List Char)
  | '-' :: 'I' :: 'n' :: 'f' :: 'i' :: 'n' :: 'i' :: 't' :: 'y' :: cs =>
    some (.real "-Infinity", cs)
  | '-' :: cs => unsigned true cs
  | 'I' :: 'n' :: 'f' :: 'i' :: 'n' :: 'i' :: 't' :: 'y' :: cs => some (.real "Infinity", cs)
  | 'N' :: 'a' :: 'N' :: cs => some (.real "NaN", cs)
  | cs => unsigned false cs

mutual

/-- A value, and what follows it. -/
def value : Nat → List Char → Option (JsonData × List Char)
  | 0, _ => none
  | n + 1, cs =>
    match skip cs with
    | '"' :: cs => (stringRest cs).map fun x => (.str (String.ofList x.1), x.2)
    | '[' :: cs =>
      if (skip cs).head? = some ']' then some (.arr [], (skip cs).tail)
      else (value n cs).bind fun x => (items n x.2).map fun y => (.arr (x.1 :: y.1), y.2)
    | '{' :: cs =>
      if (skip cs).head? = some '}' then some (.obj [], (skip cs).tail)
      else (field n cs).bind fun x => (fields n x.2).map fun y => (.obj (x.1 :: y.1), y.2)
    | 'n' :: 'u' :: 'l' :: 'l' :: cs => some (.null, cs)
    | 't' :: 'r' :: 'u' :: 'e' :: cs => some (.bool true, cs)
    | 'f' :: 'a' :: 'l' :: 's' :: 'e' :: cs => some (.bool false, cs)
    | cs => number cs

/-- The items that follow one, up to the bracket. -/
def items : Nat → List Char → Option (List JsonData × List Char)
  | 0, _ => none
  | n + 1, cs =>
    match skip cs with
    | ']' :: cs => some ([], cs)
    | ',' :: cs => (value n cs).bind fun x => (items n x.2).map fun y => (x.1 :: y.1, y.2)
    | _ => none

/-- A name and a value. -/
def field : Nat → List Char → Option ((String × JsonData) × List Char)
  | 0, _ => none
  | n + 1, cs =>
    match skip cs with
    | '"' :: cs =>
      (stringRest cs).bind fun x =>
        match skip x.2 with
        | ':' :: cs => (value n cs).map fun y => ((String.ofList x.1, y.1), y.2)
        | _ => none
    | _ => none

/-- The fields that follow one, up to the brace. -/
def fields : Nat → List Char → Option (List (String × JsonData) × List Char)
  | 0, _ => none
  | n + 1, cs =>
    match skip cs with
    | '}' :: cs => some ([], cs)
    | ',' :: cs => (field n cs).bind fun x => (fields n x.2).map fun y => (x.1 :: y.1, y.2)
    | _ => none

end

/-- `json.loads`: one value, and nothing after it. -/
def loads (cs : List Char) : Option JsonData :=
  (value (cs.length + 1) cs).bind fun x => if skip x.2 = [] then some x.1 else none

/-- `data.get(name)`, of an object: of two fields of one name, the later one. -/
def get (fields : List (String × JsonData)) (name : String) : Option JsonData :=
  ((fields.filter (·.1 = name)).getLast?).map Prod.snd

/-! ## Writing -/

/-- A text or a whole number. -/
inductive Scalar
  | int (n : Int)
  | str (s : String)

namespace Scalar

/-- The value it is. -/
def data : Scalar → JsonData
  | .int n => .int n
  | .str s => .str s

/-- Its text. -/
def chars : Scalar → List Char
  | .int (.ofNat n) => Nat.toDigits 10 n
  | .int (.negSucc n) => '-' :: Nat.toDigits 10 (n + 1)
  | .str s => writeString s

end Scalar

/-- What follows the first field of an object. -/
def moreFields : List (String × Scalar) → List Char
  | [] => ['}']
  | (name, v) :: fs => ',' :: (writeString name ++ ':' :: (v.chars ++ moreFields fs))

/-- `json.dumps(fields, separators=(",", ":"))`. -/
def dumps : List (String × Scalar) → List Char
  | [] => ['{', '}']
  | (name, v) :: fs => '{' :: (writeString name ++ ':' :: (v.chars ++ moreFields fs))

/-! ## Back again -/

/-- What follows a field: another one, or the brace. -/
def Closes (rest : List Char) : Prop := ∃ c cs, rest = c :: cs ∧ (c = ',' ∨ c = '}')

theorem closes_moreFields (fs : List (String × Scalar)) (rest : List Char) :
    Closes (moreFields fs ++ rest) := by
  cases fs with
  | nil => exact ⟨_, _, rfl, .inr rfl⟩
  | cons f fs => exact ⟨_, _, rfl, .inl rfl⟩

theorem markedDigits_point {rest : List Char} (h : Closes rest) :
    markedDigits point rest = ([], rest) := by
  obtain ⟨c, cs, rfl, rfl | rfl⟩ := h <;> rfl

theorem markedDigits_exponent {rest : List Char} (h : Closes rest) :
    markedDigits exponent rest = ([], rest) := by
  have hnone : exponent rest = none := by
    obtain ⟨c, cs, rfl, rfl | rfl⟩ := h
    all_goals rw [exponent, if_neg (by decide)]
  rw [markedDigits, hnone]

/-- Digits end where something else begins. -/
theorem digits_append {ds rest : List Char} (hds : ∀ d ∈ ds, d.isDigit = true) (h : Closes rest) :
    digits (ds ++ rest) = (ds, rest) := by
  have hrest : ∀ c cs, rest = c :: cs → c.isDigit = false := by
    obtain ⟨c, cs, rfl, rfl | rfl⟩ := h
    all_goals
      rintro _ _ ⟨⟩
      decide
  obtain ⟨c, cs, rfl, -⟩ := h
  have hc := hrest c cs rfl
  rw [digits, List.span_eq_takeWhile_dropWhile, List.takeWhile_append_of_pos hds,
    List.dropWhile_append_of_pos hds]
  simp [hc]

/-- A number that is written does not begin with a zero, unless it is zero. -/
theorem head?_toDigits_ne {n : Nat} (h : n ≠ 0) : (Nat.toDigits 10 n).head? ≠ some '0' := by
  induction n using Nat.strongRecOn with
  | _ n ih =>
    rw [Nat.toDigits_eq_if (by decide)]
    split
    · rename_i hlt
      have hall : ∀ m < 10, m ≠ 0 → [Nat.digitChar m].head? ≠ some '0' := by decide
      exact hall n hlt h
    · rename_i hge
      have hsmaller := ih (n / 10) (by omega) (by omega)
      cases hdigits : Nat.toDigits 10 (n / 10) with
      | nil => exact absurd hdigits Nat.toDigits_ne_nil
      | cons d ds =>
        rw [hdigits] at hsmaller
        exact hsmaller

theorem wholeDigits_toDigits (n : Nat) {rest : List Char} (h : Closes rest) :
    wholeDigits (Nat.toDigits 10 n ++ rest) = some (Nat.toDigits 10 n, rest) := by
  by_cases hzero : n = 0
  · subst hzero
    rfl
  · have hdigits : digits (Nat.toDigits 10 n ++ rest) = (Nat.toDigits 10 n, rest) :=
      digits_append (fun d hd => Nat.isDigit_of_mem_toDigits (by decide) (by decide) hd) h
    have hhead := head?_toDigits_ne hzero
    cases hcons : Nat.toDigits 10 n with
    | nil => exact absurd hcons Nat.toDigits_ne_nil
    | cons d ds =>
      rw [hcons] at hdigits hhead
      have hd : d ≠ '0' := fun heq => hhead (congrArg some heq)
      have hwhole : wholeDigits (d :: (ds ++ rest)) =
          if (digits (d :: (ds ++ rest))).1 = [] then none
          else some (digits (d :: (ds ++ rest))) := by
        unfold wholeDigits
        split
        · rename_i heq
          exact absurd (List.cons.inj heq).1 hd
        · rfl
      rw [List.cons_append] at hdigits ⊢
      rw [hwhole, hdigits]
      simp

theorem unsigned_toDigits (negative : Bool) (n : Nat) {rest : List Char} (h : Closes rest) :
    unsigned negative (Nat.toDigits 10 n ++ rest) =
      some (.int (if negative then -(n : Int) else n), rest) := by
  simp only [unsigned, wholeDigits_toDigits n h, Option.map_some, markedDigits_point h,
    markedDigits_exponent h, and_self, if_true, Nat.ofDigitChars_ten_toDigits]

/-- What begins with a digit, behind a sign or without one, is a number. -/
theorem number_of_digit {d : Char} {cs : List Char} (hd : d.isDigit = true) :
    number (d :: cs) = unsigned false (d :: cs) ∧
      number ('-' :: d :: cs) = unsigned true (d :: cs) := by
  have hne : d ≠ '-' ∧ d ≠ 'I' ∧ d ≠ 'N' := by
    refine ⟨?_, ?_, ?_⟩ <;> (rintro rfl; revert hd; decide)
  constructor
  · rw [number.eq_def]
    split <;> simp_all
  · rw [number.eq_def]
    split <;> simp_all

theorem value_of_digit {n : Nat} {d : Char} {cs : List Char} (hd : d.isDigit = true ∨ d = '-') :
    value (n + 1) (d :: cs) = number (d :: cs) := by
  have hne : JsonValue.isWhite d = false ∧ d ≠ '"' ∧ d ≠ '[' ∧ d ≠ '{' ∧ d ≠ 'n' ∧ d ≠ 't' ∧
      d ≠ 'f' := by
    rcases hd with hd | rfl
    · refine ⟨?_, ?_, ?_, ?_, ?_, ?_, ?_⟩
      · rw [← Bool.not_eq_true]
        intro hwhite
        simp only [JsonValue.isWhite, Bool.or_eq_true, decide_eq_true_eq] at hwhite
        rcases hwhite with ((rfl | rfl) | rfl) | rfl <;> (revert hd; decide)
      all_goals
        rintro rfl
        revert hd
        decide
    · decide
  rw [value, JsonValue.skip_of_not_white hne.1]
  split <;> simp_all

/-- A scalar that is written is read, if something may follow it. -/
theorem value_chars (v : Scalar) (n : Nat) {rest : List Char} (h : Closes rest) :
    value (n + 1) (v.chars ++ rest) = some (v.data, rest) := by
  cases v with
  | str s =>
    have hquote : writeString s ++ rest = '"' :: (s.toList.flatMap escapeAscii ++ '"' :: rest) := by
      simp [writeString]
    rw [Scalar.chars, hquote, value, JsonValue.skip_of_not_white (by decide)]
    simp only [stringRest_writeString, Option.map_some, String.ofList_toList, Scalar.data]
  | int k =>
    have hdigit (m : Nat) : ∃ d ds, Nat.toDigits 10 m = d :: ds ∧ d.isDigit = true := by
      cases hds : Nat.toDigits 10 m with
      | nil => exact absurd hds Nat.toDigits_ne_nil
      | cons d ds =>
        have hmem : d ∈ Nat.toDigits 10 m := by
          rw [hds]
          exact List.mem_cons_self
        exact ⟨d, ds, rfl, Nat.isDigit_of_mem_toDigits (by decide) (by decide) hmem⟩
    cases k with
    | ofNat m =>
      obtain ⟨d, ds, hds, hd⟩ := hdigit m
      have hread := unsigned_toDigits false m h
      rw [hds, List.cons_append] at hread
      rw [Scalar.chars, hds, List.cons_append, value_of_digit (.inl hd), (number_of_digit hd).1,
        hread]
      rfl
    | negSucc m =>
      obtain ⟨d, ds, hds, hd⟩ := hdigit (m + 1)
      have hread := unsigned_toDigits true (m + 1) h
      rw [hds, List.cons_append] at hread
      rw [Scalar.chars, hds, List.cons_append, List.cons_append, value_of_digit (.inr rfl),
        (number_of_digit hd).2, hread]
      rfl

/-- A name with its value. -/
theorem field_chars (name : String) (v : Scalar) (n : Nat) {rest : List Char} (h : Closes rest) :
    field (n + 2) (writeString name ++ ':' :: (v.chars ++ rest)) = some ((name, v.data), rest) := by
  have hquote : writeString name ++ ':' :: (v.chars ++ rest) =
      '"' :: (name.toList.flatMap escapeAscii ++ '"' :: ':' :: (v.chars ++ rest)) := by
    simp [writeString]
  rw [hquote, field, JsonValue.skip_of_not_white (by decide)]
  simp only [stringRest_writeString, Option.bind_some, String.ofList_toList,
    JsonValue.skip_of_not_white (c := ':') (by decide), value_chars v n h, Option.map_some]

theorem fields_moreFields (fs : List (String × Scalar)) (n : Nat) (rest : List Char) :
    fields (fs.length + n + 2) (moreFields fs ++ rest) =
      some (fs.map fun f => (f.1, f.2.data), rest) := by
  induction fs with
  | nil => rfl
  | cons f fs ih =>
    obtain ⟨name, v⟩ := f
    have hfuel : (⟨name, v⟩ :: fs).length + n + 2 = fs.length + n + 2 + 1 := by
      rw [List.length_cons]
      omega
    have hfield := field_chars name v (fs.length + n) (closes_moreFields fs rest)
    have htext : moreFields ((name, v) :: fs) ++ rest =
        ',' :: (writeString name ++ ':' :: (v.chars ++ (moreFields fs ++ rest))) := by
      simp [moreFields]
    rw [hfuel, htext, fields, JsonValue.skip_of_not_white (by decide)]
    simp only [hfield, Option.bind_some, ih, Option.map_some, List.map_cons]

theorem length_moreFields (fs : List (String × Scalar)) :
    fs.length + 1 ≤ (moreFields fs).length := by
  induction fs with
  | nil => exact Nat.le_refl _
  | cons f fs ih =>
    rw [moreFields, List.length_cons, List.length_cons, List.length_append, List.length_cons,
      List.length_append]
    omega

/-- **What is written is read back.** -/
theorem loads_dumps (fs : List (String × Scalar)) :
    loads (dumps fs) = some (.obj (fs.map fun f => (f.1, f.2.data))) := by
  cases fs with
  | nil => rfl
  | cons f fs =>
    obtain ⟨name, v⟩ := f
    have hlength := length_moreFields fs
    -- a length beyond what the fields need is no harm
    obtain ⟨n, hn⟩ : ∃ n, (dumps ((name, v) :: fs)).length = fs.length + n + 2 := by
      refine ⟨(dumps ((name, v) :: fs)).length - fs.length - 2, ?_⟩
      rw [dumps, List.length_cons, List.length_append, List.length_cons, List.length_append]
      omega
    have hclose := closes_moreFields fs []
    rw [List.append_nil] at hclose
    have hfield := field_chars name v (fs.length + n) hclose
    have hfields := fields_moreFields fs n []
    rw [List.append_nil] at hfields
    have hhead : (JsonValue.skip (writeString name ++ ':' :: (v.chars ++ moreFields fs))).head? ≠
        some '}' := by
      rw [writeString, List.cons_append, JsonValue.skip_of_not_white (by decide)]
      exact fun h => absurd (Option.some.inj h) (by decide)
    rw [loads, hn, dumps, value, JsonValue.skip_of_not_white (by decide)]
    simp only [if_neg hhead, hfield, Option.bind_some, hfields, Option.map_some, List.map_cons]
    exact if_pos rfl

/-! ## ASCII -/

/-- A character of ASCII, but not the first one. -/
def Plain (c : Char) : Prop := 0 < c.toNat ∧ c.toNat < 128

instance (c : Char) : Decidable (Plain c) := inferInstanceAs (Decidable (_ ∧ _))

theorem plain_hexDigits {n : Nat} (hn : n < 65536) : ∀ c ∈ hexDigits n, Plain c := by
  have hdigit : ∀ m < 16, Plain (JsonValue.hexDigit m) := by decide
  intro c hc
  simp only [hexDigits, List.mem_cons, List.not_mem_nil, or_false] at hc
  rcases hc with rfl | rfl | rfl | rfl
  · exact hdigit _ (by omega)
  · exact hdigit _ (Nat.mod_lt _ (by decide))
  · exact hdigit _ (Nat.mod_lt _ (by decide))
  · exact hdigit _ (Nat.mod_lt _ (by decide))

theorem plain_escapeAscii (c : Char) : ∀ d ∈ escapeAscii c, Plain d := by
  have hvalid : c.toNat < 1114112 := by
    rcases c.valid with h | ⟨-, h⟩
    · exact Nat.lt_trans h (by decide)
    · exact h
  have hpair {x y : Char} (hx : Plain x) (hy : Plain y) : ∀ d ∈ [x, y], Plain d := by
    intro d hd
    rcases List.mem_cons.mp hd with rfl | hd
    · exact hx
    · obtain rfl := List.mem_singleton.mp hd
      exact hy
  have hcode (n : Nat) (rest : List Char) (hn : n < 65536) (hrest : ∀ d ∈ rest, Plain d) :
      ∀ d ∈ '\\' :: 'u' :: (hexDigits n ++ rest), Plain d := by
    intro d hd
    rcases List.mem_cons.mp hd with rfl | hd
    · decide
    rcases List.mem_cons.mp hd with rfl | hd
    · decide
    rcases List.mem_append.mp hd with hd | hd
    · exact plain_hexDigits hn d hd
    · exact hrest d hd
  unfold escapeAscii
  split_ifs with hquote hback h8 h9 h10 h12 h13 hprint hsmall
  · exact hpair (by decide) (by decide)
  · exact hpair (by decide) (by decide)
  · exact hpair (by decide) (by decide)
  · exact hpair (by decide) (by decide)
  · exact hpair (by decide) (by decide)
  · exact hpair (by decide) (by decide)
  · exact hpair (by decide) (by decide)
  · intro d hd
    obtain rfl := List.mem_singleton.mp hd
    exact ⟨by omega, by omega⟩
  · have h := hcode c.toNat [] hsmall nofun
    rwa [List.append_nil] at h
  · have h := hcode (56320 + (c.toNat - 65536) % 1024) [] (by omega) nofun
    rw [List.append_nil] at h
    exact hcode _ _ (by omega) h

theorem plain_writeString (s : String) : ∀ c ∈ writeString s, Plain c := by
  intro c hc
  rcases List.mem_cons.mp hc with rfl | hc
  · decide
  rcases List.mem_append.mp hc with hc | hc
  · obtain ⟨d, -, hd⟩ := List.mem_flatMap.mp hc
    exact plain_escapeAscii d c hd
  · obtain rfl := List.mem_singleton.mp hc
    decide

theorem plain_toDigits (n : Nat) : ∀ c ∈ Nat.toDigits 10 n, Plain c := by
  intro c hc
  have hdigit := Nat.isDigit_of_mem_toDigits (b := 10) (n := n) (by decide) (by decide) hc
  simp only [Char.isDigit, Bool.and_eq_true, decide_eq_true_eq, UInt32.le_iff_toNat_le,
    ge_iff_le] at hdigit
  have hval : c.toNat = c.val.toNat := rfl
  have hnine : '9'.val.toNat = 57 := rfl
  have hzero : '0'.val.toNat = 48 := rfl
  exact ⟨by omega, by omega⟩

theorem plain_chars (v : Scalar) : ∀ c ∈ v.chars, Plain c := by
  match v with
  | .str s => exact plain_writeString s
  | .int (.ofNat n) => exact plain_toDigits n
  | .int (.negSucc n) =>
    intro c hc
    rcases List.mem_cons.mp hc with rfl | hc
    · decide
    · exact plain_toDigits _ c hc

theorem plain_moreFields (fs : List (String × Scalar)) : ∀ c ∈ moreFields fs, Plain c := by
  induction fs with
  | nil =>
    intro c hc
    obtain rfl := List.mem_singleton.mp hc
    decide
  | cons f fs ih =>
    obtain ⟨name, v⟩ := f
    intro c hc
    simp only [moreFields, List.mem_cons, List.mem_append] at hc
    rcases hc with rfl | hc | rfl | hc | hc
    · decide
    · exact plain_writeString name c hc
    · decide
    · exact plain_chars v c hc
    · exact ih c hc

/-- **What is written is ASCII**, and no character is zero. -/
theorem plain_dumps (fs : List (String × Scalar)) : ∀ c ∈ dumps fs, Plain c := by
  intro c hc
  match fs with
  | [] =>
    simp only [dumps, List.mem_cons, List.not_mem_nil, or_false] at hc
    rcases hc with rfl | rfl <;> decide
  | (name, v) :: fs =>
    simp only [dumps, List.mem_cons, List.mem_append] at hc
    rcases hc with rfl | hc | rfl | hc | hc
    · decide
    · exact plain_writeString name c hc
    · decide
    · exact plain_chars v c hc
    · exact plain_moreFields fs c hc

end JsonData

end Text
