import Mathlib.Data.List.Nodup

/-!
# JSON as text

Values without numbers, the text a serializer writes for one, and a reader. The text has no white
space and escapes what it must: quotation marks, backslashes and what is below a space. The reader
takes any text, with white space between the tokens and every escape.

**What is written is read back** (`loads_dumps`). The proof goes by the value, with whatever follows
it in the text left open, and the length of the text as the fuel.
-/

namespace Text

/-- A JSON value, but no number. -/
inductive JsonValue
  | null
  | bool (b : Bool)
  | str (s : String)
  | arr (items : List JsonValue)
  | obj (fields : List (String × JsonValue))

namespace JsonValue

/-! ## Writing -/

def hexDigit (n : Nat) : Char := Char.ofNat (if n < 10 then 48 + n else 87 + n)

/-- One character of a string. -/
def escape (c : Char) : List Char :=
  if c = '"' then ['\\', '"']
  else if c = '\\' then ['\\', '\\']
  else if c.toNat < 32 then
    if c.toNat = 8 then ['\\', 'b']
    else if c.toNat = 9 then ['\\', 't']
    else if c.toNat = 10 then ['\\', 'n']
    else if c.toNat = 12 then ['\\', 'f']
    else if c.toNat = 13 then ['\\', 'r']
    else ['\\', 'u', '0', '0', hexDigit (c.toNat / 16), hexDigit (c.toNat % 16)]
  else [c]

/-- A string, with its quotation marks. -/
def quote (s : String) : List Char := '"' :: s.toList.flatMap escape ++ ['"']

mutual

/-- The text of a value. -/
def chars : JsonValue → List Char
  | .null => ['n', 'u', 'l', 'l']
  | .bool true => ['t', 'r', 'u', 'e']
  | .bool false => ['f', 'a', 'l', 's', 'e']
  | .str s => quote s
  | .arr [] => ['[', ']']
  | .arr (v :: vs) => '[' :: (chars v ++ moreItems vs)
  | .obj [] => ['{', '}']
  | .obj ((name, v) :: fs) => '{' :: (quote name ++ ':' :: (chars v ++ moreFields fs))

/-- What follows the first item of a list. -/
def moreItems : List JsonValue → List Char
  | [] => [']']
  | v :: vs => ',' :: (chars v ++ moreItems vs)

/-- What follows the first field of an object. -/
def moreFields : List (String × JsonValue) → List Char
  | [] => ['}']
  | (name, v) :: fs => ',' :: (quote name ++ ':' :: (chars v ++ moreFields fs))

end

/-- `dumps`, without white space. -/
def dumps (v : JsonValue) : String := String.ofList v.chars

/-! ## Reading -/

def hexValue (c : Char) : Option Nat :=
  if '0' ≤ c ∧ c ≤ '9' then some (c.toNat - 48)
  else if 'a' ≤ c ∧ c ≤ 'f' then some (c.toNat - 87)
  else if 'A' ≤ c ∧ c ≤ 'F' then some (c.toNat - 55)
  else none

/-- Four digits. -/
def hex4 (a b c d : Char) : Option Nat :=
  match hexValue a, hexValue b, hexValue c, hexValue d with
  | some a, some b, some c, some d => some (4096 * a + 256 * b + 16 * c + d)
  | _, _, _, _ => none

/-- What a letter after a backslash stands for. -/
def unescape : Char → Option Char
  | '"' => some '"'
  | '\\' => some '\\'
  | '/' => some '/'
  | 'b' => some (Char.ofNat 8)
  | 't' => some (Char.ofNat 9)
  | 'n' => some (Char.ofNat 10)
  | 'f' => some (Char.ofNat 12)
  | 'r' => some (Char.ofNat 13)
  | _ => none

def push (c : Char) (read : List Char × List Char) : List Char × List Char := (c :: read.1, read.2)

/-- The rest of a string, behind its first quotation mark, and what follows it. -/
def stringRest : List Char → Option (List Char × List Char)
  | [] => none
  | '"' :: rest => some ([], rest)
  | '\\' :: 'u' :: a :: b :: c :: d :: rest =>
    (hex4 a b c d).bind fun n =>
      if n < 55296 ∨ 57344 ≤ n then (stringRest rest).map (push (Char.ofNat n))
      else
        -- half of a pair, and alone it is no character
        match rest with
        | '\\' :: 'u' :: e :: f :: g :: h :: rest =>
          (hex4 e f g h).bind fun m =>
            if n < 56320 ∧ 56320 ≤ m ∧ m < 57344 then
              (stringRest rest).map (push (Char.ofNat (65536 + 1024 * (n - 55296) + (m - 56320))))
            else none
        | _ => none
  | '\\' :: e :: rest => (unescape e).bind fun c => (stringRest rest).map (push c)
  | c :: rest => if c.toNat < 32 then none else (stringRest rest).map (push c)

def isWhite (c : Char) : Bool := c = ' ' || c = '\t' || c = '\n' || c = '\r'

/-- White space is nothing. -/
def skip (cs : List Char) : List Char := cs.dropWhile isWhite

mutual

/-- A value, and what follows it. -/
def value : Nat → List Char → Option (JsonValue × List Char)
  | 0, _ => none
  | n + 1, cs =>
    match skip cs with
    | '"' :: cs => (stringRest cs).map fun x => (.str (String.ofList x.1), x.2)
    | '[' :: cs =>
      if (skip cs).head? = some ']' then some (.arr [], (skip cs).tail)
      else (value n cs).bind fun x => (items n x.2).map fun y => (.arr (x.1 :: y.1), y.2)
    | '{' :: cs =>
      if (skip cs).head? = some '}' then some (.obj [], (skip cs).tail)
      else (field n cs).bind fun x => (fields n x.2).map fun y => (.obj (x.1 :: y.1), y.2)
    | 'n' :: 'u' :: 'l' :: 'l' :: cs => some (.null, cs)
    | 't' :: 'r' :: 'u' :: 'e' :: cs => some (.bool true, cs)
    | 'f' :: 'a' :: 'l' :: 's' :: 'e' :: cs => some (.bool false, cs)
    | _ => none

/-- The items that follow one, up to the bracket. -/
def items : Nat → List Char → Option (List JsonValue × List Char)
  | 0, _ => none
  | n + 1, cs =>
    match skip cs with
    | ']' :: cs => some ([], cs)
    | ',' :: cs => (value n cs).bind fun x => (items n x.2).map fun y => (x.1 :: y.1, y.2)
    | _ => none

/-- A name and a value. -/
def field : Nat → List Char → Option ((String × JsonValue) × List Char)
  | 0, _ => none
  | n + 1, cs =>
    match skip cs with
    | '"' :: cs =>
      (stringRest cs).bind fun x =>
        match skip x.2 with
        | ':' :: cs => (value n cs).map fun y => ((String.ofList x.1, y.1), y.2)
        | _ => none
    | _ => none

/-- The fields that follow one, up to the brace. -/
def fields : Nat → List Char → Option (List (String × JsonValue) × List Char)
  | 0, _ => none
  | n + 1, cs =>
    match skip cs with
    | '}' :: cs => some ([], cs)
    | ',' :: cs => (field n cs).bind fun x => (fields n x.2).map fun y => (x.1 :: y.1, y.2)
    | _ => none

end

/-- `loads`: one value, and nothing after it. -/
def loads (text : String) : Option JsonValue :=
  (value (text.toList.length + 1) text.toList).bind fun x => if skip x.2 = [] then some x.1 else none

/-! ## Fields -/

/-- What a name is looked up as: of two fields of one name, the later one. -/
def get (fields : List (String × JsonValue)) (name : String) : Option JsonValue :=
  ((fields.filter (·.1 = name)).getLast?).map Prod.snd

/-- `{**fields, name: v}`. -/
def override (fields : List (String × JsonValue)) (name : String) (v : JsonValue) : List (String × JsonValue) :=
  fields.filter (·.1 ≠ name) ++ [(name, v)]

section Fields

variable {fs gs : List (String × JsonValue)} {name other : String} {v : JsonValue}

/-- Where every name is there once, it is looked up as what it stands for. -/
theorem get_eq_some (h : (fs.map Prod.fst).Nodup) (hmem : (name, v) ∈ fs) :
    get fs name = some v := by
  have hall : ∀ x ∈ fs.filter (·.1 = name), x = (name, v) := by
    intro x hx
    obtain ⟨hx, hname⟩ := List.mem_filter.mp hx
    exact List.inj_on_of_nodup_map h hx hmem (of_decide_eq_true hname)
  have hfound : (name, v) ∈ fs.filter (·.1 = name) :=
    List.mem_filter.mpr ⟨hmem, decide_eq_true rfl⟩
  obtain ⟨last, hlast⟩ := Option.isSome_iff_exists.mp
    (List.getLast?_isSome.mpr (List.ne_nil_of_mem hfound))
  rw [get, hlast, hall last (List.mem_of_getLast? hlast)]
  rfl

/-- The order of the fields makes no difference. -/
theorem get_perm (h : (fs.map Prod.fst).Nodup) (hperm : gs.Perm fs) (hmem : (name, v) ∈ fs) :
    get gs name = some v :=
  get_eq_some ((hperm.map Prod.fst).nodup_iff.mpr h) (hperm.mem_iff.mpr hmem)

theorem get_eq_none (h : name ∉ fs.map Prod.fst) : get fs name = none := by
  have hnone : fs.filter (·.1 = name) = [] := by
    refine List.filter_eq_nil_iff.mpr fun x hx hname => h ?_
    exact List.mem_map.mpr ⟨x, hx, of_decide_eq_true hname⟩
  rw [get, hnone]
  rfl

theorem get_override_self : get (override fs name v) name = some v := by
  have hself : (override fs name v).filter (·.1 = name) = [(name, v)] := by
    rw [override, List.filter_append, List.filter_filter]
    simp
  rw [get, hself]
  rfl

theorem get_override_of_ne (h : other ≠ name) : get (override fs name v) other = get fs other := by
  have hsame : (override fs name v).filter (·.1 = other) = fs.filter (·.1 = other) := by
    rw [override, List.filter_append, List.filter_filter]
    have hlast : [(name, v)].filter (·.1 = other) = [] := by simp [Ne.symm h]
    rw [hlast, List.append_nil]
    refine List.filter_congr fun x _ => ?_
    by_cases hx : x.1 = other
    · simp [hx, h]
    · simp [hx]
  rw [get, hsame, get]

end Fields

/-! ## Back again -/

theorem hex4_hexDigit {n : Nat} (h : n < 32) :
    hex4 '0' '0' (hexDigit (n / 16)) (hexDigit (n % 16)) = some n := by
  revert n
  decide

/-- A character that is written is read. -/
theorem stringRest_escape (c : Char) (rest : List Char) :
    stringRest (escape c ++ rest) = (stringRest rest).map (push c) := by
  have hofNat (n : Nat) (h : c.toNat = n) : Char.ofNat n = c := h ▸ Char.ofNat_toNat c
  unfold escape
  split_ifs with hquote hback hlow h8 h9 h10 h12 h13
  · subst hquote
    rfl
  · subst hback
    rfl
  · exact congrArg (fun c => (stringRest rest).map (push c)) (hofNat 8 h8)
  · exact congrArg (fun c => (stringRest rest).map (push c)) (hofNat 9 h9)
  · exact congrArg (fun c => (stringRest rest).map (push c)) (hofNat 10 h10)
  · exact congrArg (fun c => (stringRest rest).map (push c)) (hofNat 12 h12)
  · exact congrArg (fun c => (stringRest rest).map (push c)) (hofNat 13 h13)
  · have hread : stringRest ('\\' :: 'u' :: '0' :: '0' :: hexDigit (c.toNat / 16) ::
        hexDigit (c.toNat % 16) :: rest) = (stringRest rest).map (push (Char.ofNat c.toNat)) := by
      rw [stringRest, hex4_hexDigit hlow, Option.bind_some, if_pos (.inl (by omega))]
    rw [Char.ofNat_toNat] at hread
    exact hread
  · have hread : stringRest (c :: rest) = if c.toNat < 32 then none
        else (stringRest rest).map (push c) := by
      rw [stringRest.eq_def]
      split <;> simp_all
    rw [List.singleton_append, hread, if_neg hlow]

/-- A string that is written is read. -/
theorem stringRest_quote (s : List Char) (rest : List Char) :
    stringRest (s.flatMap escape ++ '"' :: rest) = some (s, rest) := by
  induction s with
  | nil => rfl
  | cons c cs ih =>
    rw [List.flatMap_cons, List.append_assoc, stringRest_escape, ih]
    rfl

/-! ### Values -/

theorem skip_of_not_white {c : Char} {cs : List Char} (h : isWhite c = false) :
    skip (c :: cs) = c :: cs := by
  rw [skip, List.dropWhile_cons, if_neg (by rw [h]; exact Bool.false_ne_true)]

/-- The first character of a value is neither white space nor the end of anything. -/
theorem chars_eq_cons (v : JsonValue) : ∃ c cs, v.chars = c :: cs ∧ isWhite c = false ∧ c ≠ ']' := by
  match v with
  | .null => exact ⟨_, _, rfl, by decide⟩
  | .bool true => exact ⟨_, _, rfl, by decide⟩
  | .bool false => exact ⟨_, _, rfl, by decide⟩
  | .str s => exact ⟨_, _, rfl, by decide⟩
  | .arr [] => exact ⟨_, _, rfl, by decide⟩
  | .arr (v :: vs) => exact ⟨_, _, rfl, by decide⟩
  | .obj [] => exact ⟨_, _, rfl, by decide⟩
  | .obj (f :: fs) => exact ⟨_, _, rfl, by decide⟩

theorem skip_chars (v : JsonValue) (rest : List Char) : skip (v.chars ++ rest) = v.chars ++ rest := by
  obtain ⟨c, cs, hchars, hwhite, -⟩ := chars_eq_cons v
  rw [hchars, List.cons_append, skip_of_not_white hwhite]

theorem head?_chars_ne (v : JsonValue) (rest : List Char) :
    (skip (v.chars ++ rest)).head? ≠ some ']' := by
  obtain ⟨c, cs, hchars, -, hne⟩ := chars_eq_cons v
  rw [skip_chars, hchars]
  exact fun h => hne (Option.some.inj h)

theorem value_quote {n : Nat} {s : String} {rest : List Char} :
    value (n + 1) (quote s ++ rest) = some (.str s, rest) := by
  have hquote : quote s ++ rest = '"' :: (s.toList.flatMap escape ++ '"' :: rest) := by
    simp [quote]
  rw [hquote, value, skip_of_not_white (by decide)]
  simp only [stringRest_quote, Option.map_some, String.ofList_toList]

theorem head?_quote_ne {s : String} {rest : List Char} :
    (skip (quote s ++ rest)).head? ≠ some '}' := by
  have hquote : quote s ++ rest = '"' :: (s.toList.flatMap escape ++ '"' :: rest) := by
    simp [quote]
  rw [hquote, skip_of_not_white (by decide)]
  exact fun h => absurd (Option.some.inj h) (by decide)

/-- A name with its value, once the value is read. -/
theorem field_quote {n : Nat} {name : String} {v : JsonValue} {text rest : List Char}
    (h : value n text = some (v, rest)) :
    field (n + 1) (quote name ++ ':' :: text) = some ((name, v), rest) := by
  have hquote : quote name ++ ':' :: text
      = '"' :: (name.toList.flatMap escape ++ '"' :: ':' :: text) := by
    simp [quote]
  rw [hquote, field, skip_of_not_white (by decide)]
  simp only [stringRest_quote, Option.bind_some, skip_of_not_white (c := ':') (by decide), h,
    Option.map_some, String.ofList_toList]

mutual

/-- A value that is written is read, whatever follows it. -/
theorem value_chars : ∀ (v : JsonValue) (n : Nat) (rest : List Char), v.chars.length ≤ n →
    value n (v.chars ++ rest) = some (v, rest)
  | v, 0, rest, h => by
    obtain ⟨c, cs, hchars, -⟩ := chars_eq_cons v
    rw [hchars] at h
    cases h
  | .null, n + 1, rest, _ => rfl
  | .bool true, n + 1, rest, _ => rfl
  | .bool false, n + 1, rest, _ => rfl
  | .str s, n + 1, rest, _ => value_quote
  | .arr [], n + 1, rest, _ => rfl
  | .arr (v :: vs), n + 1, rest, h => by
    simp only [chars, List.length_cons, List.length_append] at h
    have hvalue := value_chars v n (moreItems vs ++ rest) (by omega)
    have hitems := items_moreItems vs n rest (by omega)
    rw [chars, List.cons_append, List.append_assoc, value, skip_of_not_white (by decide)]
    simp only [if_neg (head?_chars_ne v _), hvalue, Option.bind_some, hitems, Option.map_some]
  | .obj [], n + 1, rest, _ => rfl
  | .obj ((name, v) :: fs), n + 1, rest, h => by
    simp only [chars, List.length_cons, List.length_append] at h
    obtain ⟨k, rfl⟩ : ∃ k, n = k + 1 := ⟨n - 1, by omega⟩
    have hvalue := value_chars v k (moreFields fs ++ rest) (by omega)
    have hfields := fields_moreFields fs (k + 1) rest (by omega)
    have htext : (JsonValue.obj ((name, v) :: fs)).chars ++ rest
        = '{' :: (quote name ++ ':' :: (v.chars ++ (moreFields fs ++ rest))) := by
      simp [chars]
    rw [htext, value, skip_of_not_white (by decide)]
    simp only [if_neg head?_quote_ne, field_quote hvalue, Option.bind_some, hfields, Option.map_some]

theorem items_moreItems : ∀ (vs : List JsonValue) (n : Nat) (rest : List Char),
    (moreItems vs).length ≤ n → items n (moreItems vs ++ rest) = some (vs, rest)
  | [], 0, rest, h => by cases h
  | _ :: _, 0, rest, h => by cases h
  | [], n + 1, rest, _ => rfl
  | v :: vs, n + 1, rest, h => by
    simp only [moreItems, List.length_cons, List.length_append] at h
    have hvalue := value_chars v n (moreItems vs ++ rest) (by omega)
    have hitems := items_moreItems vs n rest (by omega)
    rw [moreItems, List.cons_append, List.append_assoc, items, skip_of_not_white (by decide)]
    simp only [hvalue, Option.bind_some, hitems, Option.map_some]

theorem fields_moreFields : ∀ (fs : List (String × JsonValue)) (n : Nat) (rest : List Char),
    (moreFields fs).length ≤ n → fields n (moreFields fs ++ rest) = some (fs, rest)
  | [], 0, rest, h => by cases h
  | _ :: _, 0, rest, h => by cases h
  | [], n + 1, rest, _ => rfl
  | (name, v) :: fs, n + 1, rest, h => by
    simp only [moreFields, List.length_cons, List.length_append] at h
    obtain ⟨k, rfl⟩ : ∃ k, n = k + 1 := ⟨n - 1, by omega⟩
    have hvalue := value_chars v k (moreFields fs ++ rest) (by omega)
    have hfields := fields_moreFields fs (k + 1) rest (by omega)
    have htext : moreFields ((name, v) :: fs) ++ rest
        = ',' :: (quote name ++ ':' :: (v.chars ++ (moreFields fs ++ rest))) := by
      simp [moreFields]
    rw [htext, fields, skip_of_not_white (by decide)]
    simp only [field_quote hvalue, Option.bind_some, hfields, Option.map_some]

end

/-- **What is written is read back.** -/
theorem loads_dumps (v : JsonValue) : loads (dumps v) = some v := by
  have hread := value_chars v (v.chars.length + 1) [] (Nat.le_succ _)
  rw [List.append_nil] at hread
  rw [loads, dumps, String.toList_ofList, hread, Option.bind_some]
  exact if_pos rfl

end JsonValue

end Text
