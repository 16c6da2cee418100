import Mathlib.Data.List.DropRight

/-!
# Base 64 for addresses

Three bytes become four characters, and what is left at the end is filled up with `=`. In an address
`+` and `/` mean something else, so they are replaced, and the filling is taken off again, which
leaves four characters for three bytes, rounded up (`length_urlSafe`). Filled up again it is decoded
to the same bytes (`fromUrlSafe_urlSafe`); the decoder passes over what is not in the table.
-/

namespace Text

/-- The characters, in their order. -/
def BASE64 : List Char :=
  "ABCDEFGHIJKLMNOPQRSTUVWXYZabcdefghijklmnopqrstuvwxyz0123456789+/".toList

/-- The character of six bits. -/
def base64Char (n : Nat) : Char := BASE64.getD (n % 64) 'A'

/-- `base64.b64encode`. -/
def b64encode : List UInt8 → List Char
  | [] => []
  | [a] => [base64Char (a.toNat / 4), base64Char (a.toNat * 16), '=', '=']
  | [a, b] =>
    [base64Char (a.toNat / 4), base64Char (a.toNat * 16 + b.toNat / 16),
      base64Char (b.toNat * 4), '=']
  | a :: b :: c :: rest =>
    base64Char (a.toNat / 4) :: base64Char (a.toNat * 16 + b.toNat / 16) ::
      base64Char (b.toNat * 4 + c.toNat / 64) :: base64Char c.toNat :: b64encode rest

/-- `.replace("+", "-").replace("/", "_")`, of a character. -/
def urlSafeChar (c : Char) : Char := if c = '+' then '-' else if c = '/' then '_' else c

/-- With the characters replaced, and `.rstrip("=")`. -/
def urlSafe (bytes : List UInt8) : List Char :=
  ((b64encode bytes).map urlSafeChar).rdropWhile (· = '=')

/-- What the table is looked through for: its characters, replaced for an address or not, are no
filling, and they are ASCII. -/
theorem table_checked : ∀ i < 64,
    urlSafeChar (BASE64.getD i 'A') ≠ '=' ∧ BASE64.getD i 'A' ≠ '=' ∧
      (urlSafeChar (BASE64.getD i 'A')).toNat < 128 := by
  decide +kernel

/-- What stands for bits is no filling. -/
theorem urlSafeChar_base64Char_ne (n : Nat) : urlSafeChar (base64Char n) ≠ '=' :=
  (table_checked _ (Nat.mod_lt _ (by decide))).1

/-- The filling of one byte is taken off. -/
theorem filling_taken_off (n : Nat) :
    ((List.replicate n '=').map urlSafeChar).rdropWhile (· = '=') = [] := by
  have hfilling : urlSafeChar '=' = '=' := by decide
  simp [List.rdropWhile_eq_nil_iff, hfilling]

/-- A text is shortened behind its first characters. -/
theorem rdropWhile_cons {p : Char → Bool} {c : Char} {cs : List Char} (h : p c = false) :
    (c :: cs).rdropWhile p = c :: cs.rdropWhile p := by
  rw [List.rdropWhile, List.rdropWhile, List.reverse_cons, List.dropWhile_append]
  split
  · rename_i hempty
    rw [List.isEmpty_iff.mp hempty]
    simp [h]
  · simp

theorem not_filling (n : Nat) : decide (urlSafeChar (base64Char n) = '=') = false :=
  decide_eq_false (urlSafeChar_base64Char_ne n)

/-- By three bytes at a time: the characters stay, the filling is taken off. -/
theorem urlSafe_one (a : UInt8) :
    urlSafe [a] =
      [urlSafeChar (base64Char (a.toNat / 4)), urlSafeChar (base64Char (a.toNat * 16))] := by
  have hfill : (['=', '='].map urlSafeChar).rdropWhile (· = '=') = [] := filling_taken_off 2
  rw [urlSafe, b64encode, List.map_cons, rdropWhile_cons (not_filling _), List.map_cons,
    rdropWhile_cons (not_filling _), hfill]

theorem urlSafe_two (a b : UInt8) :
    urlSafe [a, b] =
      [urlSafeChar (base64Char (a.toNat / 4)),
        urlSafeChar (base64Char (a.toNat * 16 + b.toNat / 16)),
        urlSafeChar (base64Char (b.toNat * 4))] := by
  have hfill : (['='].map urlSafeChar).rdropWhile (· = '=') = [] := filling_taken_off 1
  rw [urlSafe, b64encode, List.map_cons, rdropWhile_cons (not_filling _), List.map_cons,
    rdropWhile_cons (not_filling _), List.map_cons, rdropWhile_cons (not_filling _), hfill]

theorem urlSafe_three (a b c : UInt8) (rest : List UInt8) :
    urlSafe (a :: b :: c :: rest) =
      urlSafeChar (base64Char (a.toNat / 4)) ::
        urlSafeChar (base64Char (a.toNat * 16 + b.toNat / 16)) ::
        urlSafeChar (base64Char (b.toNat * 4 + c.toNat / 64)) ::
        urlSafeChar (base64Char c.toNat) :: urlSafe rest := by
  rw [urlSafe, b64encode, List.map_cons, rdropWhile_cons (not_filling _), List.map_cons,
    rdropWhile_cons (not_filling _), List.map_cons, rdropWhile_cons (not_filling _), List.map_cons,
    rdropWhile_cons (not_filling _), ← urlSafe]

/-- **The length**, by three bytes at a time. -/
theorem length_urlSafe : ∀ bytes : List UInt8,
    (urlSafe bytes).length = (4 * bytes.length + 2) / 3 := by
  intro bytes
  induction bytes using b64encode.induct with
  | case1 => rfl
  | case2 a => simp [urlSafe_one]
  | case3 a b => simp [urlSafe_two]
  | case4 a b c rest ih =>
    rw [urlSafe_three]
    simp only [List.length_cons, ih]
    omega

/-! ## Back again -/

/-- The six bits of a character. -/
def base64Value (c : Char) : Option Nat := BASE64.findIdx? (· = c)

/-- `binascii.a2b_base64`: `place` characters of four have been read, `left` are the bits of the
last one that are not used yet, and `pads` fillings have been seen. What is no character of the
table is passed over; a filling that completes four ends the text. -/
def a2b : Nat → Nat → Nat → List Char → Option (List UInt8)
  | place, _, _, [] => if place = 0 then some [] else none
  | place, left, pads, c :: cs =>
    if c = '=' then
      if 2 ≤ place then
        if 4 ≤ place + (pads + 1) then some [] else a2b place left (pads + 1) cs
      else a2b place left pads cs
    else
      match base64Value c with
      | none => a2b place left pads cs
      | some bits =>
        if place = 0 then a2b 1 bits 0 cs
        else if place = 1 then
          (a2b 2 (bits % 16) 0 cs).map (UInt8.ofNat (left * 4 + bits / 16) :: ·)
        else if place = 2 then
          (a2b 3 (bits % 4) 0 cs).map (UInt8.ofNat (left * 16 + bits / 4) :: ·)
        else (a2b 0 0 0 cs).map (UInt8.ofNat (left * 64 + bits) :: ·)

/-- `-` and `_` are `+` and `/`. -/
def standardChar (c : Char) : Char := if c = '-' then '+' else if c = '_' then '/' else c

/-- As many signs as are missing from four. -/
def filling (n : Nat) : List Char := List.replicate ((4 - n % 4) % 4) '='

/-- `base64.urlsafe_b64decode`, of a text that is filled up. -/
def fromUrlSafe (text : List Char) : Option (List UInt8) :=
  if text.all (·.toNat < 128) then a2b 0 0 0 ((text ++ filling text.length).map standardChar)
  else none

/-- And for the way back: each character is read as its own place. -/
theorem table_read : ∀ i < 64,
    standardChar (urlSafeChar (BASE64.getD i 'A')) = BASE64.getD i 'A' ∧
      base64Value (BASE64.getD i 'A') = some i := by
  decide +kernel

theorem standardChar_base64Char (n : Nat) :
    standardChar (urlSafeChar (base64Char n)) = base64Char n :=
  (table_read _ (Nat.mod_lt _ (by decide))).1

theorem base64Value_base64Char (n : Nat) : base64Value (base64Char n) = some (n % 64) :=
  (table_read _ (Nat.mod_lt _ (by decide))).2

theorem base64Char_ne (n : Nat) : base64Char n ≠ '=' :=
  (table_checked _ (Nat.mod_lt _ (by decide))).2.1

/-- One character of the text, read at a place. -/
theorem a2b_base64Char (place left pads n : Nat) (cs : List Char) :
    a2b place left pads (base64Char n :: cs) =
      if place = 0 then a2b 1 (n % 64) 0 cs
      else if place = 1 then
        (a2b 2 (n % 64 % 16) 0 cs).map (UInt8.ofNat (left * 4 + n % 64 / 16) :: ·)
      else if place = 2 then
        (a2b 3 (n % 64 % 4) 0 cs).map (UInt8.ofNat (left * 16 + n % 64 / 4) :: ·)
      else (a2b 0 0 0 cs).map (UInt8.ofNat (left * 64 + n % 64) :: ·) := by
  rw [a2b, if_neg (base64Char_ne n), base64Value_base64Char]

theorem ofNat_of_eq {a : UInt8} {n : Nat} (h : n = a.toNat) : UInt8.ofNat n = a := by
  rw [h, UInt8.ofNat_toNat]

/-- What a character has of a byte goes together with what the next one has. -/
theorem first_alone (a : UInt8) :
    UInt8.ofNat (a.toNat / 4 % 64 * 4 + a.toNat * 16 % 64 / 16) = a := by
  have ha := a.toNat_lt
  exact ofNat_of_eq (by omega)

theorem first_byte (a b : UInt8) :
    UInt8.ofNat (a.toNat / 4 % 64 * 4 + (a.toNat * 16 + b.toNat / 16) % 64 / 16) = a := by
  have ha := a.toNat_lt
  have hb := b.toNat_lt
  exact ofNat_of_eq (by omega)

theorem second_last (a b : UInt8) :
    UInt8.ofNat ((a.toNat * 16 + b.toNat / 16) % 64 % 16 * 16 + b.toNat * 4 % 64 / 4) = b := by
  have hb := b.toNat_lt
  exact ofNat_of_eq (by omega)

theorem second_byte (a b c : UInt8) : UInt8.ofNat ((a.toNat * 16 + b.toNat / 16) % 64 % 16 * 16 +
    (b.toNat * 4 + c.toNat / 64) % 64 / 4) = b := by
  have hb := b.toNat_lt
  have hc := c.toNat_lt
  exact ofNat_of_eq (by omega)

theorem third_byte (b c : UInt8) :
    UInt8.ofNat ((b.toNat * 4 + c.toNat / 64) % 64 % 4 * 64 + c.toNat % 64) = c := by
  have hc := c.toNat_lt
  exact ofNat_of_eq (by omega)

/-- **Bytes that are encoded are decoded.** -/
theorem a2b_b64encode : ∀ bytes : List UInt8, a2b 0 0 0 (b64encode bytes) = some bytes := by
  intro bytes
  induction bytes using b64encode.induct with
  | case1 => rfl
  | case2 a =>
    rw [b64encode, a2b_base64Char, if_pos rfl, a2b_base64Char, if_neg (by decide), if_pos rfl,
      first_alone]
    rfl
  | case3 a b =>
    rw [b64encode, a2b_base64Char, if_pos rfl, a2b_base64Char, if_neg (by decide), if_pos rfl,
      a2b_base64Char, if_neg (by decide), if_neg (by decide), if_pos rfl, first_byte, second_last]
    rfl
  | case4 a b c rest ih =>
    rw [b64encode, a2b_base64Char, if_pos rfl, a2b_base64Char, if_neg (by decide), if_pos rfl,
      a2b_base64Char, if_neg (by decide), if_neg (by decide), if_pos rfl, a2b_base64Char,
      if_neg (by decide), if_neg (by decide), if_neg (by decide), ih, first_byte, second_byte,
      third_byte]
    rfl

/-- What the filling was taken off of is filled up again. -/
theorem urlSafe_filled : ∀ bytes : List UInt8,
    urlSafe bytes ++ filling (urlSafe bytes).length = (b64encode bytes).map urlSafeChar := by
  intro bytes
  induction bytes using b64encode.induct with
  | case1 => rfl
  | case2 a => rw [urlSafe_one]; rfl
  | case3 a b => rw [urlSafe_two]; rfl
  | case4 a b c rest ih =>
    have hlength (n : Nat) : filling (n + 1 + 1 + 1 + 1) = filling n := by
      unfold filling
      congr 1
      omega
    rw [urlSafe_three]
    simp only [List.length_cons, hlength, List.cons_append, ih]
    rfl

theorem mem_b64encode {bytes : List UInt8} {c : Char} (h : c ∈ b64encode bytes) :
    c = '=' ∨ ∃ n, c = base64Char n := by
  induction bytes using b64encode.induct with
  | case1 => cases h
  | case2 a =>
    simp only [b64encode, List.mem_cons, List.not_mem_nil, or_false] at h
    rcases h with h | h | h | h
    · exact .inr ⟨_, h⟩
    · exact .inr ⟨_, h⟩
    · exact .inl h
    · exact .inl h
  | case3 a b =>
    simp only [b64encode, List.mem_cons, List.not_mem_nil, or_false] at h
    rcases h with h | h | h | h
    · exact .inr ⟨_, h⟩
    · exact .inr ⟨_, h⟩
    · exact .inr ⟨_, h⟩
    · exact .inl h
  | case4 a b c rest ih =>
    simp only [b64encode, List.mem_cons] at h
    rcases h with h | h | h | h | h
    · exact .inr ⟨_, h⟩
    · exact .inr ⟨_, h⟩
    · exact .inr ⟨_, h⟩
    · exact .inr ⟨_, h⟩
    · exact ih h

/-- What holds of the characters of the table, and of the filling, holds of what is encoded. -/
theorem forall_urlSafe {P : Char → Prop} (hfilling : P '=')
    (hall : ∀ i < 64, P (urlSafeChar (BASE64.getD i 'A'))) (bytes : List UInt8) :
    ∀ c ∈ urlSafe bytes, P c := by
  intro c hc
  obtain ⟨d, hd, rfl⟩ := List.mem_map.mp ((List.rdropWhile_prefix _ _).sublist.mem hc)
  rcases mem_b64encode hd with rfl | ⟨n, rfl⟩
  · exact hfilling
  · exact hall _ (Nat.mod_lt _ (by decide))

/-- What was encoded is in characters of the table again. -/
theorem map_standardChar_b64encode (bytes : List UInt8) :
    ((b64encode bytes).map urlSafeChar).map standardChar = b64encode bytes := by
  rw [List.map_map]
  refine (List.map_congr_left fun c hc => ?_).trans (List.map_id _)
  rcases mem_b64encode hc with rfl | ⟨n, rfl⟩
  · decide
  · exact standardChar_base64Char n

/-- **The round trip.** -/
theorem fromUrlSafe_urlSafe (bytes : List UInt8) : fromUrlSafe (urlSafe bytes) = some bytes := by
  have hascii : (urlSafe bytes).all (·.toNat < 128) = true := by
    refine List.all_eq_true.mpr (forall_urlSafe (by decide) (fun i hi => ?_) bytes)
    exact decide_eq_true (table_checked i hi).2.2
  rw [fromUrlSafe, if_pos hascii, urlSafe_filled, map_standardChar_b64encode, a2b_b64encode]

end Text
