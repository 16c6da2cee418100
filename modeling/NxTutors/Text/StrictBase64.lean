import NxTutors.Text.Base64

/-!
# Base 64 with nothing else in it

The strict decoder takes four characters at a time, and fillings at the end only. It still does not
look at every bit: where the last three bytes are not complete, its last character has bits to spare.
So a text that was encoded for an address is read as it was (`readUrlSafe_urlSafe`), but so is each
text that differs from it in the spare bits (`readUrlSafe_clearSpare`), and none besides
(`clearSpare_of_read`).
-/

namespace Text

/-- `base64.b64decode(…, validate=True)`, of ASCII. -/
def b64decode : List Char → Option (List UInt8)
  | [] => some []
  | a :: b :: c :: d :: rest =>
    if d = '=' then
      if rest ≠ [] then none
      else if c = '=' then do
        let x ← base64Value a
        let y ← base64Value b
        return [UInt8.ofNat (x * 4 + y / 16)]
      else do
        let x ← base64Value a
        let y ← base64Value b
        let z ← base64Value c
        return [UInt8.ofNat (x * 4 + y / 16), UInt8.ofNat (y % 16 * 16 + z / 4)]
    else do
      let x ← base64Value a
      let y ← base64Value b
      let z ← base64Value c
      let w ← base64Value d
      let bytes ← b64decode rest
      return UInt8.ofNat (x * 4 + y / 16) :: UInt8.ofNat (y % 16 * 16 + z / 4) ::
        UInt8.ofNat (z % 4 * 64 + w) :: bytes
  | _ => none

/-- A text out of an address: with the characters of the table again, and filled up. -/
def readUrlSafe (text : List Char) : Option (List UInt8) :=
  b64decode (text.map standardChar ++ filling text.length)

/-! ## There and back -/

/-- Four characters, the last two of them filling. -/
theorem b64decode_two (x y : Nat) :
    b64decode [base64Char x, base64Char y, '=', '='] =
      some [UInt8.ofNat (x % 64 * 4 + y % 64 / 16)] := by
  rw [b64decode, if_pos rfl, if_neg (by simp), if_pos rfl, base64Value_base64Char,
    base64Value_base64Char]
  rfl

/-- The last one filling. -/
theorem b64decode_three (x y z : Nat) :
    b64decode [base64Char x, base64Char y, base64Char z, '='] =
      some [UInt8.ofNat (x % 64 * 4 + y % 64 / 16),
        UInt8.ofNat (y % 64 % 16 * 16 + z % 64 / 4)] := by
  rw [b64decode, if_pos rfl, if_neg (by simp), if_neg (base64Char_ne z), base64Value_base64Char,
    base64Value_base64Char, base64Value_base64Char]
  rfl

/-- None of them, and more to come. -/
theorem b64decode_four (x y z w : Nat) (rest : List Char) :
    b64decode (base64Char x :: base64Char y :: base64Char z :: base64Char w :: rest) =
      (b64decode rest).map fun bytes => UInt8.ofNat (x % 64 * 4 + y % 64 / 16) ::
        UInt8.ofNat (y % 64 % 16 * 16 + z % 64 / 4) ::
        UInt8.ofNat (z % 64 % 4 * 64 + w % 64) :: bytes := by
  rw [b64decode, if_neg (base64Char_ne w), base64Value_base64Char, base64Value_base64Char,
    base64Value_base64Char, base64Value_base64Char]
  cases b64decode rest with
  | none => rfl
  | some bytes => rfl

/-- **Bytes that are encoded are decoded**, three at a time. -/
theorem b64decode_b64encode : ∀ bytes : List UInt8, b64decode (b64encode bytes) = some bytes := by
  intro bytes
  induction bytes using b64encode.induct with
  | case1 => rfl
  | case2 a => rw [b64encode, b64decode_two, first_alone]
  | case3 a b => rw [b64encode, b64decode_three, first_byte, second_last]
  | case4 a b c rest ih =>
    rw [b64encode, b64decode_four, ih, first_byte, second_byte, third_byte]
    rfl

/-- A filling is no character of an address. -/
theorem map_standardChar_filling (n : Nat) : (filling n).map standardChar = filling n := by
  have hpad : standardChar '=' = '=' := by decide
  rw [filling, List.map_replicate, hpad]

theorem readUrlSafe_urlSafe (bytes : List UInt8) : readUrlSafe (urlSafe bytes) = some bytes := by
  rw [readUrlSafe, ← map_standardChar_filling, ← List.map_append, urlSafe_filled,
    map_standardChar_b64encode, b64decode_b64encode]

/-! ## Spare bits -/

/-- The six bits of a character of an address. -/
def urlSafeValue (c : Char) : Option Nat :=
  if c = '+' ∨ c = '/' then none else base64Value (standardChar c)

/-- A character with its last bits cleared. What is no character of an address stays. -/
def cleared (k : Nat) (c : Char) : Char :=
  match urlSafeValue c with
  | none => c
  | some n => urlSafeChar (base64Char (n / k * k))

/-- The text with the bits cleared that are read by nobody. -/
def clearSpare : List Char → List Char
  | [] => []
  | [a] => [a]
  | [a, b] => [a, cleared 16 b]
  | [a, b, c] => [a, b, cleared 4 c]
  | a :: b :: c :: d :: rest => a :: b :: c :: d :: clearSpare rest

/-- A character is found where it stands. -/
theorem base64Char_of_value {c : Char} {n : Nat} (h : base64Value c = some n) :
    base64Char n = c ∧ n < 64 := by
  obtain ⟨hlt, hc, -⟩ := List.findIdx?_eq_some_iff_getElem.mp h
  have hlength : BASE64.length = 64 := by decide
  have hn : n < 64 := hlength ▸ hlt
  refine ⟨?_, hn⟩
  rw [base64Char, Nat.mod_eq_of_lt hn, List.getD_eq_getElem?_getD, List.getElem?_eq_getElem hlt]
  exact of_decide_eq_true hc

/-- A character of an address is the one of its bits. -/
theorem urlSafeChar_of_value {c : Char} {n : Nat} (h : urlSafeValue c = some n) :
    urlSafeChar (base64Char n) = c ∧ n < 64 := by
  unfold urlSafeValue at h
  split at h
  · cases h
  · rename_i hc
    rw [not_or] at hc
    obtain ⟨hchar, hn⟩ := base64Char_of_value h
    refine ⟨?_, hn⟩
    rw [hchar]
    unfold standardChar urlSafeChar
    split
    · rename_i hdash
      rw [hdash]
      rfl
    · split
      · rename_i hunder
        rw [hunder]
        rfl
      · rw [if_neg hc.1, if_neg hc.2]

theorem urlSafeValue_urlSafeChar (n : Nat) :
    urlSafeValue (urlSafeChar (base64Char n)) = some (n % 64) := by
  have hchar : urlSafeChar (base64Char n) ≠ '+' ∧ urlSafeChar (base64Char n) ≠ '/' := by
    constructor <;>
    · unfold urlSafeChar
      split
      · decide
      · split
        · decide
        · assumption
  rw [urlSafeValue, if_neg (not_or.mpr hchar), standardChar_base64Char, base64Value_base64Char]

/-- Characters with the same six bits are the same. -/
theorem base64Char_congr {n m : Nat} (h : n % 64 = m % 64) : base64Char n = base64Char m := by
  rw [base64Char, base64Char, h]

/-- A character that stands for bits, in an address. -/
def IsUrlSafe (c : Char) : Prop := ∃ n, urlSafeValue c = some n

theorem isUrlSafe_urlSafeChar (n : Nat) : IsUrlSafe (urlSafeChar (base64Char n)) :=
  ⟨_, urlSafeValue_urlSafeChar n⟩

/-- What was encoded consists of such characters. -/
theorem isUrlSafe_of_mem : ∀ {bytes : List UInt8} {c : Char}, c ∈ urlSafe bytes → IsUrlSafe c := by
  intro bytes
  induction bytes using b64encode.induct with
  | case1 =>
    intro c hc
    cases hc
  | case2 a =>
    intro c hc
    rw [urlSafe_one] at hc
    simp only [List.mem_cons, List.not_mem_nil, or_false] at hc
    rcases hc with rfl | rfl <;> exact isUrlSafe_urlSafeChar _
  | case3 a b =>
    intro c hc
    rw [urlSafe_two] at hc
    simp only [List.mem_cons, List.not_mem_nil, or_false] at hc
    rcases hc with rfl | rfl | rfl <;> exact isUrlSafe_urlSafeChar _
  | case4 a b c rest ih =>
    intro d hd
    rw [urlSafe_three] at hd
    simp only [List.mem_cons] at hd
    rcases hd with rfl | rfl | rfl | rfl | hd
    · exact isUrlSafe_urlSafeChar _
    · exact isUrlSafe_urlSafeChar _
    · exact isUrlSafe_urlSafeChar _
    · exact isUrlSafe_urlSafeChar _
    · exact ih hd

/-- Clearing makes no character one of an address. -/
theorem isUrlSafe_of_cleared {k : Nat} {c : Char} (h : IsUrlSafe (cleared k c)) : IsUrlSafe c := by
  unfold cleared at h
  cases hvalue : urlSafeValue c with
  | none =>
    rw [hvalue] at h
    exact absurd h (by rintro ⟨n, hn⟩; rw [hvalue] at hn; cases hn)
  | some n => exact ⟨n, hvalue⟩

theorem isUrlSafe_of_clearSpare {cs : List Char} (h : ∀ c ∈ clearSpare cs, IsUrlSafe c) :
    ∀ c ∈ cs, IsUrlSafe c := by
  induction cs using clearSpare.induct with
  | case1 => exact h
  | case2 a => exact h
  | case3 a b =>
    simp only [clearSpare, List.forall_mem_cons] at h ⊢
    exact ⟨h.1, isUrlSafe_of_cleared h.2.1, h.2.2⟩
  | case4 a b c =>
    simp only [clearSpare, List.forall_mem_cons] at h ⊢
    exact ⟨h.1, h.2.1, isUrlSafe_of_cleared h.2.2.1, h.2.2.2⟩
  | case5 a b c d rest ih =>
    simp only [clearSpare, List.forall_mem_cons] at h ⊢
    exact ⟨h.1, h.2.1, h.2.2.1, h.2.2.2.1, ih h.2.2.2.2⟩

/-! ## What is read of an address -/

/-- Of a character of an address, its bits are read. -/
theorem base64Value_standardChar {c : Char} {n : Nat} (h : urlSafeValue c = some n) :
    base64Value (standardChar c) = some n := by
  unfold urlSafeValue at h
  split at h
  · cases h
  · exact h

/-- It is none of those that stand for nothing in one. -/
theorem standardChar_ne {c : Char} (h : IsUrlSafe c) : standardChar c ≠ '=' := by
  obtain ⟨n, hn⟩ := h
  have hvalue : base64Value '=' = none := by decide
  intro heq
  have hread := base64Value_standardChar hn
  rw [heq, hvalue] at hread
  cases hread

theorem urlSafeValue_cleared {k n : Nat} {c : Char} (h : urlSafeValue c = some n) :
    urlSafeValue (cleared k c) = some (n / k * k) := by
  have hn : n / k * k < 64 := (Nat.div_mul_le_self n k).trans_lt (urlSafeChar_of_value h).2
  unfold cleared
  rw [h]
  show urlSafeValue (urlSafeChar (base64Char (n / k * k))) = _
  rw [urlSafeValue_urlSafeChar, Nat.mod_eq_of_lt hn]

variable {a b c d : Char} {x y z w : Nat}

/-- By two, three and four characters. -/
theorem readUrlSafe_two (ha : urlSafeValue a = some x) (hb : urlSafeValue b = some y) :
    readUrlSafe [a, b] = some [UInt8.ofNat (x * 4 + y / 16)] := by
  show b64decode [standardChar a, standardChar b, '=', '='] = _
  rw [b64decode, if_pos rfl, if_neg (by simp), if_pos rfl, base64Value_standardChar ha,
    base64Value_standardChar hb]
  rfl

theorem readUrlSafe_three (ha : urlSafeValue a = some x) (hb : urlSafeValue b = some y)
    (hc : urlSafeValue c = some z) :
    readUrlSafe [a, b, c] =
      some [UInt8.ofNat (x * 4 + y / 16), UInt8.ofNat (y % 16 * 16 + z / 4)] := by
  show b64decode [standardChar a, standardChar b, standardChar c, '='] = _
  rw [b64decode, if_pos rfl, if_neg (by simp), if_neg (standardChar_ne ⟨z, hc⟩),
    base64Value_standardChar ha, base64Value_standardChar hb, base64Value_standardChar hc]
  rfl

theorem readUrlSafe_four (ha : urlSafeValue a = some x) (hb : urlSafeValue b = some y)
    (hc : urlSafeValue c = some z) (hd : urlSafeValue d = some w) (rest : List Char) :
    readUrlSafe (a :: b :: c :: d :: rest) = (readUrlSafe rest).map fun bytes =>
      UInt8.ofNat (x * 4 + y / 16) :: UInt8.ofNat (y % 16 * 16 + z / 4) ::
        UInt8.ofNat (z % 4 * 64 + w) :: bytes := by
  have hfilling : filling (a :: b :: c :: d :: rest).length = filling rest.length := by
    unfold filling
    congr 1
    simp only [List.length_cons]
    omega
  rw [readUrlSafe, hfilling]
  show b64decode (_ :: _ :: _ :: standardChar d :: (rest.map standardChar ++ _)) = _
  rw [b64decode, if_neg (standardChar_ne ⟨w, hd⟩), base64Value_standardChar ha,
    base64Value_standardChar hb, base64Value_standardChar hc, base64Value_standardChar hd,
    readUrlSafe]
  cases b64decode (rest.map standardChar ++ filling rest.length) with
  | none => rfl
  | some bytes => rfl

/-- **The spare bits are not read**, by the characters. -/
theorem readUrlSafe_clearSpare {cs : List Char} (h : ∀ c ∈ cs, IsUrlSafe c) :
    readUrlSafe (clearSpare cs) = readUrlSafe cs := by
  induction cs using clearSpare.induct with
  | case1 => rfl
  | case2 a => rfl
  | case3 a b =>
    simp only [List.forall_mem_cons] at h
    obtain ⟨⟨x, hx⟩, ⟨y, hy⟩, -⟩ := h
    have hbits : y / 16 * 16 / 16 = y / 16 := by omega
    rw [clearSpare, readUrlSafe_two hx hy, readUrlSafe_two hx (urlSafeValue_cleared hy), hbits]
  | case4 a b c =>
    simp only [List.forall_mem_cons] at h
    obtain ⟨⟨x, hx⟩, ⟨y, hy⟩, ⟨z, hz⟩, -⟩ := h
    have hbits : z / 4 * 4 / 4 = z / 4 := by omega
    rw [clearSpare, readUrlSafe_three hx hy hz,
      readUrlSafe_three hx hy (urlSafeValue_cleared hz), hbits]
  | case5 a b c d rest ih =>
    simp only [List.forall_mem_cons] at h
    obtain ⟨⟨x, hx⟩, ⟨y, hy⟩, ⟨z, hz⟩, ⟨w, hw⟩, hrest⟩ := h
    rw [clearSpare, readUrlSafe_four hx hy hz hw, readUrlSafe_four hx hy hz hw, ih hrest]

/-- **What is read was encoded to that**, but for the spare bits. -/
theorem clearSpare_of_read {cs : List Char} (h : ∀ c ∈ cs, IsUrlSafe c) :
    ∀ {bytes : List UInt8}, readUrlSafe cs = some bytes → clearSpare cs = urlSafe bytes := by
  have hbyte {n : Nat} (hn : n < 256) : (UInt8.ofNat n).toNat = n := UInt8.toNat_ofNat_of_lt' hn
  have hchar {c : Char} {n m : Nat} (hc : urlSafeValue c = some n) (hm : m % 64 = n) :
      c = urlSafeChar (base64Char m) := by
    have hsame : m % 64 = n % 64 := by omega
    rw [base64Char_congr hsame, (urlSafeChar_of_value hc).1]
  induction cs using clearSpare.induct with
  | case1 =>
    intro bytes hread
    cases hread
    rfl
  | case2 a =>
    intro bytes hread
    exact absurd hread (by
      show b64decode [standardChar a, '=', '=', '='] ≠ some bytes
      have hvalue : base64Value '=' = none := by decide
      rw [b64decode, if_pos rfl, if_neg (by simp), if_pos rfl, hvalue]
      cases base64Value (standardChar a) with
      | none => simp
      | some n => simp)
  | case3 a b =>
    simp only [List.forall_mem_cons] at h
    obtain ⟨⟨x, hx⟩, ⟨y, hy⟩, -⟩ := h
    intro bytes hread
    have hxlt := (urlSafeChar_of_value hx).2
    have hylt := (urlSafeChar_of_value hy).2
    rw [readUrlSafe_two hx hy, Option.some.injEq] at hread
    rw [← hread, urlSafe_one, hbyte (by omega), clearSpare, hchar hx (m := (x * 4 + y / 16) / 4)
      (by omega), hchar (urlSafeValue_cleared hy) (m := (x * 4 + y / 16) * 16) (by omega)]
  | case4 a b c =>
    simp only [List.forall_mem_cons] at h
    obtain ⟨⟨x, hx⟩, ⟨y, hy⟩, ⟨z, hz⟩, -⟩ := h
    intro bytes hread
    have hxlt := (urlSafeChar_of_value hx).2
    have hylt := (urlSafeChar_of_value hy).2
    have hzlt := (urlSafeChar_of_value hz).2
    rw [readUrlSafe_three hx hy hz, Option.some.injEq] at hread
    rw [← hread, urlSafe_two, hbyte (by omega), hbyte (by omega), clearSpare,
      hchar hx (m := (x * 4 + y / 16) / 4) (by omega),
      hchar hy (m := (x * 4 + y / 16) * 16 + (y % 16 * 16 + z / 4) / 16) (by omega),
      hchar (urlSafeValue_cleared hz) (m := (y % 16 * 16 + z / 4) * 4) (by omega)]
  | case5 a b c d rest ih =>
    simp only [List.forall_mem_cons] at h
    obtain ⟨⟨x, hx⟩, ⟨y, hy⟩, ⟨z, hz⟩, ⟨w, hw⟩, hrest⟩ := h
    intro bytes hread
    have hxlt := (urlSafeChar_of_value hx).2
    have hylt := (urlSafeChar_of_value hy).2
    have hzlt := (urlSafeChar_of_value hz).2
    have hwlt := (urlSafeChar_of_value hw).2
    rw [readUrlSafe_four hx hy hz hw, Option.map_eq_some_iff] at hread
    obtain ⟨more, hmore, hread⟩ := hread
    rw [← hread, urlSafe_three, hbyte (by omega), hbyte (by omega), hbyte (by omega), clearSpare,
      ih hrest hmore, hchar hx (m := (x * 4 + y / 16) / 4) (by omega),
      hchar hy (m := (x * 4 + y / 16) * 16 + (y % 16 * 16 + z / 4) / 16) (by omega),
      hchar hz (m := (y % 16 * 16 + z / 4) * 4 + (z % 4 * 64 + w) / 64) (by omega),
      hchar hw (m := z % 4 * 64 + w) (by omega)]

/-- **The spare bits are all that is passed over.** -/
theorem readUrlSafe_iff {cs : List Char} (h : ∀ c ∈ cs, IsUrlSafe c) {bytes : List UInt8} :
    readUrlSafe cs = some bytes ↔ clearSpare cs = urlSafe bytes := by
  constructor
  · exact clearSpare_of_read h
  · intro hclear
    rw [← readUrlSafe_clearSpare h, hclear, readUrlSafe_urlSafe]

end Text
