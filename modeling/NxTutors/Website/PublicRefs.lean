import NxTutors.Text.StrictBase64
import NxTutors.Website.Feed

/-!
# Public references

A tutor is known outside by a reference: his id with a suffix, encoded for an address. It is read
back strictly, but white space around it is taken off first, and its last character may have bits to
spare. So the reference that is made of an id is read as that id, nothing that is read raises
anything, and what is read as an id is its reference up to white space around it and those spare
bits (`one_id`).
-/

namespace NxTutors.Website

open Text

/-- What references are read with. -/
structure RefTables extends Tables where
  /-- `str.isalnum`, of a character -/
  isAlnum : Char → Bool

/-- What all such tables say of ASCII. -/
structure RefTables.Plain (t : RefTables) : Prop extends t.toTables.Plain where
  isAlnum : ∀ c : Char, c.toNat < 128 → t.isAlnum c = c.isAlphanum

/-- The tables on ASCII. -/
def asciiRefs : RefTables where
  toTables := ascii
  isAlnum c := c.isAlphanum

theorem plain_asciiRefs : asciiRefs.Plain where
  toPlain := plain_ascii
  isAlnum _ _ := rfl

/-! ## Reading -/

/-- What is raised where a reference is decoded. -/
inductive DecodingRaised
  | binasciiError
  | unicodeDecodeError
  /-- `string argument should contain only ASCII characters` -/
  | valueError
  deriving DecidableEq, Repr

/-- `base64.b64decode(padded, validate=True).decode("utf-8")`. -/
def decoded (padded : List Char) : Except DecodingRaised String :=
  if padded.all (·.toNat < 128) then
    match b64decode padded with
    | none => .error .binasciiError
    | some bytes =>
      match String.fromUTF8? ⟨bytes.toArray⟩ with
      | none => .error .unicodeDecodeError
      | some text => .ok text
  else .error .valueError

def SUFFIX : String := "-nxt"

/-- `decode_public_ref`. -/
def decodePublicRef (t : RefTables) (publicRef : String) : Except DecodingRaised (Option String) :=
  let ref := (strip t.toTables publicRef).toList
  if ref = [] ∨ ¬ ref.all (fun c => t.isAlnum c || c = '-' || c = '_') then .ok none
  else
    let padded := ref.map standardChar
    match decoded (padded ++ filling padded.length) with
    -- `except (binascii.Error, UnicodeDecodeError, ValueError)`
    | .error .binasciiError => .ok none
    | .error .unicodeDecodeError => .ok none
    | .error .valueError => .ok none
    | .ok text =>
      if SUFFIX.toList <:+ text.toList then
        let userId := String.ofList (text.toList.take (text.toList.length - 4))
        .ok (if userId = "" then none else some userId)
      else .ok none

/-! ## Characters -/

/-- What stands in a reference. -/
def RefChar (c : Char) : Bool := c.isAlphanum || c = '-' || c = '_'

set_option maxRecDepth 8000 in
/-- What the table is looked through for: its characters, in an address, stand in references, and
they are printable ASCII. -/
theorem table_refs : ∀ i < 64, RefChar (urlSafeChar (BASE64.getD i 'A')) = true ∧
    Printable (urlSafeChar (BASE64.getD i 'A')) ∧ urlSafeChar (BASE64.getD i 'A') ≠ ' ' ∧
      (urlSafeChar (BASE64.getD i 'A')).toNat < 128 := by
  decide

set_option maxRecDepth 8000 in
/-- And what stands in references is in the table. -/
theorem refs_table : ∀ i < 128, RefChar (Char.ofNat i) = true →
    (urlSafeValue (Char.ofNat i)).isSome = true := by
  decide

theorem refChar_of_isUrlSafe {c : Char} (h : IsUrlSafe c) :
    RefChar c = true ∧ Printable c ∧ c ≠ ' ' ∧ c.toNat < 128 := by
  obtain ⟨n, hn⟩ := h
  rw [← (urlSafeChar_of_value hn).1]
  exact table_refs _ (Nat.mod_lt _ (by decide))

theorem isUrlSafe_of_refChar {c : Char} (hascii : c.toNat < 128) (h : RefChar c = true) :
    IsUrlSafe c := by
  have htable := refs_table c.toNat hascii
  rw [Char.ofNat_toNat] at htable
  exact Option.isSome_iff_exists.mp (htable h)

/-- The replacing of characters makes none of them ASCII. -/
theorem ascii_of_standardChar {c : Char} (h : (standardChar c).toNat < 128) : c.toNat < 128 := by
  unfold standardChar at h
  split at h
  · rename_i hdash
    rw [hdash]
    decide
  · split at h
    · rename_i hunder
      rw [hunder]
      decide
    · exact h

/-! ## What is read -/

/-- The bytes of an id with its suffix. -/
def suffixed (userId : String) : List UInt8 := (userId ++ SUFFIX).toUTF8.data.toList

/-- What was encoded as UTF-8 is decoded to that, and nothing else is. -/
theorem fromUTF8?_eq_some_iff {bytes : List UInt8} {text : String} :
    String.fromUTF8? ⟨bytes.toArray⟩ = some text ↔ bytes = text.toUTF8.data.toList := by
  unfold String.fromUTF8?
  constructor
  · intro h
    split at h
    · rename_i hvalid
      rw [Option.some.injEq] at h
      rw [← h]
      rfl
    · cases h
  · intro h
    have hbytes : (⟨bytes.toArray⟩ : ByteArray) = text.toByteArray := by
      rw [h, Array.toArray_toList]
      rfl
    rw [hbytes, dif_pos text.isValidUTF8]
    rfl

theorem bytes_injective {s s' : String} (h : s.toUTF8.data.toList = s'.toUTF8.data.toList) :
    s = s' :=
  String.toByteArray_inj.mp (ByteArray.ext (Array.toList_inj.mp h))

/-- A text that ends in the suffix, and what stands before it. -/
theorem suffix_iff {text userId : String} :
    text = userId ++ SUFFIX ↔ SUFFIX.toList <:+ text.toList ∧
      String.ofList (text.toList.take (text.toList.length - 4)) = userId := by
  have hlength : SUFFIX.toList.length = 4 := by decide
  constructor
  · rintro rfl
    rw [String.toList_append]
    refine ⟨List.suffix_append _ _, ?_⟩
    rw [List.length_append, hlength, Nat.add_sub_cancel, List.take_left, String.ofList_toList]
  · rintro ⟨⟨before, hbefore⟩, huser⟩
    rw [← hbefore, List.length_append, hlength, Nat.add_sub_cancel, List.take_left] at huser
    rw [← huser, ← String.ofList_toList (s := text), ← hbefore, String.ofList_append,
      String.ofList_toList]

variable {t : RefTables}

/-- What passes the check of its characters, and is ASCII. -/
theorem decoded_eq_ok_iff {ref : List Char} {text : String} :
    decoded (ref.map standardChar ++ filling (ref.map standardChar).length) = .ok text ↔
      (∀ c ∈ ref, c.toNat < 128) ∧ readUrlSafe ref = some text.toUTF8.data.toList := by
  have hascii : (ref.map standardChar ++ filling (ref.map standardChar).length).all
      (·.toNat < 128) = true ↔ ∀ c ∈ ref, c.toNat < 128 := by
    have hpad : ∀ c ∈ filling (ref.map standardChar).length, c.toNat < 128 := by
      intro c hc
      rw [List.eq_of_mem_replicate hc]
      decide
    simp only [List.all_eq_true, decide_eq_true_eq, List.forall_mem_append, List.forall_mem_map,
      and_iff_left hpad]
    constructor
    · exact fun h c hc => ascii_of_standardChar (h c hc)
    · intro h c hc
      unfold standardChar
      split
      · decide
      · split
        · decide
        · exact h c hc
  rw [decoded, List.length_map, readUrlSafe]
  rw [List.length_map] at hascii
  split
  · rename_i hall
    rw [and_iff_right (hascii.mp hall)]
    cases b64decode (ref.map standardChar ++ filling ref.length) with
    | none => simp
    | some bytes =>
      rw [Option.some.injEq, ← fromUTF8?_eq_some_iff]
      show (match String.fromUTF8? ⟨bytes.toArray⟩ with
        | none => .error DecodingRaised.unicodeDecodeError
        | some text => .ok text) = Except.ok text ↔ _
      cases String.fromUTF8? ⟨bytes.toArray⟩ with
      | none => simp
      | some text' => simp
  · rename_i hall
    constructor
    · intro h
      cases h
    · exact fun h => absurd (hascii.mpr h.1) hall

/-- **What is read as an id**, of any text. -/
theorem decodePublicRef_iff (ht : t.Plain) {r u : String} :
    decodePublicRef t r = .ok (some u) ↔ u ≠ "" ∧
      (∀ c ∈ (strip t.toTables r).toList, IsUrlSafe c) ∧
      readUrlSafe (strip t.toTables r).toList = some (suffixed u) := by
  obtain ⟨ref, href⟩ : ∃ ref, ref = (strip t.toTables r).toList := ⟨_, rfl⟩
  unfold decodePublicRef
  dsimp only
  rw [← href]
  constructor
  · intro h
    split at h
    · cases h
    rename_i hcheck
    rw [not_or, not_not, List.all_eq_true] at hcheck
    split at h
    · cases h
    · cases h
    · cases h
    · rename_i text htext
      obtain ⟨hascii, hread⟩ := decoded_eq_ok_iff.mp htext
      split at h
      · rename_i hsuffix
        simp only [Except.ok.injEq] at h
        split at h
        · cases h
        · rename_i hne
          rw [Option.some.injEq] at h
          rw [h] at hne
          have htext := suffix_iff.mpr ⟨hsuffix, h⟩
          refine ⟨hne, fun c hc => ?_, ?_⟩
          · refine isUrlSafe_of_refChar (hascii c hc) ?_
            have hchar := hcheck.2 c hc
            rw [ht.isAlnum c (hascii c hc)] at hchar
            exact hchar
          · rw [hread, htext]
            rfl
      · cases h
  · rintro ⟨hne, hsafe, hread⟩
    have hchars (c : Char) (hc : c ∈ ref) := refChar_of_isUrlSafe (hsafe c hc)
    have hnil : ref ≠ [] := by
      rintro rfl
      have hempty : "".toUTF8.data.toList = (u ++ SUFFIX).toUTF8.data.toList :=
        Option.some.inj hread
      have hlong := congrArg String.length (bytes_injective hempty)
      rw [String.length_append] at hlong
      have hsuffix : SUFFIX.length = 4 := by decide
      have hzero : "".length = 0 := by decide
      omega
    have hall : ref.all (fun c => t.isAlnum c || c = '-' || c = '_') = true := by
      rw [List.all_eq_true]
      intro c hc
      rw [ht.isAlnum c (hchars c hc).2.2.2]
      exact (hchars c hc).1
    have hdecoded := decoded_eq_ok_iff.mpr ⟨fun c hc => (hchars c hc).2.2.2, hread⟩
    obtain ⟨hsuffix, huser⟩ := suffix_iff.mp (rfl : u ++ SUFFIX = u ++ SUFFIX)
    rw [if_neg (not_or.mpr ⟨hnil, not_not.mpr hall⟩)]
    simp only [hdecoded, if_pos hsuffix, huser, if_neg hne]

/-! ## One id for each reference -/

/-- The reference of an id that is not empty. -/
theorem encodePublicRef_of_ne {u : String} (hu : u ≠ "") :
    encodePublicRef u = .ok (String.ofList (urlSafe (suffixed u))) := if_neg hu

/-- It is not empty either. -/
theorem word_of_suffixed (u : String) : Word (String.ofList (urlSafe (suffixed u))) := by
  have hchars : ∀ c ∈ urlSafe (suffixed u), Printable c ∧ c ≠ ' ' := fun c hc =>
    have hchar := refChar_of_isUrlSafe (isUrlSafe_of_mem hc)
    ⟨hchar.2.1, hchar.2.2.1⟩
  refine ⟨?_, by rwa [String.toList_ofList]⟩
  intro hempty
  have hlong := length_urlSafe (suffixed u)
  have hbytes : (suffixed u).length = u.utf8ByteSize + 4 := by
    have hsize : (u ++ SUFFIX).toUTF8.size = (u ++ SUFFIX).utf8ByteSize := rfl
    have hsuffix : SUFFIX.utf8ByteSize = 4 := by decide
    rw [suffixed, Array.length_toList, ← ByteArray.size, hsize, String.utf8ByteSize_append, hsuffix]
  have hnil : urlSafe (suffixed u) = [] := by
    rw [← String.toList_ofList (l := urlSafe (suffixed u)), hempty]
    rfl
  rw [hnil, hbytes, List.length_nil] at hlong
  omega

/-- An id is read exactly of what is its reference, but for white space around it and spare bits. -/
theorem decodePublicRef_iff_clearSpare (ht : t.Plain) {r u : String} :
    decodePublicRef t r = .ok (some u) ↔ u ≠ "" ∧
      encodePublicRef u = .ok (String.ofList (clearSpare (strip t.toTables r).toList)) := by
  rw [decodePublicRef_iff ht]
  refine and_congr_right fun hu => ?_
  rw [encodePublicRef_of_ne hu, Except.ok.injEq, String.ofList_inj]
  constructor
  · rintro ⟨hsafe, hread⟩
    exact ((readUrlSafe_iff hsafe).mp hread).symm
  · intro hclear
    have hsafe : ∀ c ∈ (strip t.toTables r).toList, IsUrlSafe c := by
      refine isUrlSafe_of_clearSpare fun c hc => ?_
      rw [← hclear] at hc
      exact isUrlSafe_of_mem hc
    exact ⟨hsafe, (readUrlSafe_iff hsafe).mpr hclear.symm⟩

/-- Of what was encoded no bits are left to clear. -/
theorem clearSpare_urlSafe (bytes : List UInt8) : clearSpare (urlSafe bytes) = urlSafe bytes :=
  clearSpare_of_read (fun _ hc => isUrlSafe_of_mem hc) (readUrlSafe_urlSafe bytes)

/-- **References are exact.** The reference of an id consists of letters, digits, `-` and `_`, and
it is read as that id, so that different ids have different references. Nothing that is read raises
anything. What is read as an id is the reference of that id once the white space around it is taken
off and the spare bits of its last character are cleared, and there are no others; so it is the
reference itself exactly if there is nothing to take off and nothing to clear. -/
theorem references_exact (t : RefTables) (ht : t.Plain) :
    (∀ u, u ≠ "" → ∃ token, encodePublicRef u = .ok token ∧
      decodePublicRef t token = .ok (some u) ∧ ∀ c ∈ token.toList, RefChar c = true) ∧
    (∀ u v token, encodePublicRef u = .ok token → encodePublicRef v = .ok token → u = v) ∧
    (∀ r, ∃ answer, decodePublicRef t r = .ok answer) ∧
    (∀ r u, decodePublicRef t r = .ok (some u) ↔ u ≠ "" ∧
      encodePublicRef u = .ok (String.ofList (clearSpare (strip t.toTables r).toList))) ∧
    ∀ r u, decodePublicRef t r = .ok (some u) →
      (encodePublicRef u = .ok r ↔ strip t.toTables r = r ∧ clearSpare r.toList = r.toList) := by
  have hround (u : String) (hu : u ≠ "") :
      decodePublicRef t (String.ofList (urlSafe (suffixed u))) = .ok (some u) := by
    rw [decodePublicRef_iff_clearSpare ht, ht.strip_word (word_of_suffixed u),
      encodePublicRef_of_ne hu, String.toList_ofList, clearSpare_urlSafe]
    exact ⟨hu, rfl⟩
  have hencoded {u token : String} (h : encodePublicRef u = .ok token) :
      u ≠ "" ∧ token = String.ofList (urlSafe (suffixed u)) := by
    by_cases hu : u = ""
    · rw [encodePublicRef, if_pos hu] at h
      cases h
    · rw [encodePublicRef_of_ne hu, Except.ok.injEq] at h
      exact ⟨hu, h.symm⟩
  refine ⟨fun u hu => ⟨_, encodePublicRef_of_ne hu, hround u hu, ?_⟩, ?_, ?_,
    fun r u => decodePublicRef_iff_clearSpare ht, ?_⟩
  · intro c hc
    rw [String.toList_ofList] at hc
    exact (refChar_of_isUrlSafe (isUrlSafe_of_mem hc)).1
  · intro u v token hu hv
    obtain ⟨hune, htoken⟩ := hencoded hu
    obtain ⟨hvne, hsame⟩ := hencoded hv
    have hread := hround u hune
    rw [← htoken, hsame, hround v hvne, Except.ok.injEq, Option.some.injEq] at hread
    exact hread.symm
  · intro r
    unfold decodePublicRef
    dsimp only
    split
    · exact ⟨_, rfl⟩
    split
    · exact ⟨_, rfl⟩
    · exact ⟨_, rfl⟩
    · exact ⟨_, rfl⟩
    · split <;> exact ⟨_, rfl⟩
  · intro r u hread
    obtain ⟨hu, hclear⟩ := (decodePublicRef_iff_clearSpare ht).mp hread
    constructor
    · intro htoken
      obtain ⟨-, hr⟩ := hencoded htoken
      rw [hr, ht.strip_word (word_of_suffixed u), String.toList_ofList, clearSpare_urlSafe]
      exact ⟨rfl, rfl⟩
    · rintro ⟨hstrip, hspare⟩
      rw [hclear, hstrip, hspare, String.ofList_toList]

/-- The id of one character goes there and back. -/
theorem reference_of_one : asciiRefs.Plain ∧ ∃ token,
    encodePublicRef "1" = .ok token ∧ decodePublicRef asciiRefs token = .ok (some "1") := by
  obtain ⟨token, htoken, hread, -⟩ :=
    (references_exact asciiRefs plain_asciiRefs).1 "1" (by decide)
  exact ⟨plain_asciiRefs, token, htoken, hread⟩

/-- A bit that is to spare is set, and another reference is read as the same id. -/
theorem spare_bit_read :
    ¬ ∀ r u, decodePublicRef asciiRefs r = .ok (some u) → encodePublicRef u = .ok r := by
  intro hclaim
  have hencoded : encodePublicRef "1" = .ok "MS1ueHQ" := by decide
  have hcleared : String.ofList (clearSpare (strip asciiRefs.toTables "MS1ueHR").toList) =
      "MS1ueHQ" := by decide
  have hread : decodePublicRef asciiRefs "MS1ueHR" = .ok (some "1") := by
    rw [decodePublicRef_iff_clearSpare plain_asciiRefs, hcleared]
    exact ⟨by decide, hencoded⟩
  have hsame := hclaim _ _ hread
  rw [hencoded, Except.ok.injEq] at hsame
  exact absurd hsame (by decide)

end NxTutors.Website
