import NxTutors.Text.Joined

/-!
# Texts as bytes

A text is encoded character by character, and a byte of ASCII stands for nothing but its own
character. So a text without a character of ASCII is encoded without its byte, and what is written
behind such texts, from that byte on, is found again (`utf8_append_inj`).
-/

namespace Text

/-- `text.encode("utf-8")`. -/
def utf8 (text : String) : List UInt8 := text.toUTF8.data.toList

theorem utf8_injective : Function.Injective utf8 := fun _ _ h =>
  String.toByteArray_inj.mp (ByteArray.ext (Array.toList_inj.mp h))

theorem utf8_eq_flatMap (text : String) : utf8 text = text.toList.flatMap String.utf8EncodeChar := by
  have hbytes : text.toUTF8 = text.toList.utf8Encode := by
    rw [← String.toByteArray_ofList, String.ofList_toList]
    rfl
  rw [utf8, hbytes]
  simp [List.utf8Encode]

/-- A byte of ASCII is its character, which is encoded alone. -/
theorem eq_of_mem_utf8EncodeChar {c : Char} {b : UInt8} (hb : b.toNat < 128)
    (h : b ∈ String.utf8EncodeChar c) : c.toNat = b.toNat := by
  -- every other byte has its highest bit set
  have hhigh {n : Nat} (hn : 128 ≤ n ∧ n < 256) (heq : b = UInt8.ofNat n) : False := by
    rw [heq, UInt8.toNat_ofNat_of_lt' hn.2] at hb
    omega
  have hvalue : c.toNat = c.val.toNat := rfl
  unfold String.utf8EncodeChar at h
  dsimp only at h
  split at h
  · rename_i hascii
    have hsize : c.val.toNat < UInt8.size := lt_of_le_of_lt hascii (by decide)
    rw [List.mem_singleton.mp h, UInt8.toNat_ofNat_of_lt' hsize, hvalue]
  split at h
  · rcases List.mem_pair.mp h with h | h
    · exact (hhigh (by omega) h).elim
    · exact (hhigh (by omega) h).elim
  split at h
  · simp only [List.mem_cons, List.not_mem_nil, or_false] at h
    rcases h with h | h | h
    · exact (hhigh (by omega) h).elim
    · exact (hhigh (by omega) h).elim
    · exact (hhigh (by omega) h).elim
  · simp only [List.mem_cons, List.not_mem_nil, or_false] at h
    rcases h with h | h | h | h
    · exact (hhigh (by omega) h).elim
    · exact (hhigh (by omega) h).elim
    · exact (hhigh (by omega) h).elim
    · exact (hhigh (by omega) h).elim

/-- And so it is found only where that character is. -/
theorem mem_of_mem_utf8 {text : String} {b : UInt8} (hb : b.toNat < 128) (h : b ∈ utf8 text) :
    Char.ofNat b.toNat ∈ text.toList := by
  rw [utf8_eq_flatMap] at h
  obtain ⟨c, hc, hbyte⟩ := List.mem_flatMap.mp h
  rw [← eq_of_mem_utf8EncodeChar hb hbyte, Char.ofNat_toNat]
  exact hc

/-- **Behind texts without a character of ASCII**, from its byte on, what follows is found. -/
theorem utf8_append_inj {s s' : String} {b : UInt8} {rest rest' : List UInt8}
    (hb : b.toNat < 128) (hs : Char.ofNat b.toNat ∉ s.toList)
    (hs' : Char.ofNat b.toNat ∉ s'.toList)
    (h : utf8 s ++ b :: rest = utf8 s' ++ b :: rest') : s = s' ∧ rest = rest' := by
  obtain ⟨hfront, hrest⟩ := append_cons_inj (fun hmem => hs (mem_of_mem_utf8 hb hmem))
    (fun hmem => hs' (mem_of_mem_utf8 hb hmem)) h
  exact ⟨utf8_injective hfront, hrest⟩

end Text
