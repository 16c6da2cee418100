import Mathlib.Data.List.Infix

/-!
# Texts joined with a separator

What a joined text says about its parts. A part without the separator can be read off at either
end of the text, whatever the other parts contain; and a number never contains a separator that is
no digit.
-/

namespace Text

variable {c : Char} {sep a b x y : String} {l l' : List String}

/-- What comes before the first separator, and what comes after it. -/
theorem append_cons_inj {α : Type} {z : α} {l l' r r' : List α} (hl : z ∉ l) (hl' : z ∉ l')
    (h : l ++ z :: r = l' ++ z :: r') : l = l' ∧ r = r' := by
  induction l generalizing l' with
  | nil =>
    cases l' with
    | nil => exact ⟨rfl, (List.cons.inj h).2⟩
    | cons w l' =>
      obtain ⟨rfl, -⟩ := List.cons.inj h
      exact absurd List.mem_cons_self hl'
  | cons w l ih =>
    cases l' with
    | nil =>
      obtain ⟨rfl, -⟩ := List.cons.inj h
      exact absurd List.mem_cons_self hl
    | cons w' l' =>
      obtain ⟨rfl, htail⟩ := List.cons.inj h
      obtain ⟨rfl, hr⟩ := ih (fun hm => hl (List.mem_cons_of_mem _ hm))
        (fun hm => hl' (List.mem_cons_of_mem _ hm)) htail
      exact ⟨rfl, hr⟩

/-- What comes before the last separator, and what comes after it. -/
theorem append_cons_inj_last {α : Type} {z : α} {l l' r r' : List α} (hr : z ∉ r) (hr' : z ∉ r')
    (h : l ++ z :: r = l' ++ z :: r') : l = l' ∧ r = r' := by
  have hreverse := congrArg List.reverse h
  simp only [List.reverse_append, List.reverse_cons, List.append_assoc,
    List.singleton_append] at hreverse
  obtain ⟨hlast, hfirst⟩ := append_cons_inj (fun hm => hr (List.mem_reverse.mp hm))
    (fun hm => hr' (List.mem_reverse.mp hm)) hreverse
  exact ⟨List.reverse_inj.mp hfirst, List.reverse_inj.mp hlast⟩

/-- What comes before the only separator, and what comes after it. -/
theorem append_cons_inj_only {α : Type} {z : α} {l l' r r' : List α} (hl : z ∉ l) (hr : z ∉ r)
    (h : l' ++ z :: r' = l ++ z :: r) : l' = l ∧ r' = r := by
  induction l' generalizing l with
  | nil =>
    cases l with
    | nil => exact ⟨rfl, (List.cons.inj h).2⟩
    | cons w l =>
      obtain ⟨rfl, -⟩ := List.cons.inj h
      exact absurd List.mem_cons_self hl
  | cons w' l' ih =>
    cases l with
    | nil =>
      obtain ⟨-, hrest⟩ := List.cons.inj h
      exact absurd (hrest ▸ List.mem_append_right _ List.mem_cons_self) hr
    | cons w l =>
      obtain ⟨rfl, htail⟩ := List.cons.inj h
      obtain ⟨rfl, hrest⟩ := ih (fun hm => hl (List.mem_cons_of_mem _ hm)) htail
      exact ⟨rfl, hrest⟩

/-- The characters of a joined text, at its first part. -/
theorem toList_join_cons (hsep : sep.toList = [c]) :
    (sep.intercalate (a :: x :: l)).toList =
      a.toList ++ c :: (sep.intercalate (x :: l)).toList := by
  rw [String.intercalate_cons_cons, String.toList_append, String.toList_append, hsep,
    List.append_assoc, List.singleton_append]

/-- **At the front**: first parts without the separator. -/
theorem join_cons_inj (hsep : sep.toList = [c]) (ha : c ∉ a.toList) (hb : c ∉ b.toList)
    (h : sep.intercalate (a :: x :: l) = sep.intercalate (b :: y :: l')) :
    a = b ∧ sep.intercalate (x :: l) = sep.intercalate (y :: l') := by
  have hchars := congrArg String.toList h
  rw [toList_join_cons hsep, toList_join_cons hsep] at hchars
  obtain ⟨hfirst, hrest⟩ := append_cons_inj ha hb hchars
  exact ⟨String.toList_inj.mp hfirst, String.toList_inj.mp hrest⟩

/-- The same first part, whatever it is. -/
theorem join_cons_cancel (hsep : sep.toList = [c])
    (h : sep.intercalate (a :: x :: l) = sep.intercalate (a :: y :: l')) :
    sep.intercalate (x :: l) = sep.intercalate (y :: l') := by
  have hchars := congrArg String.toList h
  rw [toList_join_cons hsep, toList_join_cons hsep] at hchars
  exact String.toList_inj.mp (List.cons.inj (List.append_cancel_left hchars)).2

/-- **At the back**: last parts without the separator. -/
theorem join_pair_inj (hsep : sep.toList = [c]) (hx : c ∉ x.toList) (hy : c ∉ y.toList)
    (h : sep.intercalate [a, x] = sep.intercalate [b, y]) : a = b ∧ x = y := by
  have hchars := congrArg String.toList h
  simp only [toList_join_cons hsep, String.intercalate_singleton] at hchars
  obtain ⟨hfirst, hlast⟩ := append_cons_inj_last hx hy hchars
  exact ⟨String.toList_inj.mp hfirst, String.toList_inj.mp hlast⟩

/-- A number contains digits only. -/
theorem notMem_toString (n : Nat) (hc : c.isDigit = false) : c ∉ (toString n).toList := by
  intro hmem
  rw [Nat.toString_eq_repr, Nat.toList_repr] at hmem
  have hdigit := Nat.isDigit_of_mem_toDigits (by decide) (by decide) hmem
  rw [hc] at hdigit
  cases hdigit

/-- Numbers are told apart by their texts. -/
theorem toString_inj {n m : Nat} (h : toString n = toString m) : n = m := by
  have hdigits := congrArg String.toList h
  rw [Nat.toString_eq_repr, Nat.toString_eq_repr, Nat.toList_repr, Nat.toList_repr] at hdigits
  rw [← @Nat.ofDigitChars_ten_toDigits n, hdigits, Nat.ofDigitChars_ten_toDigits]

/-- A whole number contains digits, and perhaps a sign. -/
theorem notMem_toString_int (n : Int) (hc : c.isDigit = false) (hsign : c ≠ '-') :
    c ∉ (toString n).toList := by
  cases n with
  | ofNat n => exact notMem_toString n hc
  | negSucc n =>
    have htext : toString (Int.negSucc n) = "-" ++ toString (n + 1) := rfl
    rw [htext, String.toList_append]
    intro hmem
    rcases List.mem_append.mp hmem with hminus | hdigits
    · exact hsign (List.mem_singleton.mp hminus)
    · exact notMem_toString _ hc hdigits

/-- Whole numbers are told apart by their texts. -/
theorem toString_int_injective : Function.Injective fun n : Int => toString n := by
  have hminus : ∀ n : Nat, '-' ∉ (toString n).toList := fun n =>
    notMem_toString n (by decide)
  intro m n h
  cases m with
  | ofNat m =>
    cases n with
    | ofNat n => exact congrArg Int.ofNat (toString_inj h)
    | negSucc n =>
      have htext : toString m = "-" ++ toString (n + 1) := h
      refine absurd ?_ (hminus m)
      rw [htext]
      simp
  | negSucc m =>
    cases n with
    | ofNat n =>
      have htext : "-" ++ toString (m + 1) = toString n := h
      refine absurd ?_ (hminus n)
      rw [← htext]
      simp
    | negSucc n =>
      have htext : "-" ++ toString (m + 1) = "-" ++ toString (n + 1) := h
      have hsucc := toString_inj ((String.append_right_inj _).mp htext)
      rw [Nat.succ.inj hsucc]

end Text
