import NxTutors.Matching.FeeBands

/-!
# Labels that are read back

A label is a currency sign and an amount with commas, or two of them with a dash between. The pattern
for amounts finds each of them as a whole: the commas are part of it, the dash is not. No word for an
address is in a label, and the sign says that it is money. So the band that is read is the one that
was written (`parse_formatFeeLabel`).
-/

namespace NxTutors.Matching

open Text MatchAgent
open Numbers (Numerals Double Written float written natOf)

variable {p : FeeTables}

/-! ## The characters of a label -/

/-- The characters that a label is made of. -/
def LabelChar (c : Char) : Prop := c.isDigit = true ∨ c = ',' ∨ c = '₹' ∨ c = '–'

instance (c : Char) : Decidable (LabelChar c) := inferInstanceAs (Decidable (_ ∨ _))

theorem isDigit_of_ascii {c : Char} (hc : c.isDigit = true) : p.isDigit c = true := by
  refine (p.isDigit_iff c ?_).mpr hc
  simp only [Char.isDigit, Bool.and_eq_true, decide_eq_true_eq] at hc
  exact ⟨Char.le_def.mpr (Nat.le_trans (by decide) hc.1),
    Char.le_def.mpr (Nat.le_trans hc.2 (by decide))⟩

/-- **An amount with its commas**: its digits, with a comma before the last three if there are more. -/
inductive Grouped (ds : List Char) : List Char → Prop
  /-- no more than three -/
  | short (hfew : ds.length ≤ 3) : Grouped ds ds
  /-- up to three, a comma, and three -/
  | long {front last : List Char} (hfront : 1 ≤ front.length ∧ front.length ≤ 3)
    (hlast : last.length = 3) (hds : ds = front ++ last) : Grouped ds (front ++ ',' :: last)

theorem grouped_withCommas {n : Nat} (hmax : n ≤ PLAUSIBLE_FEE_MAX) :
    Grouped (Nat.toDigits 10 n) (withCommas n).toList := by
  have hdigits : (Nat.toDigits 10 n).length ≤ 6 := by
    rw [Nat.length_toDigits_le_iff (by decide) (by decide)]
    unfold PLAUSIBLE_FEE_MAX at hmax
    omega
  rw [withCommas, String.toList_ofList]
  obtain ⟨rs, hrs⟩ : ∃ rs, (Nat.toDigits 10 n).reverse = rs := ⟨_, rfl⟩
  have hds : Nat.toDigits 10 n = rs.reverse := by rw [← hrs, List.reverse_reverse]
  rw [hrs, hds]
  rw [hds, List.length_reverse] at hdigits
  rcases rs with _ | ⟨a, _ | ⟨b, _ | ⟨c, _ | ⟨d, rest⟩⟩⟩⟩
  · exact .short (by simp)
  · exact .short (by simp)
  · exact .short (by simp)
  · exact .short (by simp)
  · have hrest : commas (d :: rest) = d :: rest := by
      rcases rest with _ | ⟨e, _ | ⟨f, _ | ⟨g, rest⟩⟩⟩
      · rfl
      · rfl
      · rfl
      · simp only [List.length_cons] at hdigits
        omega
    have hsplit : (commas (a :: b :: c :: d :: rest)).reverse =
        (d :: rest).reverse ++ ',' :: [c, b, a] := by
      rw [commas, hrest]
      simp
    rw [hsplit]
    refine .long ?_ rfl (by simp)
    simp at hdigits ⊢
    omega

/-! ## Words that are not in a label -/

section

variable {P : Char → Prop}

theorem begins_ignoringCase {s : String} {c : Char} {cs : List Char} (hs : s.toList = c :: cs)
    (hP : ∀ x, x = c ∨ x = c.toUpper ∨ x ∈ ['ſ', 'ı', 'İ', '\u212a'] → P x) :
    (ignoringCase s).Begins P := by
  have hcase (x : Char) (hx : (x = c || x = c.toUpper || (c = 's' && x = 'ſ') ||
      (c = 'i' && (x = 'ı' || x = 'İ'))) = true) : P x := by
    refine hP x ?_
    simp only [Bool.or_eq_true, Bool.and_eq_true, decide_eq_true_eq] at hx
    rcases hx with ((hx | hx) | hx) | hx
    · exact .inl hx
    · exact .inr (.inl hx)
    · exact .inr (.inr (by rw [hx.2]; decide))
    · refine .inr (.inr ?_)
      rcases hx.2 with h | h <;> (rw [h]; decide)
  unfold ignoringCase
  rw [hs, List.foldr_cons]
  split
  · refine ⟨⟨hcase, fun x hx => hP x (.inr (.inr ?_))⟩, .inl ⟨trivial, trivial⟩⟩
    rw [of_decide_eq_true hx]
    decide
  · exact ⟨hcase, .inl trivial⟩

theorem consumes_ignoringCase {s : String} {c : Char} {cs : List Char} (hs : s.toList = c :: cs) :
    (ignoringCase s).Consumes := by
  unfold ignoringCase
  rw [hs, List.foldr_cons]
  split
  · exact .inl ⟨trivial, trivial⟩
  · exact .inl trivial

theorem begins_alternatives {as : List Re} (h : ∀ a ∈ as, a.Begins P) :
    (alternatives as).Begins P := by
  induction as with
  | nil => exact nofun
  | cons a as ih =>
    cases as with
    | nil => exact h a List.mem_cons_self
    | cons b as =>
      exact ⟨h a List.mem_cons_self, ih fun c hc => h c (List.mem_cons_of_mem a hc)⟩

theorem consumes_alternatives {as : List Re} (h : ∀ a ∈ as, a.Consumes) :
    (alternatives as).Consumes := by
  induction as with
  | nil => trivial
  | cons a as ih =>
    cases as with
    | nil => exact h a List.mem_cons_self
    | cons b as =>
      exact ⟨h a List.mem_cons_self, ih fun c hc => h c (List.mem_cons_of_mem a hc)⟩

/-- A word begins with a letter, in either case. -/
def lettered (s : String) : Bool :=
  s.toList.head?.any fun c =>
    [c, c.toUpper, 'ſ', 'ı', 'İ', '\u212a'].all fun x => !decide (LabelChar x)

theorem toList_of_lettered {s : String} (h : lettered s = true) : ∃ c cs, s.toList = c :: cs ∧
    ∀ x, x = c ∨ x = c.toUpper ∨ x ∈ ['ſ', 'ı', 'İ', '\u212a'] → ¬LabelChar x := by
  unfold lettered at h
  cases hs : s.toList with
  | nil =>
    rw [hs] at h
    cases h
  | cons c cs =>
    rw [hs, List.head?_cons, Option.any_some, List.all_eq_true] at h
    refine ⟨c, cs, rfl, fun x hx => ?_⟩
    have hmem : x ∈ [c, c.toUpper, 'ſ', 'ı', 'İ', '\u212a'] := by
      rcases hx with rfl | rfl | hx
      · exact List.mem_cons_self
      · exact List.mem_cons_of_mem _ List.mem_cons_self
      · exact List.mem_cons_of_mem _ (List.mem_cons_of_mem _ hx)
    simpa using h x hmem

/-- A word does not begin as a label does. -/
theorem begins_lettered {s : String} (h : lettered s = true) :
    (ignoringCase s).Begins fun c => ¬LabelChar c := by
  obtain ⟨c, cs, hs, hP⟩ := toList_of_lettered h
  exact begins_ignoringCase hs hP

theorem consumes_lettered {s : String} (h : lettered s = true) : (ignoringCase s).Consumes := by
  obtain ⟨c, cs, hs, -⟩ := toList_of_lettered h
  exact consumes_ignoringCase hs

theorem begins_letteredWords {words : List String} (h : ∀ s ∈ words, lettered s = true) :
    (alternatives (words.map ignoringCase)).Begins fun c => ¬LabelChar c :=
  begins_alternatives fun _ ha =>
    let ⟨_, hs, heq⟩ := List.mem_map.mp ha
    heq ▸ begins_lettered (h _ hs)

theorem consumes_letteredWords {words : List String} (h : ∀ s ∈ words, lettered s = true) :
    (alternatives (words.map ignoringCase)).Consumes :=
  consumes_alternatives fun _ ha =>
    let ⟨_, hs, heq⟩ := List.mem_map.mp ha
    heq ▸ consumes_lettered (h _ hs)

/-- White space is not in a label. -/
theorem not_labelChar_of_isSpace {c : Char} (hc : p.isSpace c = true) : ¬LabelChar c := by
  rintro (hdigit | rfl | rfl | rfl)
  · rw [p.lawful.isSpace_of_isDigit c (isDigit_of_ascii hdigit)] at hc
    cases hc
  · exact absurd ((p.plain.isSpace ',' (by decide)).mp hc) (by decide)
  · rw [(p.signs '₹' (.inl rfl)).2] at hc
    cases hc
  · rw [(p.signs '–' (.inr rfl)).2] at hc
    cases hc

/-- The words for addresses are not in a label. -/
theorem not_reachesEnd {s : List Char} (hs : ∀ c ∈ s, LabelChar c) :
    reachesEnd p.toPlatform (NON_FEE_PREFIX p.toPlatform) s = false := by
  have hwords : ∀ s ∈ ["sector", "sec", "class", "std", "standard", "grade", "phase", "pin",
      "pincode", "block", "plot", "flat", "house", "road", "floor", "no", "number", "age"],
      lettered s = true := by decide
  have hmark : lettered "mark" = true := by decide
  have hstd : lettered "std" = true := by decide
  -- any of them begins with a letter
  have hall : ∀ a ∈ ["sector", "sec", "class", "std", "standard", "grade", "phase", "pin",
      "pincode", "block", "plot", "flat", "house", "road", "floor", "no", "number", "age"].map
        ignoringCase ++ [.seq (ignoringCase "mark") (.opt (ignoringCase "s")), ignoringCase "std"],
      a.Begins (fun c => ¬LabelChar c) ∧ a.Consumes := by
    intro a ha
    rcases List.mem_append.mp ha with ha | ha
    · obtain ⟨s, hs, rfl⟩ := List.mem_map.mp ha
      exact ⟨begins_lettered (hwords s hs), consumes_lettered (hwords s hs)⟩
    · rcases List.mem_pair.mp ha with rfl | rfl
      · exact ⟨⟨begins_lettered hmark, .inl (consumes_lettered hmark)⟩,
          .inl (consumes_lettered hmark)⟩
      · exact ⟨begins_lettered hstd, consumes_lettered hstd⟩
  have hconsumes : (NON_FEE_PREFIX p.toPlatform).Consumes :=
    .inr (.inl (consumes_alternatives fun a ha => (hall a ha).2))
  have hbegins : (NON_FEE_PREFIX p.toPlatform).Begins fun c => ¬LabelChar c :=
    ⟨trivial, .inr ⟨begins_alternatives fun a ha => (hall a ha).1,
      .inl (consumes_alternatives fun a ha => (hall a ha).2)⟩⟩
  have hgo (before : Option Char) (s : List Char) (hs : ∀ c ∈ s, LabelChar c) :
      reachesEnd.go p.toPlatform (NON_FEE_PREFIX p.toPlatform) before s = false := by
    induction s generalizing before with
    | nil =>
      unfold reachesEnd.go
      rw [(Re.fails_of_begins hconsumes hbegins fun c hc => by cases hc).run_eq_none]
      rfl
    | cons c cs ih =>
      have hnot : ∀ d ∈ (c :: cs).head?, ¬¬LabelChar d := by
        rintro d ⟨⟩
        exact not_not.mpr (hs c List.mem_cons_self)
      unfold reachesEnd.go
      rw [(Re.fails_of_begins hconsumes hbegins hnot).run_eq_none]
      exact ih _ fun d hd => hs d (List.mem_cons_of_mem c hd)
  exact hgo none s hs

end

/-! ## Finding an amount -/

section

variable {ds w tail : List Char} {before : Option Char} {groups : Nat → Option (List Char)}
  {length : Nat}

/-- What follows an amount in a label: nothing, or a dash. -/
def Ends (tail : List Char) : Prop := ∀ c ∈ tail.head?, c = '–'

theorem Ends.not_digit (h : Ends tail) : tail.head?.any p.isDigit = false := by
  cases tail with
  | nil => rfl
  | cons c tail =>
    obtain rfl := h c rfl
    exact (p.signs '–' (.inr rfl)).1

/-- A pattern that would have to begin otherwise is passed over. -/
theorem prefers_opt_of_begins {P : Char → Prop} {a : Re} {at' : Cursor} (hconsumes : a.Consumes)
    (hbegins : a.Begins P) (hnot : ∀ c ∈ at'.rest.head?, ¬P c) :
    Re.Prefers p.toTables (.opt a) at' at' :=
  .right (Re.fails_of_begins hconsumes hbegins hnot) Re.prefers_empty

theorem prefers_repeated {P : Char → Prop} {a : Re} {at' : Cursor} (hconsumes : a.Consumes)
    (hbegins : a.Begins P) (hnot : ∀ c ∈ at'.rest.head?, ¬P c) (n : Nat) :
    Re.Prefers p.toTables (repeated a n) at' at' := by
  cases n with
  | zero => exact Re.prefers_empty
  | succ n => exact prefers_opt_of_begins (.inl hconsumes) ⟨hbegins, .inl hconsumes⟩ hnot

/-- `,\d{2,3}`. -/
abbrev commaGroup (p : FeeTables) : Re :=
  .seqs [.word ",", .one p.isDigit, .one p.isDigit, .opt (.one p.isDigit)]

theorem begins_word {P : Char → Prop} {s : String} {c : Char} {cs : List Char}
    (hs : s.toList = c :: cs) (hc : P c) : (Re.word s).Begins P := by
  unfold Re.word
  rw [hs]
  exact ⟨fun d hd => eq_of_beq hd ▸ hc, .inl trivial⟩

theorem consumes_word {s : String} {c : Char} {cs : List Char} (hs : s.toList = c :: cs) :
    (Re.word s).Consumes := by
  unfold Re.word
  rw [hs]
  exact .inl trivial

theorem consumes_commaGroup : (commaGroup p).Consumes := .inl (consumes_word rfl)

theorem begins_commaGroup : (commaGroup p).Begins (· = ',') :=
  ⟨begins_word rfl rfl, .inl (consumes_word rfl)⟩

/-- One digit, and then no more than two, as many as there are. -/
theorem prefers_front {front rest : List Char} (hfront : 1 ≤ front.length ∧ front.length ≤ 3)
    (hall : ∀ c ∈ front, p.isDigit c = true) (hrest : rest.head?.any p.isDigit = false) :
    Re.Prefers p.toTables
      (.seq (.one p.isDigit) (.opt (.seq (.one p.isDigit) (.opt (.one p.isDigit)))))
      ⟨before, front ++ rest, groups⟩ ⟨front.getLast?.or before, rest, groups⟩ := by
  have hnot : ∀ c ∈ rest.head?, ¬p.isDigit c = true := by
    intro c hc hdigit
    rw [Option.mem_def.mp hc] at hrest
    exact absurd hdigit (by simpa using hrest)
  have hone {at' : Cursor} (hat : at'.rest = rest) :
      Re.Prefers p.toTables (.opt (.one p.isDigit)) at' at' :=
    prefers_opt_of_begins (P := fun c => p.isDigit c = true) trivial (fun _ h => h)
      (by rw [hat]; exact hnot)
  have htwo {at' : Cursor} (hat : at'.rest = rest) :
      Re.Prefers p.toTables (.opt (.seq (.one p.isDigit) (.opt (.one p.isDigit)))) at' at' :=
    prefers_opt_of_begins (P := fun c => p.isDigit c = true) (.inl trivial)
      ⟨fun _ h => h, .inl trivial⟩ (by rw [hat]; exact hnot)
  match front, hfront with
  | [a], _ => exact .seq (Re.prefers_one (hall a (by simp))) (htwo rfl)
  | [a, b], _ =>
    exact .seq (Re.prefers_one (hall a (by simp)))
      (.left (.seq (Re.prefers_one (hall b (by simp))) (hone rfl)))
  | [a, b, c], _ =>
    exact .seq (Re.prefers_one (hall a (by simp)))
      (.left (.seq (Re.prefers_one (hall b (by simp))) (.left (Re.prefers_one (hall c (by simp))))))

/-- Three digits behind a comma. -/
theorem prefers_last {last : List Char} (hlast : last.length = 3)
    (hall : ∀ c ∈ last, p.isDigit c = true) :
    ∃ before', Re.Prefers p.toTables (commaGroup p) ⟨before, ',' :: (last ++ tail), groups⟩
      ⟨before', tail, groups⟩ := by
  match last, hlast with
  | [a, b, c], _ =>
    have hcomma : Re.Prefers p.toTables (.word ",") ⟨before, ',' :: a :: b :: c :: tail, groups⟩
        ⟨some ',', a :: b :: c :: tail, groups⟩ :=
      .seq (Re.prefers_one rfl) Re.prefers_empty
    exact ⟨_, .seq hcomma (.seq (Re.prefers_one (hall a (by simp)))
      (.seq (Re.prefers_one (hall b (by simp)))
        (.seq (.left (Re.prefers_one (hall c (by simp)))) Re.prefers_empty)))⟩

/-- A dash is no comma, and neither is the end. -/
theorem Ends.not_comma (h : Ends tail) : ∀ c ∈ tail.head?, ¬c = ',' := by
  intro c hc
  rw [h c hc]
  decide

/-- Groups of digits need a comma. -/
theorem fails_groups (hall : ∀ c ∈ ds, p.isDigit c = true) (hends : Ends tail) (b : Re) :
    (Re.seq (.one p.isDigit) (.seq (.opt (.seq (.one p.isDigit) (.opt (.one p.isDigit))))
      (.seq (commaGroup p) b))).Fails p.toTables ⟨before, ds ++ tail, groups⟩ := by
  rintro end' ⟨mid, hfirst, mid', hmore, mid'', hcomma, -⟩
  have honly : ∃ cs, ds ++ tail = cs ++ mid'.rest ∧ ∀ c ∈ cs, p.isDigit c = true := by
    have hboth : (Re.seq (.one p.isDigit)
        (.opt (.seq (.one p.isDigit) (.opt (.one p.isDigit))))).Leads p.toTables
        ⟨before, ds ++ tail, groups⟩ mid' := ⟨mid, hfirst, hmore⟩
    refine Re.Leads.only ?_ hboth
    exact ⟨fun _ h => h, ⟨fun _ h => h, fun _ h => h, trivial⟩, trivial⟩
  obtain ⟨cs, hcs, hcsall⟩ := honly
  obtain ⟨c, rest, hrest, rfl⟩ := (hcomma.begins begins_commaGroup).resolve_left
    (hcomma.consumes consumes_commaGroup)
  -- behind the digits there is the end or a dash
  rw [hrest] at hcs
  have hdrop := congrArg (List.dropWhile p.isDigit) hcs
  have hcommadigit : p.isDigit ',' = false := not_isDigit (by decide) (by decide)
  rw [List.dropWhile_append_of_pos hall, List.dropWhile_append_of_pos hcsall,
    List.dropWhile_cons_of_neg (by rw [hcommadigit]; decide)] at hdrop
  cases tail with
  | nil => cases hdrop
  | cons d tail =>
    have hd := hends d rfl
    subst hd
    rw [List.dropWhile_cons_of_neg (by rw [(p.signs '–' (.inr rfl)).1]; decide)] at hdrop
    exact absurd (List.cons.inj hdrop).1 (by decide)

/-- **The figure of an amount is taken as a whole**, up to a dash or the end. -/
theorem prefers_figure (h : Grouped ds w) (hds : ds ≠ []) (hall : ∀ c ∈ ds, p.isDigit c = true)
    (hends : Ends tail) : ∃ before', Re.Prefers p.toTables
      (.alt (.seqs [.one p.isDigit, .opt (.seq (.one p.isDigit) (.opt (.one p.isDigit))),
          commaGroup p, repeated (commaGroup p) length])
        (.seqs [.one p.isDigit, .many p.isDigit,
          .opt (.seqs [.word ".", .one p.isDigit, .many p.isDigit])]))
      ⟨before, w ++ tail, groups⟩ ⟨before', tail, groups⟩ := by
  cases h with
  | short hfew =>
    cases ds with
    | nil => exact absurd rfl hds
    | cons c cs =>
      refine ⟨_, .right (fails_groups hall hends _) (.seq (Re.prefers_one (hall c (by simp)))
        (.seq (Re.prefers_many (fun d hd => hall d (List.mem_cons_of_mem c hd)) hends.not_digit)
          (.seq (prefers_opt_of_begins (P := (· = '.')) (.inl (consumes_word rfl))
            ⟨begins_word rfl rfl, .inl (consumes_word rfl)⟩ ?_) Re.prefers_empty)))⟩
      intro d hd
      rw [hends d hd]
      decide
  | @long front last hfront hlast hsplit =>
    subst hsplit
    have hfrontall : ∀ c ∈ front, p.isDigit c = true := fun c hc =>
      hall c (List.mem_append_left _ hc)
    have hcommadigit : p.isDigit ',' = false := not_isDigit (by decide) (by decide)
    obtain ⟨before', hlastgroup⟩ : ∃ before', Re.Prefers p.toTables (commaGroup p)
        ⟨front.getLast?.or before, ',' :: (last ++ tail), groups⟩ ⟨before', tail, groups⟩ :=
      prefers_last hlast fun c hc => hall c (List.mem_append_right _ hc)
    have hfirst : Re.Prefers p.toTables
        (.seq (.one p.isDigit) (.opt (.seq (.one p.isDigit) (.opt (.one p.isDigit)))))
        ⟨before, front ++ ',' :: (last ++ tail), groups⟩
        ⟨front.getLast?.or before, ',' :: (last ++ tail), groups⟩ :=
      prefers_front hfront hfrontall hcommadigit
    rw [List.append_assoc, List.cons_append]
    refine ⟨before', .left (.assoc (.seq hfirst (.seq hlastgroup (.seq ?_ Re.prefers_empty))))⟩
    exact prefers_repeated consumes_commaGroup begins_commaGroup hends.not_comma _

/-- A figure begins with a digit. -/
theorem Grouped.first (h : Grouped ds w) (hds : ds ≠ []) : ∃ c cs, w = c :: cs ∧ c ∈ ds := by
  cases h with
  | short hfew =>
    obtain ⟨c, cs, rfl⟩ := List.exists_cons_of_ne_nil hds
    exact ⟨c, cs, rfl, List.mem_cons_self⟩
  | @long front last hfront hlast hsplit =>
    cases front with
    | nil => exact absurd hfront.1 (by decide)
    | cons c front =>
      refine ⟨c, front ++ ',' :: last, rfl, ?_⟩
      rw [hsplit]
      exact List.mem_cons_self

/-- What the groups of an amount in a label have captured. -/
def captured (w : List Char) : Nat → Option (List Char) := fun m => if m = 1 then some w else none

/-- **An amount in a label is found**, sign and figure, up to a dash or the end. -/
theorem prefers_AMOUNT (h : Grouped ds w) (hds : ds ≠ []) (hall : ∀ c ∈ ds, p.isDigit c = true)
    (hends : Ends tail) : ∃ before', Re.Prefers p.toTables (AMOUNT p.toPlatform length)
      ⟨before, '₹' :: (w ++ tail), fun _ => none⟩ ⟨before', tail, captured w⟩ := by
  have hsign : Re.Prefers p.toTables (.word "₹") ⟨before, '₹' :: (w ++ tail), fun _ => none⟩
      ⟨some '₹', w ++ tail, fun _ => none⟩ := .seq (Re.prefers_one rfl) Re.prefers_empty
  -- no white space is behind the sign
  have hblanks : Re.Prefers p.toTables (.many p.isSpace) ⟨some '₹', w ++ tail, fun _ => none⟩
      ⟨some '₹', w ++ tail, fun _ => none⟩ := by
    have hnone : (w ++ tail).head?.any p.isSpace = false := by
      obtain ⟨c, cs, rfl, hc⟩ := h.first hds
      exact p.lawful.isSpace_of_isDigit c (hall c hc)
    exact @Re.prefers_many p.toTables p.isSpace [] (w ++ tail) _ _ nofun hnone
  obtain ⟨before', hfigure⟩ :=
    @prefers_figure p ds w tail (some '₹') (fun _ => none) length h hds hall hends
  -- and no multiplier behind the figure
  have hmultiplier : Re.Prefers p.toTables (.opt (.seqs [.many p.isSpace,
      .group 2 (alternatives (["k", "thousand", "hazar", "hazaar"].map ignoringCase)), .boundary]))
      ⟨before', tail, captured w⟩ ⟨before', tail, captured w⟩ := by
    have hwords : ∀ s ∈ ["k", "thousand", "hazar", "hazaar"], lettered s = true := by decide
    refine prefers_opt_of_begins (P := fun c => ¬LabelChar c) ?_ ?_ ?_
    · exact .inr (.inl (consumes_letteredWords hwords))
    · exact ⟨fun c hc => not_labelChar_of_isSpace hc, .inr ⟨begins_letteredWords hwords,
        .inl (consumes_letteredWords hwords)⟩⟩
    · intro c hc hnot
      exact hnot (hends c hc ▸ by decide)
  exact ⟨before', .seq (.left (.left hsign)) (.seq hblanks (.seq (.group hfigure rfl)
    (.seq hmultiplier Re.prefers_empty)))⟩

/-- An amount does not begin with a dash, nor at the end. -/
theorem fails_AMOUNT (hends : Ends tail) :
    (AMOUNT p.toPlatform length).Fails p.toTables ⟨before, tail, groups⟩ := by
  have hcurrency : ∀ s ∈ ["rs", "inr"], lettered s = true := by decide
  have hletters {s : String} (hs : lettered s = true) : (ignoringCase s).Begins (· ≠ '–') := by
    obtain ⟨c, cs, hs, hP⟩ := toList_of_lettered hs
    exact begins_ignoringCase hs fun x hx => by
      rintro rfl
      exact hP '–' hx (by decide)
  have hdigit : (Re.one p.isDigit).Begins (· ≠ '–') := by
    rintro c hc rfl
    rw [(p.signs '–' (.inr rfl)).1] at hc
    cases hc
  have hblank : (Re.many p.isSpace).Begins (· ≠ '–') := by
    rintro c hc rfl
    rw [(p.signs '–' (.inr rfl)).2] at hc
    cases hc
  refine Re.fails_of_begins (P := (· ≠ '–')) ?_ ?_ fun c hc => not_not.mpr (hends c hc)
  · exact .inr (.inr (.inl ⟨.inl trivial, .inl trivial⟩))
  · refine ⟨⟨⟨begins_word rfl (by decide), ⟨hletters (hcurrency "rs" (by decide)), .inl ?_⟩,
      hletters (hcurrency "inr" (by decide))⟩, trivial⟩, .inr ⟨hblank, .inr ⟨?_, .inl ?_⟩⟩⟩
    · exact consumes_lettered (hcurrency "rs" (by decide))
    · exact ⟨⟨hdigit, .inl trivial⟩, ⟨hdigit, .inl trivial⟩⟩
    · exact ⟨.inl trivial, .inl trivial⟩

/-! ## The amounts of a label -/

theorem finditer_go_found {a : Re} {n pos : Nat} {rest : List Char} {end' : Cursor}
    (h : a.Prefers p.toTables ⟨before, rest, fun _ => none⟩ end') :
    finditer.go p.toPlatform a (n + 1) pos before rest =
      ⟨pos, pos + (rest.length - end'.rest.length), end'.groups⟩ ::
        finditer.go p.toPlatform a n (pos + (rest.length - end'.rest.length))
          (Cursor.before end') (Cursor.rest end') := by
  rw [finditer.go.eq_def]
  simp only [h some end' rfl]

theorem finditer_go_end {a : Re} {n pos : Nat} (h : a.Fails p.toTables ⟨before, [], fun _ => none⟩) :
    finditer.go p.toPlatform a (n + 1) pos before [] = [] := by
  rw [finditer.go.eq_def]
  simp only [h.run_eq_none some]

theorem finditer_go_skip {a : Re} {n pos : Nat} {c : Char} {cs : List Char}
    (h : a.Fails p.toTables ⟨before, c :: cs, fun _ => none⟩) :
    finditer.go p.toPlatform a (n + 1) pos before (c :: cs) =
      finditer.go p.toPlatform a n (pos + 1) (some c) cs := by
  rw [finditer.go.eq_def]
  simp only [h.run_eq_none some]

/-- An amount of a label, from so far on. -/
def labelled (pos : Nat) (w : List Char) : Found := ⟨pos, pos + (w.length + 1), captured w⟩

/-- What is found from an amount on: it, and what is found behind it. -/
theorem finditer_amount (h : Grouped ds w) (hds : ds ≠ []) (hall : ∀ c ∈ ds, p.isDigit c = true)
    (hends : Ends tail) (n pos : Nat) : ∃ before',
      finditer.go p.toPlatform (AMOUNT p.toPlatform length) (n + 1) pos before
          ('₹' :: (w ++ tail)) =
        labelled pos w :: finditer.go p.toPlatform (AMOUNT p.toPlatform length) n
          (pos + (w.length + 1)) before' tail := by
  obtain ⟨before', hprefers⟩ := @prefers_AMOUNT p ds w tail before length h hds hall hends
  refine ⟨before', ?_⟩
  rw [finditer_go_found hprefers]
  have hlen : ('₹' :: (w ++ tail)).length - tail.length = w.length + 1 := by
    rw [List.length_cons, List.length_append]
    omega
  dsimp only
  rw [hlen]
  rfl

/-- **The amount of a label that has one.** -/
theorem finditer_one {label : String} (h : Grouped ds w) (hds : ds ≠ [])
    (hall : ∀ c ∈ ds, p.isDigit c = true) (hlabel : label.toList = '₹' :: w) :
    finditer p.toPlatform (AMOUNT p.toPlatform label.length) label = [labelled 0 w] := by
  have hends : Ends [] := fun c hc => by cases hc
  obtain ⟨before', hgo⟩ := @finditer_amount p ds w [] none label.length h hds hall hends
    (w.length + 1) 0
  rw [List.append_nil] at hgo
  rw [finditer, hlabel]
  refine hgo.trans ?_
  rw [finditer_go_end (fails_AMOUNT hends)]

/-- **The amounts of a label that has two.** -/
theorem finditer_two {label : String} {ds' w' : List Char} (h : Grouped ds w) (hds : ds ≠ [])
    (hall : ∀ c ∈ ds, p.isDigit c = true) (h' : Grouped ds' w') (hds' : ds' ≠ [])
    (hall' : ∀ c ∈ ds', p.isDigit c = true)
    (hlabel : label.toList = '₹' :: (w ++ '–' :: '₹' :: w')) :
    finditer p.toPlatform (AMOUNT p.toPlatform label.length) label =
      [labelled 0 w, labelled (w.length + 2) w'] := by
  have hends : Ends ('–' :: '₹' :: w') := by
    rintro c ⟨⟩
    rfl
  have hnil : Ends [] := fun c hc => by cases hc
  obtain ⟨n, hn⟩ : ∃ n, label.toList.length + 1 = n + 1 + 1 + 1 + 1 :=
    ⟨w.length + w'.length, by
      rw [hlabel]
      simp only [List.length_cons, List.length_append]
      omega⟩
  obtain ⟨before₁, hfirst⟩ := @finditer_amount p ds w ('–' :: '₹' :: w') none label.length h hds
    hall hends (n + 1 + 1 + 1) 0
  obtain ⟨before₂, hsecond⟩ := @finditer_amount p ds' w' [] (some '–') label.length h' hds' hall'
    hnil (n + 1) (w.length + 2)
  rw [List.append_nil] at hsecond
  rw [finditer, hn, hlabel, hfirst, finditer_go_skip (fails_AMOUNT hends)]
  have hpos : 0 + (w.length + 1) + 1 = w.length + 2 := by omega
  rw [hpos, hsecond, finditer_go_end (fails_AMOUNT hnil)]

/-! ## What the amounts are read as -/

theorem Grouped.filter (h : Grouped ds w) (hall : ∀ c ∈ ds, p.isDigit c = true) :
    w.filter (· ≠ ',') = ds := by
  cases h with
  | short hfew => exact filter_digits hall
  | @long front last hfront hlast hsplit =>
    rw [List.filter_append, List.filter_cons_of_neg (by decide), ← List.filter_append, ← hsplit]
    exact filter_digits hall

theorem digits_toDigits (n : Nat) : ∀ c ∈ Nat.toDigits 10 n, p.isDigit c = true := fun _ hc =>
  isDigit_of_ascii (Nat.isDigit_of_mem_toDigits (by decide) (by decide) hc)

/-- **The number of an amount with commas.** -/
theorem number_labelled {n pos : Nat} (hmax : n ≤ PLAUSIBLE_FEE_MAX)
    (h : Grouped (Nat.toDigits 10 n) w) : number p (labelled pos w) = some (.finite n) := by
  have hfilter := h.filter (digits_toDigits (p := p) n)
  have htext : figureText (labelled pos w) = String.ofList (Nat.toDigits 10 n ++ []) := by
    rw [List.append_nil, ← hfilter]
    rfl
  have hnone : ∀ c ∈ ([] : List Char), p.isDigit c = true := nofun
  have hwritten := Numbers.written_figure p.lawful (@Nat.toDigits_ne_nil n 10)
    (digits_toDigits n) hnone (.inr ⟨rfl, rfl⟩)
  rw [List.append_nil (Nat.toDigits 10 n), Numbers.natOf_toDigits p.lawful, List.length_nil, Nat.cast_zero, neg_zero,
    zpow_zero, mul_one] at hwritten
  have hsmall : n < 2 ^ 53 := hmax.trans_lt (by decide)
  rw [number, float, htext, List.append_nil, hwritten, Option.map_some, Option.map_some]
  exact congrArg some (Numbers.round_natCast hsmall)

/-- A sign says that an amount is money. -/
theorem search_FEE_CONTEXT (rest : List Char) :
    (Re.search p.toTables (FEE_CONTEXT p.toPlatform) (String.ofList ('₹' :: rest))).isSome = true := by
  have hsign : (Re.word "₹").Leads p.toTables ⟨none, '₹' :: rest, fun _ => none⟩
      ⟨some '₹', rest, fun _ => none⟩ := ⟨_, ⟨'₹', rest, rfl, rfl, rfl⟩, rfl⟩
  exact @Re.isSome_search p.toTables _ _ _ [] _ String.toList_ofList (.inl hsign)

/-- **An amount of a label is read as money.** -/
theorem amount?_labelled {label : String} {n pos : Nat} {rest : List Char}
    (hmin : PLAUSIBLE_FEE_MIN ≤ n) (hmax : n ≤ PLAUSIBLE_FEE_MAX)
    (h : Grouped (Nat.toDigits 10 n) w) (hlabel : label.toList = '₹' :: rest)
    (hpos : pos ≤ 16) (hbefore : ∀ c ∈ label.toList.take pos, LabelChar c) :
    amount? p label (labelled pos w) = some (some (n, true)) := by
  have hstart : slice label (pos - 16) pos = label.toList.take pos := by
    rw [slice, Nat.sub_eq_zero_of_le hpos, List.drop_zero]
  have hwindow : slice label (pos - 28) (pos + (w.length + 1) + 28) =
      '₹' :: rest.take (pos + (w.length + 1) + 27) := by
    rw [slice, Nat.sub_eq_zero_of_le (hpos.trans (by decide)), List.drop_zero, hlabel]
    rfl
  have hplausible : (PLAUSIBLE_FEE_MIN : ℤ) ≤ (n : ℤ) ∧ (n : ℤ) ≤ PLAUSIBLE_FEE_MAX :=
    ⟨by exact_mod_cast hmin, by exact_mod_cast hmax⟩
  have hround : (Double.finite n).rounded = some (n : ℤ) :=
    congrArg some (Numbers.halfEven_intCast n)
  have hnot : ¬Introduced p label (labelled pos w) := by
    have hnone : reachesEnd p.toPlatform (NON_FEE_PREFIX p.toPlatform)
        (slice label (pos - 16) pos) = false := by
      rw [hstart]
      exact not_reachesEnd hbefore
    exact fun h => Bool.false_ne_true (hnone.symm.trans h)
  have hcontext := search_FEE_CONTEXT (p := p) (rest.take (pos + (w.length + 1) + 27))
  rw [← hwindow] at hcontext
  refine (if_neg hnot).trans ?_
  rw [number_labelled hmax h, Option.bind_some, hround, Option.map_some, if_pos hplausible]
  dsimp only [labelled]
  rw [hcontext, Int.toNat_natCast, Bool.or_true]

theorem Grouped.length_le (h : Grouped ds w) : w.length ≤ 7 := by
  cases h with
  | short hfew => omega
  | long hfront hlast hds =>
    rw [List.length_append, List.length_cons]
    omega

theorem Grouped.labelChar (h : Grouped ds w) (hall : ∀ c ∈ ds, c.isDigit = true) :
    ∀ c ∈ w, LabelChar c := by
  cases h with
  | short hfew => exact fun c hc => .inl (hall c hc)
  | long hfront hlast hds =>
    subst hds
    intro c hc
    rcases List.mem_append.mp hc with hc | hc
    · exact .inl (hall c (List.mem_append_left _ hc))
    · rcases List.mem_cons.mp hc with rfl | hc
      · exact .inr (.inl rfl)
      · exact .inl (hall c (List.mem_append_right _ hc))

end

/-! ## Reading a label -/

variable {low high : Nat}

/-- **The amounts of a label**, in order. -/
theorem amounts?_formatFeeLabel (hmin : PLAUSIBLE_FEE_MIN ≤ low) (hle : low ≤ high)
    (hmax : high ≤ PLAUSIBLE_FEE_MAX) :
    amounts? p (formatFeeLabel low high) = some (if low = high then [low] else [low, high]) := by
  have hlow := grouped_withCommas (hle.trans hmax)
  have hhigh := grouped_withCommas hmax
  have hascii (n : Nat) : ∀ c ∈ Nat.toDigits 10 n, c.isDigit = true := fun c hc =>
    Nat.isDigit_of_mem_toDigits (by decide) (by decide) hc
  rw [amounts?]
  by_cases heq : low = high
  · subst heq
    have hlabel : (formatFeeLabel low low).toList = '₹' :: (withCommas low).toList := by
      rw [formatFeeLabel, if_neg (not_not.mpr rfl), String.toList_append]
      rfl
    have hread := amount?_labelled (p := p) hmin hmax hlow hlabel (Nat.zero_le 16)
      fun c hc => absurd hc List.not_mem_nil
    rw [finditer_one hlow Nat.toDigits_ne_nil (digits_toDigits low) hlabel, if_pos rfl]
    simp [hread, List.reduceOption]
  · have hlabel : (formatFeeLabel low high).toList =
        '₹' :: ((withCommas low).toList ++ '–' :: '₹' :: (withCommas high).toList) := by
      rw [formatFeeLabel, if_pos heq]
      simp only [String.toList_append]
      show ['₹'] ++ _ ++ ['–', '₹'] ++ _ = _
      simp
    have hfirst := amount?_labelled (p := p) hmin (hle.trans hmax) hlow hlabel (Nat.zero_le 16)
      fun c hc => absurd hc List.not_mem_nil
    have hsecond : amount? p (formatFeeLabel low high)
        (labelled ((withCommas low).toList.length + 2) (withCommas high).toList) =
          some (some (high, true)) := by
      refine amount?_labelled (hmin.trans hle) hmax hhigh hlabel ?_ ?_
      · have := hlow.length_le
        omega
      · -- in front of the second amount stand the first one and the dash
        intro c hc
        have hc' : c ∈ '₹' :: ((withCommas low).toList ++ ['–']) := by
          rw [hlabel] at hc
          have hsplit : '₹' :: ((withCommas low).toList ++ '–' :: '₹' :: (withCommas high).toList) =
              '₹' :: ((withCommas low).toList ++ ['–']) ++ '₹' :: (withCommas high).toList := by
            simp
          rwa [hsplit, List.take_left' (by simp)] at hc
        rcases List.mem_cons.mp hc' with rfl | hc'
        · decide
        · rcases List.mem_append.mp hc' with hc' | hc'
          · exact hlow.labelChar (hascii low) c hc'
          · rw [List.mem_singleton.mp hc']
            decide
    rw [finditer_two hlow Nat.toDigits_ne_nil (digits_toDigits low) hhigh Nat.toDigits_ne_nil
      (digits_toDigits high) hlabel, if_neg heq]
    simp [hfirst, hsecond, List.reduceOption]

/-- **A label is read back** as the band it was written from. -/
theorem parse_formatFeeLabel (hmin : PLAUSIBLE_FEE_MIN ≤ low) (hle : low ≤ high)
    (hmax : high ≤ PLAUSIBLE_FEE_MAX) : parseTutorFee? p (formatFeeLabel low high) =
      some ⟨some low, some high, some (formatFeeLabel low high)⟩ := by
  have hlen := length_formatFeeLabel_le (hle.trans hmax) hmax
  have hblank : blank p.toPlatform (formatFeeLabel low high) = false := by
    have hsign : '₹' ∈ (formatFeeLabel low high).toList := by
      unfold formatFeeLabel
      split <;> simp
    rw [blank, decide_eq_false_iff_not, strip_eq_empty_iff]
    intro hall
    have hspace := hall '₹' hsign
    rw [(p.signs '₹' (.inl rfl)).2] at hspace
    cases hspace
  have hmake : FeeBand.make? (some low) (some high) (some (formatFeeLabel low high)) =
      some ⟨some low, some high, some (formatFeeLabel low high)⟩ := by
    refine if_pos ⟨decide_eq_true hlen, ?_⟩
    rintro _ ⟨⟩ _ ⟨⟩
    exact hle
  rw [parseTutorFee?, hblank, if_neg Bool.false_ne_true, amounts?_formatFeeLabel hmin hle hmax,
    Option.bind_some]
  by_cases heq : low = high
  · subst heq
    rw [if_pos rfl]
    exact hmake
  · rw [if_neg heq]
    dsimp only [List.foldl_cons, List.foldl_nil]
    rw [Nat.min_eq_left hle, Nat.max_eq_right hle]
    exact hmake

/-- **Fees are read back, and read soundly**: a label is read as the band it was written from; and a
text is read without raising, with its bounds in order, exactly if no number in it is too large. -/
theorem fee_bands (p : FeeTables) :
    (∀ low high, PLAUSIBLE_FEE_MIN ≤ low → low ≤ high → high ≤ PLAUSIBLE_FEE_MAX →
      parseTutorFee? p (formatFeeLabel low high) =
        some ⟨some low, some high, some (formatFeeLabel low high)⟩) ∧
      ∀ text, ReadSoundly p text ↔ ¬Overflows p text :=
  ⟨fun _ _ hmin hle hmax => parse_formatFeeLabel hmin hle hmax, fun _ => sound_iff⟩

/-- "₹800–₹1,200" is read back. -/
theorem eight_hundred_read_back : parseTutorFee? asciiFees (formatFeeLabel 800 1200) =
    some ⟨some 800, some 1200, some (formatFeeLabel 800 1200)⟩ :=
  (fee_bands asciiFees).1 800 1200 (by decide) (by decide) (by decide)

/-- A figure of 310 digits. -/
def longFigure : List Char := '1' :: List.replicate 309 '0'

/-- **A figure of 310 digits raises.** -/
theorem long_figure_raises : ¬ReadSoundly asciiFees (String.ofList longFigure) := by
  have hfound : (finditer ascii (AMOUNT ascii (String.ofList longFigure).length)
      (String.ofList longFigure)).any fun m =>
      !reachesEnd ascii (NON_FEE_PREFIX ascii)
          (slice (String.ofList longFigure) (m.start - 16) m.start) &&
        written Numbers.asciiNumerals (figureText m) = some (.number (10 ^ 309)) := by
    -- the kernel is slow at texts, and not at lists of characters
    simp only [finditer, slice, figureText, written, String.toList_ofList, String.length_ofList]
    decide +kernel
  have hlarge : (2 : ℚ) ^ 1024 - 2 ^ 970 ≤ 10 ^ 309 := by decide +kernel
  obtain ⟨m, hm, hread⟩ := List.any_eq_true.mp hfound
  rw [Bool.and_eq_true, Bool.not_eq_true', decide_eq_true_eq] at hread
  obtain ⟨hnot, hwritten⟩ := hread
  rw [sound_iff, not_not]
  exact ⟨m, hm, fun h => Bool.false_ne_true (hnot.symm.trans h), _, hwritten, .inl hlarge⟩

end NxTutors.Matching
