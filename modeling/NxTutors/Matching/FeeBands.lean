import Mathlib.Data.List.ReduceOption
import NxTutors.Matching.Fees
import NxTutors.Numbers.Binary64
import NxTutors.Text.RegexRules

/-!
# Fees that are read back

A fee is written with a currency sign, commas and a dash, and the column it is stored in is read as
free text. What was written is read back as the same band.

Any text is read as a band that is in order, or as none, but for one case: a number too large for
double precision is infinite, and cannot be rounded. So reading raises exactly where such a number
stands, and no word for an address in front of it (`fee_bands`).
-/

namespace NxTutors.Matching

open Text MatchAgent
open Numbers (Numerals Double Written float written natOf magnitude lastBit)

/-- What the platform knows of characters. -/
structure FeeTables extends Platform, Numerals where
  lawful : toNumerals.Lawful
  signs : ∀ c, c = '₹' ∨ c = '–' → isDigit c = false ∧ isSpace c = false

/-- On ASCII. -/
def asciiFees : FeeTables where
  toPlatform := ascii
  plain := Text.plain_ascii
  isDigit_iff _ _ := Iff.rfl
  lawful := Numbers.lawful_asciiNumerals
  signs c hc := by rcases hc with rfl | rfl <;> exact ⟨by decide, by decide⟩

variable (p : FeeTables)

/-! ## Amounts that raise -/

/-- The figure of a match, without its commas. -/
def figureText (m : Found) : String := String.ofList (((m.groups 1).getD []).filter (· ≠ ','))

/-- The number of a match. None is raising. -/
def number (m : Found) : Option Double :=
  (float p.toNumerals (figureText m)).map fun number =>
    if (m.groups 2).isSome then number.times 1000 else number

/-- The amount of a match, and whether it is said to be money; no amount where it is no fee. None is
raising. -/
def amount? (text : String) (m : Found) : Option (Option (Nat × Bool)) :=
  if reachesEnd p.toPlatform (NON_FEE_PREFIX p.toPlatform) (slice text (m.start - 16) m.start) then
    some none
  else
    ((number p m).bind Double.rounded).map fun value =>
      if (PLAUSIBLE_FEE_MIN : ℤ) ≤ value ∧ value ≤ PLAUSIBLE_FEE_MAX then
        let window := slice text (m.start - 28) (m.finish + 28)
        some (value.toNat, (m.groups 2).isSome ||
          (Re.search p.toTables (FEE_CONTEXT p.toPlatform) (String.ofList window)).isSome)
      else none

/-- `_amounts`. None is raising. -/
def amounts? (text : String) : Option (List Nat) :=
  ((finditer p.toPlatform (AMOUNT p.toPlatform text.length) text).mapM (amount? p text)).map
    fun found =>
      let found : List (Nat × Bool) := found.reduceOption
      let strong := (found.filter (·.2)).map Prod.fst
      if strong = [] then found.map Prod.fst else strong

/-- `parse_tutor_fee`, of a text. None is raising. -/
def parseTutorFee? (budgetColumn : String) : Option FeeBand :=
  if blank p.toPlatform budgetColumn then FeeBand.make? none none none
  else
    (amounts? p budgetColumn).bind fun values =>
      match values with
      | [] => FeeBand.make? none none none
      | n :: ns =>
        let low := ns.foldl min n
        let high := ns.foldl max n
        FeeBand.make? (some low) (some high) (some (formatFeeLabel low high))

/-! ## Budgets -/

inductive FeeUnit
  | hour | month | session | unknown
  deriving DecidableEq, Repr

/-- A parent's stated budget, with the unit they used. -/
structure ParsedBudget where
  minimum : Option ℤ
  maximum : Option ℤ
  unit : FeeUnit
  raw : String
  deriving DecidableEq, Repr

/-- `\b(?:…)\b`. -/
def anyOf (as : List Re) : Re := bounded (alternatives as)

/-- Words with white space between them, or none. -/
def spaced (words : List String) : Re := match words with
  | [] => .empty
  | [w] => ignoringCase w
  | w :: ws => .seqs [ignoringCase w, .many p.isSpace, spaced ws]

/-- A word that goes on or not. -/
def perhaps (word rest : String) : Re := .seq (ignoringCase word) (.opt (ignoringCase rest))

/-- `_PER_HOUR`. -/
def PER_HOUR : Re :=
  anyOf [spaced p ["per", "hour"], .seqs [.word "/", .many p.isSpace, ignoringCase "hr"],
    spaced p ["per", "hr"], .seqs [perhaps "a" "n", .many p.isSpace, ignoringCase "hour"],
    ignoringCase "hourly", ignoringCase "ghante"]

/-- `_PER_MONTH`. -/
def PER_MONTH : Re :=
  anyOf [spaced p ["per", "month"], .seqs [.word "/", .many p.isSpace, ignoringCase "month"],
    ignoringCase "monthly", ignoringCase "mahine",
    .seqs [ignoringCase "p", .opt (.word "."), ignoringCase "m", .opt (.word ".")]]

/-- `_PER_SESSION`. -/
def PER_SESSION : Re :=
  anyOf [.seqs [ignoringCase "per", .many p.isSpace,
    alternatives (["class", "session", "sitting"].map ignoringCase)]]

/-- `_RANGE_HINT`. -/
def RANGE_HINT : Re :=
  .alt (anyOf (["between", "from", "to", "se", "tak"].map ignoringCase))
    (.one fun c => c ∈ ['-', '–', '—'])

/-- `_APPROX`. -/
def APPROX : Re :=
  anyOf (["around", "approx", "about", "roughly"].map ignoringCase ++ [perhaps "near" "ly"] ++
    ["lagbhag", "takriban"].map ignoringCase)

/-- `_MAX_HINT`. -/
def MAX_HINT : Re :=
  anyOf (["under", "below"].map ignoringCase ++ [perhaps "max" "imum", ignoringCase "upto",
    spaced p ["up", "to"], ignoringCase "within", spaced p ["budget", "is"]])

/-- `_MIN_HINT`. -/
def MIN_HINT : Re :=
  anyOf (["above", "over"].map ignoringCase ++ [perhaps "min" "imum", spaced p ["at", "least"],
    spaced p ["more", "than"]])

/-- A pattern is found in a text. -/
def hinted (a : Re) (text : String) : Bool := (Re.search p.toTables a text).isSome

def detectUnit (text : String) : FeeUnit :=
  if hinted p (PER_HOUR p) text then .hour
  else if hinted p (PER_MONTH p) text then .month
  else if hinted p (PER_SESSION p) text then .session
  else .unknown

/-- 0.15, in double precision. -/
def APPROX_TOLERANCE : ℚ := magnitude (15 / 100)

/-- `int(round(amount * APPROX_TOLERANCE))`. None is raising. -/
def margin (amount : Nat) : Option ℤ := (Double.round (amount * APPROX_TOLERANCE)).rounded

/-- `parse_budget`: none is raising, and some of none is finding nothing. -/
def parseBudget? (text : String) : Option (Option ParsedBudget) :=
  (amounts? p text).bind fun values =>
    let unit := detectUnit p text
    let raw := take (strip p.toTables text) 120
    match values with
    | [] => some none
    | amount :: more =>
      if more ≠ [] ∧ hinted p RANGE_HINT text then
        -- the first two, in order
        let other := more.headD amount
        some (some ⟨some (min amount other), some (max amount other), unit, raw⟩)
      else if hinted p (MAX_HINT p) text then some (some ⟨none, some amount, unit, raw⟩)
      else if hinted p (MIN_HINT p) text then some (some ⟨some amount, none, unit, raw⟩)
      else
        let about := (margin amount).map fun margin =>
          some ⟨some (amount - margin), some (amount + margin), unit, raw⟩
        -- a bare figure has the same tolerance
        if hinted p APPROX text then about else about

/-! ## What is found -/

section

variable {p} {text : String} {m : Found}

theorem not_isDigit {c : Char} (hprint : Printable c) (hc : c.isDigit = false) :
    p.isDigit c = false := by
  rw [Bool.eq_false_iff, Ne, p.isDigit_iff c hprint, hc]
  decide

/-- What `finditer` finds are matches. -/
theorem of_mem_finditer {a : Re} {s : String} (h : m ∈ finditer p.toPlatform a s) :
    ∃ at' end', a.Leads p.toTables at' end' ∧ m.groups = end'.groups := by
  have hgo (n pos : Nat) (before : Option Char) (rest : List Char)
      (h : m ∈ finditer.go p.toPlatform a n pos before rest) :
      ∃ at' end', a.Leads p.toTables at' end' ∧ m.groups = end'.groups := by
    induction n generalizing pos before rest with
    | zero => cases h
    | succ n ih =>
      unfold finditer.go at h
      split at h
      · rename_i end' hrun
        obtain ⟨end₁, hleads, heq⟩ := Re.run_eq_some hrun
        rcases List.mem_cons.mp h with rfl | h
        · exact ⟨_, end₁, hleads, by rw [Option.some.inj heq]⟩
        · exact ih _ _ _ h
      · split at h
        · cases h
        · exact ih _ _ _ h
  exact hgo _ _ _ _ h

variable (p) in
/-- A figure: digits, perhaps with a point and digits behind it. -/
def IsFigure (cs : List Char) : Prop :=
  ∃ ds es tail, ds ≠ [] ∧ (∀ c ∈ ds, p.isDigit c = true) ∧ (∀ c ∈ es, p.isDigit c = true) ∧
    (tail = '.' :: es ∨ tail = [] ∧ es = []) ∧ cs = ds ++ tail

theorem only_repeated {P : Char → Prop} {a : Re} (ha : a.Only P) (n : Nat) :
    (repeated a n).Only P := by
  induction n with
  | zero => trivial
  | succ n ih => exact ⟨⟨ha, ih⟩, trivial⟩

theorem digit_ne_comma {c : Char} (hc : p.isDigit c = true) : c ≠ ',' := by
  rintro rfl
  rw [not_isDigit (by decide) (by decide)] at hc
  cases hc

/-- Digits have no commas among them. -/
theorem filter_digits {ds : List Char} (hall : ∀ c ∈ ds, p.isDigit c = true) :
    ds.filter (· ≠ ',') = ds := by
  rw [List.filter_eq_self]
  exact fun c hc => by simpa using digit_ne_comma (hall c hc)

/-- Groups of digits, without their commas, are a figure. -/
theorem isFigure_commaGroups {cs : List Char} (hcs : cs ≠ [])
    (hfirst : ∀ c ∈ cs.head?, p.isDigit c = true)
    (hall : ∀ c ∈ cs, p.isDigit c = true ∨ c = ',') : IsFigure p (cs.filter (· ≠ ',')) := by
  refine ⟨cs.filter (· ≠ ','), [], [], ?_, fun c hc => ?_, nofun, .inr ⟨rfl, rfl⟩, by simp⟩
  · cases cs with
    | nil => exact absurd rfl hcs
    | cons c cs =>
      have hc : c ≠ ',' := digit_ne_comma (hfirst c rfl)
      rw [List.filter_cons_of_pos (by simpa using hc)]
      exact List.cons_ne_nil _ _
  · obtain ⟨hmem, hne⟩ := List.mem_filter.mp hc
    exact (hall c hmem).resolve_right (by simpa using hne)

theorem avoids_ignoringCase {n : Nat} (s : String) : (ignoringCase s).Avoids n := by
  unfold ignoringCase
  induction s.toList with
  | nil => trivial
  | cons c cs ih =>
    refine ⟨?_, ih⟩
    split
    · exact ⟨trivial, trivial⟩
    · trivial

theorem only_word {P : Char → Prop} {s : String} (h : ∀ c ∈ s.toList, P c) : (Re.word s).Only P := by
  unfold Re.word
  induction hs : s.toList generalizing s with
  | nil => trivial
  | cons c cs ih =>
    rw [hs] at h
    refine ⟨fun d hd => eq_of_beq hd ▸ h c List.mem_cons_self, ?_⟩
    exact ih (s := String.ofList cs) (by simpa using fun d hd => h d (List.mem_cons_of_mem c hd))
      String.toList_ofList

/-- **The first group of an amount is a figure.** -/
theorem figure_of_leads {length : Nat} {at' end' : Cursor}
    (h : (AMOUNT p.toPlatform length).Leads p.toTables at' end') :
    ∃ raw, end'.groups 1 = some raw ∧ IsFigure p (raw.filter (· ≠ ',')) := by
  obtain ⟨sign, -, blanks, -, digits, hgroup, rest, hmultiplier, hend⟩ := h
  obtain ⟨mid, raw, hfigure, hraw, rfl⟩ := Re.leads_group.mp hgroup
  refine ⟨raw, ?_, ?_⟩
  · -- the multiplier is another group
    cases hend
    have hkept : end'.groups 1 = if 1 = 1 then some raw else mid.groups 1 := by
      refine Re.Leads.groups_eq ?_ hmultiplier
      exact ⟨⟨trivial, ⟨by decide, avoids_ignoringCase _, avoids_ignoringCase _,
        avoids_ignoringCase _, avoids_ignoringCase _⟩, trivial, trivial⟩, trivial⟩
    exact hkept
  · rcases hfigure with ⟨first, ⟨c, cs, hfirst, hc, rfl⟩, hlater⟩ | ⟨first, ⟨c, cs, hfirst, hc, rfl⟩,
      last, ⟨ds, hds, hdigits, hmid⟩, fraction, hpoint, hend'⟩
    · -- digits and commas, a digit first
      have hdigit : (Re.one p.isDigit).Only fun c => p.isDigit c = true ∨ c = ',' :=
        fun c hc => .inl hc
      have hgroup : (Re.seqs [.word ",", .one p.isDigit, .one p.isDigit, .opt (.one p.isDigit)]).Only
          fun c => p.isDigit c = true ∨ c = ',' :=
        ⟨only_word (by simp), hdigit, hdigit, ⟨hdigit, trivial⟩, trivial⟩
      obtain ⟨cs', hcs', hall⟩ : ∃ cs', cs = cs' ++ mid.rest ∧
          ∀ c ∈ cs', p.isDigit c = true ∨ c = ',' := by
        refine Re.Leads.only ?_ hlater
        exact ⟨⟨⟨hdigit, hdigit, trivial⟩, trivial⟩, hgroup, only_repeated hgroup _, trivial⟩
      have hsplit : raw = c :: cs' := by
        have hboth : raw ++ mid.rest = c :: cs' ++ mid.rest := by
          rw [← hraw, hfirst, hcs']
          rfl
        exact List.append_cancel_right hboth
      rw [hsplit]
      refine isFigure_commaGroups (List.cons_ne_nil _ _) (fun d hd => ?_) fun d hd => ?_
      · rw [← Option.some.inj hd]
        exact hc
      · rcases List.mem_cons.mp hd with rfl | hd
        · exact .inl hc
        · exact hall d hd
    · cases hend'
      have hds' : cs = ds ++ last.rest := hds
      have hall : ∀ d ∈ c :: ds, p.isDigit d = true := by
        intro d hd
        rcases List.mem_cons.mp hd with rfl | hd
        · exact hc
        · exact hdigits d hd
      rcases hpoint with ⟨dot, hdot, e, ⟨x, xs, hx, hxdigit, rfl⟩, more, ⟨es, hes, hmore, hmore'⟩, hfin⟩
        | hpoint
      · -- digits behind a point
        cases hfin
        have hrest : last.rest = '.' :: dot.rest := Re.leads_word hdot
        have hsplit : raw = c :: ds ++ '.' :: (x :: es) := by
          have hboth : raw ++ mid.rest = c :: ds ++ '.' :: (x :: es) ++ mid.rest := by
            rw [← hraw, hfirst, hds', hrest, hx, show xs = es ++ mid.rest from hes]
            simp
          exact List.append_cancel_right hboth
        have hall' : ∀ d ∈ x :: es, p.isDigit d = true := by
          intro d hd
          rcases List.mem_cons.mp hd with rfl | hd
          · exact hxdigit
          · exact hmore d hd
        refine ⟨c :: ds, x :: es, _, List.cons_ne_nil _ _, hall, hall', .inl rfl, ?_⟩
        rw [hsplit, List.filter_append, filter_digits hall,
          List.filter_cons_of_pos (by decide), filter_digits hall']
      · cases hpoint
        have hsplit : raw = c :: ds := by
          have hboth : raw ++ mid.rest = c :: ds ++ mid.rest := by
            rw [← hraw, hfirst, hds']
            rfl
          exact List.append_cancel_right hboth
        refine ⟨c :: ds, [], [], List.cons_ne_nil _ _, hall, nofun, .inr ⟨rfl, rfl⟩, ?_⟩
        rw [hsplit, filter_digits hall, List.append_nil]

/-! ## What raises -/

variable (p) in
/-- **An amount is too large**: its number is infinite in double precision, or a thousand times it is,
if there is a multiplier. -/
def TooLarge (m : Found) : Prop :=
  ∃ q, written p.toNumerals (figureText m) = some (.number q) ∧
    (2 ^ 1024 - 2 ^ 970 ≤ q ∨
      (m.groups 2).isSome = true ∧ 2 ^ 1024 - 2 ^ 970 ≤ magnitude q * 1000)

variable (p text m) in
/-- A word for an address, a grade or an id introduces a number. -/
def Introduced : Prop :=
  reachesEnd p.toPlatform (NON_FEE_PREFIX p.toPlatform) (slice text (m.start - 16) m.start) = true

/-- A figure is a number. -/
theorem written_of_isFigure {cs : List Char} (h : IsFigure p cs) :
    ∃ q, 0 ≤ q ∧ written p.toNumerals (String.ofList cs) = some (.number q) := by
  obtain ⟨ds, es, tail, hds, hall, hall', htail, rfl⟩ := h
  refine ⟨_, ?_, Numbers.written_figure p.lawful hds hall hall' htail⟩
  exact mul_nonneg (Nat.cast_nonneg _) (zpow_nonneg (by norm_num) _)

theorem written_of_found {length : Nat} (h : m ∈ finditer p.toPlatform (AMOUNT p.toPlatform length) text) :
    ∃ q, 0 ≤ q ∧ written p.toNumerals (figureText m) = some (.number q) := by
  obtain ⟨at', end', hleads, hgroups⟩ := of_mem_finditer h
  obtain ⟨raw, hraw, hfigure⟩ := figure_of_leads hleads
  rw [figureText, hgroups, hraw]
  exact written_of_isFigure hfigure

/-- **An amount raises exactly if it is too large**, and no word for an address introduces it. -/
theorem amount?_eq_none_iff {length : Nat}
    (h : m ∈ finditer p.toPlatform (AMOUNT p.toPlatform length) text) :
    amount? p text m = none ↔ ¬Introduced p text m ∧ TooLarge p m := by
  obtain ⟨q, hq, hwritten⟩ := written_of_found h
  have hfloat : float p.toNumerals (figureText m) = some (Double.round q) := by
    rw [float, hwritten]
    rfl
  have hlarge : TooLarge p m ↔ 2 ^ 1024 - 2 ^ 970 ≤ q ∨
      (m.groups 2).isSome = true ∧ 2 ^ 1024 - 2 ^ 970 ≤ magnitude q * 1000 := by
    constructor
    · rintro ⟨q', hq', hbound⟩
      rw [hwritten] at hq'
      cases hq'
      exact hbound
    · exact fun hbound => ⟨q, hwritten, hbound⟩
  rw [hlarge, amount?]
  split
  · rename_i hintroduced
    exact iff_of_false nofun fun h => h.1 hintroduced
  · rename_i hintroduced
    rw [Option.map_eq_none_iff, number, hfloat, Option.map_some, Option.bind_some]
    refine Iff.trans ?_ (and_iff_right hintroduced).symm
    rw [Numbers.round_of_nonneg hq]
    rcases lt_or_ge q (2 ^ 1024 - 2 ^ 970) with hlt | hge
    · rw [if_pos hlt]
      have hscaled : 0 ≤ magnitude q * ((1000 : ℕ) : ℚ) :=
        mul_nonneg (Numbers.magnitude_nonneg hq) (Nat.cast_nonneg _)
      by_cases hmultiplier : (m.groups 2).isSome = true
      · rw [if_pos hmultiplier, Double.times, Numbers.round_of_nonneg hscaled]
        split
        · rename_i hfits
          exact iff_of_false nofun fun h => h.elim (not_le.mpr hlt) fun h => not_le.mpr hfits h.2
        · rename_i hfits
          exact iff_of_true rfl (.inr ⟨hmultiplier, not_lt.mp hfits⟩)
      · rw [if_neg hmultiplier]
        exact iff_of_false nofun fun h => h.elim (not_le.mpr hlt) fun h => hmultiplier h.1
    · rw [if_neg (not_lt.mpr hge)]
      refine iff_of_true ?_ (.inl hge)
      split <;> rfl

variable (p text) in
/-- An amount that is found raises. -/
def Overflows : Prop :=
  ∃ m ∈ finditer p.toPlatform (AMOUNT p.toPlatform text.length) text,
    ¬Introduced p text m ∧ TooLarge p m

theorem mapM_eq_none_iff {α β : Type} {f : α → Option β} {xs : List α} :
    xs.mapM f = none ↔ ∃ x ∈ xs, f x = none := by
  induction xs with
  | nil => simp
  | cons x xs ih =>
    rw [List.mapM_cons, List.exists_mem_cons_iff, ← ih]
    cases f x with
    | none => exact iff_of_true rfl (.inl rfl)
    | some y => cases xs.mapM f <;> simp

theorem mapM_of_forall {α β : Type} {f : α → Option β} {g : α → β} {xs ys : List _}
    (h : ∀ x ∈ xs, ∀ y, f x = some y → g x = y) (hys : xs.mapM f = some ys) : xs.map g = ys := by
  induction xs generalizing ys with
  | nil =>
    cases hys
    rfl
  | cons x xs ih =>
    rw [List.mapM_cons] at hys
    obtain ⟨y, hy, hys⟩ := Option.bind_eq_some_iff.mp hys
    obtain ⟨zs, hzs, hys⟩ := Option.bind_eq_some_iff.mp hys
    cases hys
    rw [List.map_cons, h x List.mem_cons_self y hy,
      ih (fun x hx => h x (List.mem_cons_of_mem _ hx)) hzs]

theorem amounts?_eq_none_iff : amounts? p text = none ↔ Overflows p text := by
  rw [amounts?, Option.map_eq_none_iff, mapM_eq_none_iff]
  exact exists_congr fun m => and_congr_right fun hm => amount?_eq_none_iff hm

/-! ## What does not raise -/

variable (p) in
/-- The figures as they are read; one that cannot be rounded counts for nothing. -/
def FeeTables.reading : FeePlatform where
  toPlatform := p.toPlatform
  rounded raw multiplier :=
    ((((float p.toNumerals (String.ofList raw)).map fun number =>
      if multiplier then number.times 1000 else number).bind Double.rounded).getD 0).toNat

/-- Where an amount does not raise, it is the one that is read. -/
theorem amount_reading {r : Option (Nat × Bool)} (h : amount? p text m = some r) :
    amount p.reading text m = r := by
  rw [amount?] at h
  unfold amount
  dsimp only
  split at h
  · rename_i hintroduced
    cases h
    exact if_pos hintroduced
  · rename_i hintroduced
    refine (if_neg hintroduced).trans ?_
    obtain ⟨value, hvalue, rfl⟩ := Option.map_eq_some_iff.mp h
    have hrounded : p.reading.rounded (((m.groups 1).getD []).filter (· ≠ ',')) (m.groups 2).isSome =
        value.toNat := by
      show Int.toNat (Option.getD _ 0) = value.toNat
      rw [number, figureText] at hvalue
      rw [hvalue]
      rfl
    rw [hrounded]
    have hplausible : (PLAUSIBLE_FEE_MIN ≤ value.toNat ∧ value.toNat ≤ PLAUSIBLE_FEE_MAX) ↔
        (PLAUSIBLE_FEE_MIN : ℤ) ≤ value ∧ value ≤ PLAUSIBLE_FEE_MAX := by
      unfold PLAUSIBLE_FEE_MIN PLAUSIBLE_FEE_MAX
      omega
    exact if_congr hplausible rfl rfl

theorem amounts_reading {values : List Nat} (h : amounts? p text = some values) :
    feeAmounts p.reading text = values := by
  obtain ⟨found, hfound, rfl⟩ := Option.map_eq_some_iff.mp h
  have hmap : (finditer p.toPlatform (AMOUNT p.toPlatform text.length) text).map
      (amount p.reading text) = found := mapM_of_forall (fun m _ r hr => amount_reading hr) hfound
  have hkept : (finditer p.toPlatform (AMOUNT p.toPlatform text.length) text).filterMap
      (amount p.reading text) = found.reduceOption := by
    rw [← hmap, List.reduceOption, List.filterMap_map]
    rfl
  unfold feeAmounts
  rw [← hkept]
  rfl

/-- Where nothing raises, fees are read as those of the platform are. -/
theorem parseTutorFee_reading (h : ¬Overflows p text) :
    parseTutorFee? p text = parseTutorFee p.reading text := by
  obtain ⟨values, hvalues⟩ := Option.ne_none_iff_exists'.mp (mt amounts?_eq_none_iff.mp h)
  rw [parseTutorFee?, parseTutorFee, hvalues, amounts_reading hvalues]
  rfl

/-! ## Bounds in order -/

/-- The bounds of a fee are in order. -/
def FeeBand.Ordered (fee : FeeBand) : Prop :=
  ∀ low ∈ fee.minimum, ∀ high ∈ fee.maximum, low ≤ high

/-- The bounds of a budget are not negative, and in order. -/
structure ParsedBudget.Ordered (budget : ParsedBudget) : Prop where
  minimum : ∀ low ∈ budget.minimum, 0 ≤ low
  maximum : ∀ high ∈ budget.maximum, 0 ≤ high
  ordered : ∀ low ∈ budget.minimum, ∀ high ∈ budget.maximum, low ≤ high

variable (p text) in
/-- **A text is read soundly**, as a fee and as a budget: nothing raises, and bounds are in order. -/
structure ReadSoundly : Prop where
  fee : ∃ fee, parseTutorFee? p text = some fee ∧ fee.Ordered
  budget : ∃ budget, parseBudget? p text = some budget ∧ ∀ b ∈ budget, b.Ordered

theorem ordered_of_make? {low high : Option Nat} {label : Option String} {fee : FeeBand}
    (h : FeeBand.make? low high label = some fee) : fee.Ordered := by
  rw [FeeBand.make?] at h
  split_ifs at h with hvalid
  cases h
  exact hvalid.2

theorem ordered_of_parseTutorFee? {fee : FeeBand} (h : parseTutorFee? p text = some fee) :
    fee.Ordered := by
  rw [parseTutorFee?] at h
  split at h
  · exact ordered_of_make? h
  · obtain ⟨values, -, h⟩ := Option.bind_eq_some_iff.mp h
    cases values with
    | nil => exact ordered_of_make? h
    | cons n ns => exact ordered_of_make? h

theorem tolerance_bounds : 0 ≤ APPROX_TOLERANCE ∧ APPROX_TOLERANCE ≤ 3 / 10 := by
  have hsmall : (2 : ℚ) ^ (-1074 : ℤ) ≤ 15 / 100 := by
    calc (2 : ℚ) ^ (-1074 : ℤ) ≤ 2 ^ (-3 : ℤ) := zpow_le_zpow_right₀ (by norm_num) (by norm_num)
      _ ≤ 15 / 100 := by norm_num
  have hlast := Numbers.lastBit_le_self hsmall
  have hle := Numbers.magnitude_le (15 / 100)
  exact ⟨Numbers.magnitude_nonneg (by norm_num), by unfold APPROX_TOLERANCE; linarith⟩

/-- **The tolerance of a plausible amount** is a whole number, and not more than the amount. -/
theorem margin_bounds {amount : Nat} (hmin : PLAUSIBLE_FEE_MIN ≤ amount)
    (hmax : amount ≤ PLAUSIBLE_FEE_MAX) : ∃ k, margin amount = some k ∧ 0 ≤ k ∧ k ≤ amount := by
  obtain ⟨hpos, hle⟩ := tolerance_bounds
  have hamount : (50 : ℚ) ≤ amount := by exact_mod_cast hmin
  have hamount' : (amount : ℚ) ≤ 200000 := by exact_mod_cast hmax
  have hproduct : 0 ≤ amount * APPROX_TOLERANCE := mul_nonneg (Nat.cast_nonneg _) hpos
  have hsmall : amount * APPROX_TOLERANCE ≤ amount * (3 / 10) :=
    mul_le_mul_of_nonneg_left hle (Nat.cast_nonneg _)
  have hmagnitude := Numbers.magnitude_le_two_mul hproduct
  have hfinite : magnitude (amount * APPROX_TOLERANCE) < 2 ^ 1024 := by
    calc magnitude (amount * APPROX_TOLERANCE) < 2 ^ 17 := by linarith
      _ ≤ 2 ^ 1024 := pow_le_pow_right₀ (by norm_num) (by norm_num)
  refine ⟨Numbers.halfEven (magnitude (amount * APPROX_TOLERANCE)), ?_, ?_, ?_⟩
  · rw [margin, Double.round, abs_of_nonneg hproduct, if_pos hfinite, if_neg hproduct.not_gt]
    rfl
  · apply Numbers.le_halfEven
    rw [Int.cast_zero]
    exact Numbers.magnitude_nonneg hproduct
  · have hround := Numbers.halfEven_le (magnitude (amount * APPROX_TOLERANCE))
    have hcast : ((Numbers.halfEven (magnitude (amount * APPROX_TOLERANCE)) : ℤ) : ℚ) ≤ amount := by
      linarith
    exact_mod_cast hcast

/-- **A budget is in order** where nothing raises. -/
theorem parseBudget?_ordered (h : ¬Overflows p text) :
    ∃ budget, parseBudget? p text = some budget ∧ ∀ b ∈ budget, b.Ordered := by
  obtain ⟨values, hvalues⟩ := Option.ne_none_iff_exists'.mp (mt amounts?_eq_none_iff.mp h)
  have hplausible (n : Nat) (hn : n ∈ values) : PLAUSIBLE_FEE_MIN ≤ n ∧ n ≤ PLAUSIBLE_FEE_MAX :=
    plausible_of_mem (amounts_reading hvalues ▸ hn)
  rw [parseBudget?, hvalues, Option.bind_some]
  cases values with
  | nil => exact ⟨none, rfl, nofun⟩
  | cons amount more =>
    obtain ⟨hmin, hmax⟩ := hplausible amount List.mem_cons_self
    dsimp only
    split_ifs
    · refine ⟨_, rfl, ?_⟩
      rintro _ ⟨⟩
      refine ⟨?_, ?_, ?_⟩
      · rintro _ ⟨⟩
        omega
      · rintro _ ⟨⟩
        omega
      · rintro _ ⟨⟩ _ ⟨⟩
        omega
    · refine ⟨_, rfl, ?_⟩
      rintro _ ⟨⟩
      refine ⟨nofun, ?_, nofun⟩
      rintro _ ⟨⟩
      omega
    · refine ⟨_, rfl, ?_⟩
      rintro _ ⟨⟩
      refine ⟨?_, nofun, nofun⟩
      rintro _ ⟨⟩
      omega
    all_goals
      obtain ⟨k, hk, hnonneg, hle⟩ := margin_bounds hmin hmax
      rw [hk]
      refine ⟨_, rfl, ?_⟩
      rintro _ ⟨⟩
      refine ⟨?_, ?_, ?_⟩
      · rintro _ ⟨⟩
        omega
      · rintro _ ⟨⟩
        omega
      · rintro _ ⟨⟩ _ ⟨⟩
        omega

/-- **A text is read soundly exactly if no amount is too large.** -/
theorem sound_iff : ReadSoundly p text ↔ ¬Overflows p text := by
  constructor
  · intro h hoverflows
    obtain ⟨budget, hbudget, -⟩ := h.budget
    rw [parseBudget?, amounts?_eq_none_iff.mpr hoverflows] at hbudget
    cases hbudget
  · intro h
    refine ⟨?_, parseBudget?_ordered h⟩
    obtain ⟨fee, hfee⟩ := Option.isSome_iff_exists.mp (parseTutorFee_isSome p.reading text)
    rw [← parseTutorFee_reading h] at hfee
    exact ⟨fee, hfee, ordered_of_parseTutorFee? hfee⟩

end

end NxTutors.Matching
