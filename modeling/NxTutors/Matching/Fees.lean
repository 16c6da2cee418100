import NxTutors.Matching.Tutors
import NxTutors.Text.Markup

/-!
# Fees

The fee of a tutor is free text on the website. The amounts in it are found by a pattern, those that
cannot be fees are left out, and the smallest and the largest become a band, with a label and
without a unit. Reading never fails: an amount that is kept has at most six digits, so the label is
short (`parseTutorFee_eq_some`).
-/

namespace NxTutors.Matching

open Text MatchAgent

/-- What amounts are read with. -/
structure FeePlatform extends Platform where
  /-- `int(round(float(figure)))`, of a thousand times the figure if there is a multiplier -/
  rounded : List Char → Bool → Nat

/-! ## Patterns -/

/-- A word of small letters with its case ignored, a Kelvin sign being a `k`. -/
def ignoringCase (s : String) : Re :=
  s.toList.foldr (fun c r => .seq
    (if c = 'k' then .alt (.ignoreCase c) (.one (· = '\u212a')) else .ignoreCase c) r) .empty

/-- The first of several patterns that leads on. -/
def alternatives : List Re → Re
  | [] => .one fun _ => false
  | [a] => a
  | a :: as => .alt a (alternatives as)

/-- As many times as possible, but no more than so many. -/
def repeated (a : Re) : Nat → Re
  | 0 => .empty
  | n + 1 => .opt (.seq a (repeated a n))

/-- A pattern between the ends of words. -/
def bounded (a : Re) : Re := .seqs [.boundary, a, .boundary]

/-- `_AMOUNT`, in a text of so many characters. -/
def AMOUNT (p : Platform) (length : Nat) : Re :=
  let digit := Re.one p.isDigit
  let commaGroup := Re.seqs [.word ",", digit, digit, .opt digit]
  .seqs [
    .opt (alternatives
      [.word "₹", .seq (ignoringCase "rs") (.opt (.word ".")), ignoringCase "inr"]),
    .many p.isSpace,
    .group 1 (.alt
      (.seqs [digit, .opt (.seq digit (.opt digit)), commaGroup, repeated commaGroup length])
      (.seqs [digit, .many p.isDigit, .opt (.seqs [.word ".", digit, .many p.isDigit])])),
    .opt (.seqs [.many p.isSpace,
      .group 2 (alternatives (["k", "thousand", "hazar", "hazaar"].map ignoringCase)), .boundary])]

/-- `_NON_FEE_PREFIX`, which has to reach the end of the text. -/
def NON_FEE_PREFIX (p : Platform) : Re :=
  .seqs [.boundary,
    alternatives ((["sector", "sec", "class", "std", "standard", "grade", "phase", "pin", "pincode",
      "block", "plot", "flat", "house", "road", "floor", "no", "number", "age"].map ignoringCase) ++
      [.seq (ignoringCase "mark") (.opt (ignoringCase "s")), ignoringCase "std"]),
    .many p.isSpace, .opt (.one fun c => c ∈ ['-', '.', ':', '#']), .many p.isSpace]

/-- `_FEE_CONTEXT`. -/
def FEE_CONTEXT (p : Platform) : Re :=
  let per (unit : String) := bounded (.seqs [ignoringCase "per", .many p.isSpace, ignoringCase unit])
  let plural (word : String) := bounded (.seq (ignoringCase word) (.opt (ignoringCase "s")))
  alternatives [.word "₹",
    .seqs [.boundary, ignoringCase "rs", .opt (.word ".")], bounded (ignoringCase "inr"),
    bounded (ignoringCase "budget"), plural "fee", plural "charge", bounded (ignoringCase "rate"),
    bounded (ignoringCase "price"),
    bounded (.seq (ignoringCase "pay") (.opt (alternatives (["ing", "ment"].map ignoringCase)))),
    bounded (ignoringCase "afford"), per "hour", per "month", bounded (ignoringCase "hourly"),
    bounded (ignoringCase "monthly"), bounded (ignoringCase "paisa"), plural "rupee"]

/-- A match: where it starts and ends, and what its groups captured. -/
structure Found where
  start : Nat
  finish : Nat
  groups : Nat → Option (List Char)

/-- `re.finditer`, of a pattern that matches nothing empty. -/
def finditer (p : Platform) (a : Re) (s : String) : List Found :=
  go (s.toList.length + 1) 0 none s.toList
where
  go : Nat → Nat → Option Char → List Char → List Found
    | 0, _, _, _ => []
    | n + 1, pos, before, rest =>
      match a.run p.toTables some ⟨before, rest, fun _ => none⟩ with
      | some end' =>
        let finish := pos + (rest.length - end'.rest.length)
        ⟨pos, finish, end'.groups⟩ :: go n finish end'.before end'.rest
      | none =>
        match rest with
        | [] => []
        | c :: cs => go n (pos + 1) (some c) cs

/-- A pattern leads from somewhere to the end of the text. -/
def reachesEnd (p : Platform) (a : Re) (s : List Char) : Bool := go none s
where
  go (before : Option Char) (rest : List Char) : Bool :=
    (a.run p.toTables (fun c => if c.rest = [] then some () else none)
      ⟨before, rest, fun _ => none⟩).isSome ||
      match rest with
      | [] => false
      | c :: cs => go (some c) cs

/-! ## Amounts -/

def PLAUSIBLE_FEE_MIN : Nat := 50
def PLAUSIBLE_FEE_MAX : Nat := 200000

/-- `text[start:end]`. -/
def slice (text : String) (start finish : Nat) : List Char := (text.toList.take finish).drop start

/-- The amount of a match, and whether it is said to be money; none where it is no fee. -/
def amount (p : FeePlatform) (text : String) (m : Found) : Option (Nat × Bool) :=
  let raw := (m.groups 1).getD []
  let multiplier := (m.groups 2).isSome
  if reachesEnd p.toPlatform (NON_FEE_PREFIX p.toPlatform) (slice text (m.start - 16) m.start) then
    none
  else
    let value := p.rounded (raw.filter (· ≠ ',')) multiplier
    if PLAUSIBLE_FEE_MIN ≤ value ∧ value ≤ PLAUSIBLE_FEE_MAX then
      let window := slice text (m.start - 28) (m.finish + 28)
      some (value, multiplier ||
        (Re.search p.toTables (FEE_CONTEXT p.toPlatform) (String.ofList window)).isSome)
    else none

/-- `_amounts`: those that are said to be money, or else all. -/
def feeAmounts (p : FeePlatform) (text : String) : List Nat :=
  let found := (finditer p.toPlatform (AMOUNT p.toPlatform text.length) text).filterMap
    (amount p text)
  let strong := (found.filter (·.2)).map Prod.fst
  if strong = [] then found.map Prod.fst else strong

/-- An amount that is kept is plausible. -/
theorem plausible_of_mem {p : FeePlatform} {text : String} {n : Nat} (h : n ∈ feeAmounts p text) :
    PLAUSIBLE_FEE_MIN ≤ n ∧ n ≤ PLAUSIBLE_FEE_MAX := by
  have hfound : ∃ found ∈ (finditer p.toPlatform (AMOUNT p.toPlatform text.length) text).filterMap
      (amount p text), found.1 = n := by
    unfold feeAmounts at h
    dsimp only at h
    split at h
    · exact List.mem_map.mp h
    · obtain ⟨found, hfound, heq⟩ := List.mem_map.mp h
      exact ⟨found, (List.mem_filter.mp hfound).1, heq⟩
  obtain ⟨found, hfound, rfl⟩ := hfound
  obtain ⟨m, -, hm⟩ := List.mem_filterMap.mp hfound
  unfold amount at hm
  dsimp only at hm
  split at hm
  · cases hm
  · split at hm
    · rename_i hplausible
      cases hm
      exact hplausible
    · cases hm

/-! ## Labels -/

/-- Digits in groups of three, the last digit first. -/
def commas : List Char → List Char
  | a :: b :: c :: d :: rest => a :: b :: c :: ',' :: commas (d :: rest)
  | digits => digits

/-- `f"{n:,}"`. -/
def withCommas (n : Nat) : String :=
  String.ofList (commas (Nat.toDigits 10 n).reverse).reverse

/-- `₹900` or `₹800–₹1,200`, of a band that has a figure. -/
def formatFeeLabel (minimum maximum : Nat) : String :=
  if minimum ≠ maximum then "₹" ++ withCommas minimum ++ "–₹" ++ withCommas maximum
  else "₹" ++ withCommas minimum

theorem length_commas_le : ∀ digits : List Char, (commas digits).length ≤ 2 * digits.length := by
  intro digits
  induction digits using commas.induct with
  | case1 a b c d rest ih =>
    rw [commas]
    simp only [List.length_cons] at ih ⊢
    omega
  | case2 digits hshort =>
    rw [commas]
    · omega
    · exact hshort

theorem length_withCommas_le {n : Nat} (h : n ≤ PLAUSIBLE_FEE_MAX) : (withCommas n).length ≤ 12 := by
  have hdigits : (Nat.toDigits 10 n).length ≤ 6 := by
    rw [Nat.length_toDigits_le_iff (by decide) (by decide)]
    unfold PLAUSIBLE_FEE_MAX at h
    omega
  have hcommas := length_commas_le (Nat.toDigits 10 n).reverse
  rw [List.length_reverse] at hcommas
  rw [withCommas, String.length_ofList, List.length_reverse]
  omega

theorem length_formatFeeLabel_le {minimum maximum : Nat} (hmin : minimum ≤ PLAUSIBLE_FEE_MAX)
    (hmax : maximum ≤ PLAUSIBLE_FEE_MAX) : (formatFeeLabel minimum maximum).length ≤ 64 := by
  have h := length_withCommas_le hmin
  have h' := length_withCommas_le hmax
  have hrupee : "₹".length = 1 := rfl
  have hdash : "–₹".length = 2 := rfl
  unfold formatFeeLabel
  split
  · rw [String.length_append, String.length_append, String.length_append]
    omega
  · rw [String.length_append]
    omega

/-! ## Bands -/

/-- `FeeBand(...)`, unless its validators refuse. -/
def FeeBand.make? (minimum maximum : Option Nat) (label : Option String) : Option FeeBand :=
  if (label.all fun l => l.length ≤ 64) ∧
      (∀ low ∈ minimum, ∀ high ∈ maximum, low ≤ high) then some ⟨minimum, maximum, label⟩
  else none

/-- `parse_tutor_fee`, of a text; none where the band is refused. -/
def parseTutorFee (p : FeePlatform) (budgetColumn : String) : Option FeeBand :=
  if blank p.toPlatform budgetColumn then FeeBand.make? none none none
  else
    match feeAmounts p budgetColumn with
    | [] => FeeBand.make? none none none
    | n :: ns =>
      let low := ns.foldl min n
      let high := ns.foldl max n
      FeeBand.make? (some low) (some high) (some (formatFeeLabel low high))

theorem foldl_min_le {n : Nat} : ∀ {ns : List Nat}, ns.foldl min n ≤ n := by
  intro ns
  induction ns generalizing n with
  | nil => exact Nat.le_refl _
  | cons m ns ih => exact ih.trans (Nat.min_le_left _ _)

theorem le_foldl_max {n : Nat} : ∀ {ns : List Nat}, n ≤ ns.foldl max n := by
  intro ns
  induction ns generalizing n with
  | nil => exact Nat.le_refl _
  | cons m ns ih => exact (Nat.le_max_left _ _).trans ih

theorem foldl_max_le {n k : Nat} (hn : n ≤ k) : ∀ {ns : List Nat}, (∀ m ∈ ns, m ≤ k) →
    ns.foldl max n ≤ k := by
  intro ns
  induction ns generalizing n with
  | nil => exact fun _ => hn
  | cons m ns ih =>
    intro h
    obtain ⟨hm, hns⟩ := List.forall_mem_cons.mp h
    exact ih (Nat.max_le.mpr ⟨hn, hm⟩) hns

/-- **Every text is read as some band.** -/
theorem parseTutorFee_isSome (p : FeePlatform) (budgetColumn : String) :
    (parseTutorFee p budgetColumn).isSome := by
  unfold parseTutorFee
  split
  · rfl
  · cases hamounts : feeAmounts p budgetColumn with
    | nil => rfl
    | cons n ns =>
      have hall : ∀ m ∈ n :: ns, m ≤ PLAUSIBLE_FEE_MAX := fun m hm =>
        (plausible_of_mem (hamounts ▸ hm)).2
      obtain ⟨hn, hns⟩ := List.forall_mem_cons.mp hall
      have hmin : ns.foldl min n ≤ PLAUSIBLE_FEE_MAX := foldl_min_le.trans hn
      have hmax : ns.foldl max n ≤ PLAUSIBLE_FEE_MAX := foldl_max_le hn hns
      have hlabel := length_formatFeeLabel_le hmin hmax
      have horder : ns.foldl min n ≤ ns.foldl max n := foldl_min_le.trans le_foldl_max
      dsimp only
      have hordered : ∀ low ∈ some (ns.foldl min n), ∀ high ∈ some (ns.foldl max n), low ≤ high := by
        rintro _ ⟨⟩ _ ⟨⟩
        exact horder
      rw [FeeBand.make?, if_pos ⟨decide_eq_true hlabel, hordered⟩]
      rfl

/-- The label of a fee is written from its amounts. -/
theorem label_of_parseTutorFee {p : FeePlatform} {budget : String} {fee : FeeBand}
    (h : parseTutorFee p budget = some fee) : ∀ label ∈ fee.label, ∃ low high,
      label = formatFeeLabel low high := by
  have hband {low high : Option Nat} {label : Option String}
      (h : FeeBand.make? low high label = some fee) : fee.label = label := by
    rw [FeeBand.make?] at h
    split_ifs at h
    cases h
    rfl
  unfold parseTutorFee at h
  split at h
  · rw [hband h]
    exact nofun
  · cases hamounts : feeAmounts p budget with
    | nil =>
      rw [hamounts] at h
      rw [hband h]
      exact nofun
    | cons n ns =>
      rw [hamounts] at h
      rw [hband h]
      rintro _ ⟨⟩
      exact ⟨_, _, rfl⟩

/-! ## Experience -/

/-- `parse_experience_years`: the first one or two digits, if they can be years. -/
def parseExperienceYears (p : Platform) (raw : String) : Option Nat :=
  if raw = "" then none
  else
    ((Re.search p.toTables (.group 1 (oneOrTwoDigits p)) raw).bind fun groups =>
      (groups 1).map (intOf p)).filter (· ≤ 70)

end NxTutors.Matching
