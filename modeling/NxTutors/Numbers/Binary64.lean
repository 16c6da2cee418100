import NxTutors.Numbers.Decimal
import NxTutors.Text.Segments

/-!
# Double precision

A number is rounded to one with 53 binary digits, with a tie to the even one; the last digit is never
below `2 ^ -1074`. What would be `2 ^ 1024` or more after that is infinite. So a number is finite
exactly below `2 ^ 1024 - 2 ^ 970` (`round_finite_iff`), and a whole number of 53 digits stays what it
is.

Reading a text rounds the number that is written, of any size. White space around it does not count,
nor does an underscore between two digits; and infinity and what is no number can be written too.
-/

namespace Numbers

/-! ## Rounding -/

/-- A number in double precision. -/
inductive Double where
  | finite (q : ℚ)
  | infinite (negative : Bool)
  | nan

/-- The place of the last binary digit of `q`. -/
def lastBit (q : ℚ) : ℚ := 2 ^ max (Int.log 2 q - 52) (-1074)

/-- The size that a number of this size is rounded to. -/
def magnitude (q : ℚ) : ℚ := halfEven (q / lastBit q) * lastBit q

/-- The number in double precision that is nearest. -/
def Double.round (q : ℚ) : Double :=
  if magnitude |q| < 2 ^ 1024 then .finite (if q < 0 then -magnitude |q| else magnitude |q|)
  else .infinite (q < 0)

/-- `int(x)`. None is raising. -/
def Double.toInt : Double → Option ℤ
  | .finite q => some (if q < 0 then -⌊-q⌋ else ⌊q⌋)
  | _ => none

/-- `round(x)`. None is raising. -/
def Double.rounded : Double → Option ℤ
  | .finite q => some (halfEven q)
  | _ => none

/-- `x * n`, of a positive whole number. -/
def Double.times (n : ℕ) : Double → Double
  | .finite q => .round (q * n)
  | x => x

/-- Half a unit below an even number is rounded up to it. -/
theorem le_halfEven_of_even {n : ℤ} {q : ℚ} (hn : Even n) (h : (n : ℚ) - 1 / 2 ≤ q) :
    n ≤ halfEven q := by
  rcases le_or_gt (n : ℚ) q with hle | hlt
  · exact le_halfEven hle
  · have hfloor : ⌊q⌋ = n - 1 := by
      rw [Int.floor_eq_iff]
      push_cast
      constructor <;> linarith
    have hfract : 1 ≤ 2 * Int.fract q := by
      rw [Int.fract, hfloor]
      push_cast
      linarith
    have hodd : ¬Even (n - 1) := by
      rw [Int.not_even_iff_odd]
      exact hn.sub_odd odd_one
    unfold halfEven
    rw [if_neg (not_lt.mpr hfract), hfloor, if_neg hodd]
    split_ifs <;> omega

/-- More than half a unit below a number is not rounded up to it. -/
theorem halfEven_lt {n : ℤ} {q : ℚ} (h : q < n - 1 / 2) : halfEven q < n := by
  have hfloor : ⌊q⌋ < n := by
    rw [Int.floor_lt]
    linarith
  rcases eq_or_lt_of_le (Int.le_sub_one_of_lt hfloor) with heq | hlt
  · have hfract : 2 * Int.fract q < 1 := by
      rw [Int.fract, heq]
      push_cast
      linarith
    rw [halfEven, if_pos hfract]
    exact hfloor
  · unfold halfEven
    split_ifs <;> omega

theorem halfEven_le (q : ℚ) : (halfEven q : ℚ) ≤ q + 1 := by
  have hfloor : (⌊q⌋ : ℚ) ≤ q := Int.floor_le q
  unfold halfEven
  split_ifs <;> push_cast <;> linarith

theorem lastBit_pos (q : ℚ) : 0 < lastBit q := zpow_pos (by norm_num) _

/-- The place of the last digit is known from that of the first. -/
theorem lastBit_of_log {q : ℚ} {k : ℕ} (hle : 2 ^ k ≤ q) (hlt : q < 2 ^ (k + 1)) :
    lastBit q = 2 ^ ((k : ℤ) - 52) := by
  have hpos : (0 : ℚ) < q := (pow_pos (by norm_num) k).trans_le hle
  have hbelow : (k : ℤ) ≤ Int.log 2 q := by
    apply (Int.zpow_le_iff_le_log (by norm_num) hpos).mp
    rwa [Nat.cast_ofNat, zpow_natCast]
  have habove : Int.log 2 q < (k : ℤ) + 1 := by
    apply (Int.lt_zpow_iff_log_lt (by norm_num) hpos).mp
    rw [Nat.cast_ofNat]
    exact_mod_cast hlt
  have hlog : Int.log 2 q = k := by omega
  rw [lastBit, hlog, max_eq_left (by omega)]

/-- Rounding does not lose the leading digit. -/
theorem two_pow_le_magnitude {k : ℕ} {q : ℚ} (h : 2 ^ k ≤ q) : 2 ^ k ≤ magnitude q := by
  have hpos : (0 : ℚ) < q := (pow_pos (by norm_num) k).trans_le h
  have hlog : (k : ℤ) ≤ Int.log 2 q := by
    apply (Int.zpow_le_iff_le_log (by norm_num) hpos).mp
    rwa [Nat.cast_ofNat, zpow_natCast]
  have hlead : (2 : ℚ) ^ Int.log 2 q ≤ q := by
    have := Int.zpow_log_le_self (b := 2) (by norm_num) hpos
    rwa [Nat.cast_ofNat] at this
  -- the leading place is a whole number of last places
  obtain ⟨j, hj⟩ := Int.le.dest (show max (Int.log 2 q - 52) (-1074) ≤ Int.log 2 q by omega)
  have hsplit : (2 : ℚ) ^ Int.log 2 q = 2 ^ j * lastBit q := by
    rw [lastBit, ← zpow_natCast, ← zpow_add₀ (by norm_num), add_comm, hj]
  have hwhole : (2 : ℤ) ^ j ≤ halfEven (q / lastBit q) := by
    apply le_halfEven
    rw [le_div_iff₀ (lastBit_pos q)]
    push_cast
    rwa [← hsplit]
  have hwhole' : (2 : ℚ) ^ j ≤ halfEven (q / lastBit q) := by exact_mod_cast hwhole
  calc (2 : ℚ) ^ k = 2 ^ (k : ℤ) := (zpow_natCast _ _).symm
    _ ≤ 2 ^ Int.log 2 q := zpow_le_zpow_right₀ (by norm_num) hlog
    _ = 2 ^ j * lastBit q := hsplit
    _ ≤ magnitude q := mul_le_mul_of_nonneg_right hwhole' (lastBit_pos q).le

/-- A size is rounded up by at most one in the last place. -/
theorem magnitude_le (q : ℚ) : magnitude q ≤ q + lastBit q := by
  have h := mul_le_mul_of_nonneg_right (halfEven_le (q / lastBit q)) (lastBit_pos q).le
  rwa [add_mul, div_mul_cancel₀ _ (lastBit_pos q).ne', one_mul] at h

theorem magnitude_nonneg {q : ℚ} (hq : 0 ≤ q) : 0 ≤ magnitude q := by
  have h : (0 : ℤ) ≤ halfEven (q / lastBit q) := by
    apply le_halfEven
    rw [Int.cast_zero]
    exact div_nonneg hq (lastBit_pos q).le
  exact mul_nonneg (Int.cast_nonneg h) (lastBit_pos q).le

/-- Of a number that is not too small, the last digit counts less than the number. -/
theorem lastBit_le_self {q : ℚ} (hq : 2 ^ (-1074 : ℤ) ≤ q) : lastBit q ≤ q := by
  have hpos : 0 < q := (zpow_pos (by norm_num) (-1074 : ℤ)).trans_le hq
  rw [lastBit]
  rcases max_choice (Int.log 2 q - 52) (-1074) with h | h
  · have hlead := Int.zpow_log_le_self (b := 2) (by norm_num) hpos
    rw [Nat.cast_ofNat] at hlead
    rw [h]
    exact (zpow_le_zpow_right₀ (by norm_num) (by omega)).trans hlead
  · rw [h]
    exact hq

theorem lastBit_le {q : ℚ} {k : ℕ} (hq : 0 < q) (h : q < 2 ^ k) : lastBit q ≤ 2 ^ k := by
  have hlog : Int.log 2 q < (k : ℤ) := by
    apply (Int.lt_zpow_iff_log_lt (by norm_num) hq).mp
    rwa [Nat.cast_ofNat, zpow_natCast]
  rw [lastBit, ← zpow_natCast]
  exact zpow_le_zpow_right₀ (by norm_num) (by omega)

@[simp] theorem magnitude_zero : magnitude 0 = 0 := by
  have h := halfEven_intCast 0
  rw [Int.cast_zero] at h
  rw [magnitude, zero_div, h, Int.cast_zero, zero_mul]

/-- A size is never much more than twice what it is rounded from. -/
theorem magnitude_le_two_mul {q : ℚ} (hq : 0 ≤ q) : magnitude q ≤ 2 * q + 1 := by
  have hle := magnitude_le q
  rcases eq_or_lt_of_le hq with rfl | hpos
  · rw [magnitude_zero]
    norm_num
  · rcases lt_or_ge q 1 with hlt | hge
    · have hlast : lastBit q ≤ 2 ^ 0 := lastBit_le hpos (by rwa [pow_zero])
      rw [pow_zero] at hlast
      linarith
    · have hsmall : (2 : ℚ) ^ (-1074 : ℤ) ≤ q :=
        (zpow_le_one_of_nonpos₀ (by norm_num) (by norm_num)).trans hge
      linarith [lastBit_le_self hsmall]

/-- **Where sizes become infinite**: half a place below what has one digit more. -/
theorem magnitude_lt_iff {q : ℚ} (hq : 0 ≤ q) :
    magnitude q < 2 ^ 1024 ↔ q < 2 ^ 1024 - 2 ^ 970 := by
  -- all bounds in terms of half the last place of the greatest number
  obtain ⟨half, hhalf⟩ : ∃ half : ℚ, (2 : ℚ) ^ 970 = half := ⟨_, rfl⟩
  have hplace : (2 : ℚ) ^ 971 = 2 * half := hhalf ▸ pow_succ' 2 970
  have htop : (2 : ℚ) ^ 1024 = 2 ^ 54 * half := hhalf ▸ pow_add 2 54 970
  have hmiddle : (2 : ℚ) ^ 1023 = 2 ^ 53 * half := hhalf ▸ pow_add 2 53 970
  have hpos : 0 < half := hhalf ▸ pow_pos (by norm_num) 970
  rcases lt_or_ge q (2 ^ 1023) with hsmall | hlarge
  · -- far below, either bound holds
    have hmagnitude : magnitude q < 2 ^ 54 * half := by
      rcases eq_or_lt_of_le hq with rfl | hqpos
      · rw [magnitude_zero]
        positivity
      · have hlast : lastBit q ≤ 2 ^ 1023 := lastBit_le hqpos hsmall
        rw [hmiddle] at hsmall hlast
        linarith only [magnitude_le q, hsmall, hlast]
    rw [hmiddle] at hsmall
    rw [htop, hhalf]
    exact iff_of_true hmagnitude (by linarith only [hsmall, hpos])
  · rcases lt_or_ge q (2 ^ 1024) with hlt | hge
    · have hlast : lastBit q = 2 ^ 971 := lastBit_of_log (k := 1023) hlarge hlt
      rw [magnitude, hlast, hplace, htop, hhalf]
      constructor
      · intro h
        by_contra hnot
        have hround : (2 : ℤ) ^ 53 ≤ halfEven (q / (2 * half)) := by
          refine le_halfEven_of_even ⟨2 ^ 52, by norm_num⟩ ?_
          rw [le_div_iff₀ (by positivity)]
          push_cast
          linarith only [not_lt.mp hnot]
        have hround' : (2 : ℚ) ^ 53 ≤ halfEven (q / (2 * half)) := by exact_mod_cast hround
        have hmul := mul_le_mul_of_nonneg_right hround' (show 0 ≤ 2 * half by positivity)
        linarith only [h, hmul]
      · intro h
        have hround : halfEven (q / (2 * half)) < (2 : ℤ) ^ 53 := by
          refine halfEven_lt ?_
          rw [div_lt_iff₀ (by positivity)]
          push_cast
          linarith only [h]
        have hround' : (halfEven (q / (2 * half)) : ℚ) < 2 ^ 53 := by exact_mod_cast hround
        have hmul := mul_lt_mul_of_pos_right hround' (show 0 < 2 * half by positivity)
        linarith only [hmul]
    · have hmagnitude := two_pow_le_magnitude hge
      rw [htop] at hge hmagnitude
      rw [htop, hhalf]
      exact iff_of_false (not_lt.mpr hmagnitude) (not_lt.mpr (by linarith only [hge, hpos]))

/-- **The numbers that are finite.** -/
theorem round_finite_iff {q : ℚ} :
    (∃ r, Double.round q = .finite r) ↔ |q| < 2 ^ 1024 - 2 ^ 970 := by
  rw [← magnitude_lt_iff (abs_nonneg q), Double.round]
  split_ifs with h <;> simp [h]

/-- What is not negative is rounded to its magnitude, or is infinite. -/
theorem round_of_nonneg {q : ℚ} (hq : 0 ≤ q) :
    Double.round q = if q < 2 ^ 1024 - 2 ^ 970 then .finite (magnitude q) else .infinite false := by
  have hiff := magnitude_lt_iff hq
  rw [Double.round, abs_of_nonneg hq, if_neg hq.not_gt, decide_eq_false hq.not_gt]
  exact if_congr hiff rfl rfl

/-- **A whole number of 53 digits is not rounded.** -/
theorem magnitude_natCast {n : ℕ} (hn : n < 2 ^ 53) : magnitude n = n := by
  rcases Nat.eq_zero_or_pos n with rfl | hpos
  · exact_mod_cast magnitude_zero
  · have hpos' : (0 : ℚ) < n := Nat.cast_pos.mpr hpos
    have hlog : Int.log 2 (n : ℚ) < (53 : ℕ) := by
      apply (Int.lt_zpow_iff_log_lt (by norm_num) hpos').mp
      rw [Nat.cast_ofNat, zpow_natCast]
      exact_mod_cast hn
    obtain ⟨j, hj⟩ := Int.le.dest (show max (Int.log 2 (n : ℚ) - 52) (-1074) ≤ 0 by omega)
    -- one is a whole number of last places
    have hone : (1 : ℚ) = 2 ^ j * lastBit n := by
      rw [lastBit, ← zpow_natCast, ← zpow_add₀ (by norm_num), add_comm, hj, zpow_zero]
    have hplace := (lastBit_pos (n : ℚ)).ne'
    have hsplit : (n : ℚ) = ((n * 2 ^ j : ℤ) : ℚ) * lastBit n := by
      calc (n : ℚ) = n * (2 ^ j * lastBit n) := by rw [← hone, mul_one]
        _ = ((n * 2 ^ j : ℤ) : ℚ) * lastBit n := by push_cast; ring
    rw [magnitude, (div_eq_iff hplace).mpr hsplit, halfEven_intCast, ← hsplit]

theorem round_natCast {n : ℕ} (hn : n < 2 ^ 53) : Double.round n = .finite n := by
  have hmagnitude : magnitude |(n : ℚ)| = n := by
    rw [Nat.abs_cast, magnitude_natCast hn]
  have hbound : (n : ℚ) < 2 ^ 1024 := by
    have hcast : (n : ℚ) < 2 ^ 53 := by exact_mod_cast hn
    exact hcast.trans_le (pow_le_pow_right₀ (by norm_num) (by norm_num))
  rw [Double.round, hmagnitude, if_pos hbound, if_neg (Nat.cast_nonneg n).not_gt]

/-! ## Numbers written out -/

/-- What is written: a number, or a word. -/
inductive Written where
  | number (q : ℚ)
  | infinity (negative : Bool)
  | nan
  deriving DecidableEq

/-- The number that is written, in double precision. -/
def Written.toDouble : Written → Double
  | .number q => .round q
  | .infinity negative => .infinite negative
  | .nan => .nan

/-- The white space of ASCII. -/
def isAsciiSpace (c : Char) : Bool := c ∈ [' ', '\t', '\n', '\r', '\x0b', '\x0c']

/-- Digits and white space of other scripts become those of ASCII. -/
def toAscii (t : Numerals) (c : Char) : Char :=
  if c.toNat < 127 then c
  else if t.isSpace c then ' '
  else if t.isDigit c then Nat.digitChar (t.digitValue c)
  else '?'

/-- Underscores are left out, each of which has to stand between two digits. -/
def withoutUnderscores (prev : Char) : List Char → Option (List Char)
  | [] => if prev = '_' then none else some []
  | c :: cs =>
    if c = '_' then if prev.isDigit then withoutUnderscores c cs else none
    else if prev = '_' ∧ !c.isDigit then none
    else (withoutUnderscores c cs).map (c :: ·)

/-- A number without a sign. -/
def unsignedNumber (cs : List Char) : Option ℚ :=
  let (whole, rest) := cs.span Char.isDigit
  let (fraction, rest) := match rest with
    | '.' :: rest => rest.span Char.isDigit
    | _ => ([], rest)
  if whole = [] ∧ fraction = [] then none
  else (exponentOf asciiNumerals rest).map fun e =>
    (natOf asciiNumerals (whole ++ fraction) : ℚ) * 10 ^ (e - (fraction.length : ℤ))

/-- What a text says, as `float` reads it. None is raising. -/
def written (t : Numerals) (text : String) : Option Written :=
  let cs := ((text.toList.map (toAscii t)).dropWhile isAsciiSpace).rdropWhile isAsciiSpace
  (withoutUnderscores '\x00' cs).bind fun cs =>
    let (negative, cs) := signed cs
    let word := cs.map Char.toLower
    if word = ['i', 'n', 'f'] ∨ word = ['i', 'n', 'f', 'i', 'n', 'i', 't', 'y'] then
      some (.infinity negative)
    else if word = ['n', 'a', 'n'] then some .nan
    else (unsignedNumber cs).map fun q => .number (if negative then -q else q)

/-- `float(text)`. None is raising. -/
def float (t : Numerals) (text : String) : Option Double := (written t text).map Written.toDouble

/-- A text is read as a number beyond all others. -/
def Written.Infinite : Written → Prop
  | .number q => 2 ^ 1024 - 2 ^ 970 ≤ |q|
  | .infinity _ => True
  | .nan => False

/-! ## Decimal figures -/

/-- **What tables say of digits**: they stand for numbers below ten, and are no white space; those of
ASCII are the usual ones. -/
structure Numerals.Lawful (t : Numerals) : Prop where
  digitValue_lt : ∀ c, t.isDigit c = true → t.digitValue c < 10
  digitValue_eq : ∀ c, c.isDigit = true → t.digitValue c = c.toNat - '0'.toNat
  isDigit_ascii : ∀ c, c.toNat < 127 → t.isDigit c = true → c.isDigit = true
  isSpace_of_isDigit : ∀ c, t.isDigit c = true → t.isSpace c = false

theorem lawful_asciiNumerals : asciiNumerals.Lawful where
  digitValue_lt c hc := by
    obtain ⟨-, hle⟩ := Char.isDigit_iff_toNat.mp hc
    show c.toNat - '0'.toNat < 10
    have hnine : '9'.toNat = '0'.toNat + 9 := rfl
    omega
  digitValue_eq _ _ := rfl
  isDigit_ascii _ _ hc := hc
  isSpace_of_isDigit c hc := by
    rw [Bool.eq_false_iff]
    intro hspace
    have hmem : c ∈ [' ', '\t', '\n', '\r', '\x0b', '\x0c'] := of_decide_eq_true hspace
    have hnot : ∀ d ∈ [' ', '\t', '\n', '\r', '\x0b', '\x0c'], d.isDigit = false :=
      Text.forall_of_all (by decide)
    exact absurd hc (by rw [show asciiNumerals.isDigit c = c.isDigit from rfl, hnot c hmem]; decide)

section

variable {t : Numerals} {c : Char} {ds es : List Char}

theorem digitChar_sub (hc : c.isDigit = true) : Nat.digitChar (c.toNat - '0'.toNat) = c := by
  obtain ⟨hle, hge⟩ := Char.isDigit_iff_toNat.mp hc
  have hnine : '9'.toNat = '0'.toNat + 9 := rfl
  apply Char.toNat_inj.mp
  rw [Nat.toNat_digitChar_of_lt_ten (by omega)]
  exact Nat.add_sub_cancel' hle

/-- A digit is read as the one of ASCII with its value. -/
theorem toAscii_digit (h : t.Lawful) (hc : t.isDigit c = true) :
    toAscii t c = Nat.digitChar (t.digitValue c) := by
  unfold toAscii
  split_ifs with hascii hspace
  · have hdigit := h.isDigit_ascii c hascii hc
    rw [h.digitValue_eq c hdigit, digitChar_sub hdigit]
  · rw [h.isSpace_of_isDigit c hc] at hspace
    cases hspace
  · rfl

theorem isDigit_toAscii (h : t.Lawful) (hall : ∀ c ∈ ds, t.isDigit c = true) :
    ∀ c ∈ ds.map (toAscii t), c.isDigit = true := by
  intro c hc
  obtain ⟨d, hd, rfl⟩ := List.mem_map.mp hc
  rw [toAscii_digit h (hall d hd), Nat.isDigit_digitChar]
  exact decide_eq_true (h.digitValue_lt d (hall d hd))

theorem natOf_toAscii (h : t.Lawful) (hall : ∀ c ∈ ds, t.isDigit c = true) :
    natOf asciiNumerals (ds.map (toAscii t)) = natOf t ds := by
  have hfold (ds : List Char) (hall : ∀ c ∈ ds, t.isDigit c = true) (n : ℕ) :
      (ds.map (toAscii t)).foldl (fun n c => 10 * n + asciiNumerals.digitValue c) n =
        ds.foldl (fun n c => 10 * n + t.digitValue c) n := by
    induction ds generalizing n with
    | nil => rfl
    | cons c ds ih =>
      have hc := hall c List.mem_cons_self
      have hvalue : asciiNumerals.digitValue (toAscii t c) = t.digitValue c := by
        rw [toAscii_digit h hc]
        exact Nat.toNat_digitChar_sub_48_of_lt_ten (h.digitValue_lt c hc)
      rw [List.map_cons, List.foldl_cons, List.foldl_cons, hvalue]
      exact ih (fun d hd => hall d (List.mem_cons_of_mem c hd)) _
  exact hfold ds hall 0

/-- The digits of a number stand for it. -/
theorem natOf_toDigits (h : t.Lawful) (n : ℕ) : natOf t (Nat.toDigits 10 n) = n := by
  have hfold (cs : List Char) (hcs : ∀ c ∈ cs, c.isDigit = true) (k : ℕ) :
      cs.foldl (fun n c => 10 * n + t.digitValue c) k = Nat.ofDigitChars 10 cs k := by
    induction cs generalizing k with
    | nil => rfl
    | cons c cs ih =>
      rw [List.foldl_cons, Nat.ofDigitChars_cons, h.digitValue_eq c (hcs c List.mem_cons_self)]
      exact ih (fun d hd => hcs d (List.mem_cons_of_mem c hd)) _
  exact (hfold _ (fun c hc => Nat.isDigit_of_mem_toDigits (by decide) (by decide) hc) 0).trans
    Nat.ofDigitChars_ten_toDigits

/-- A character of a figure: a digit of ASCII, or a point. -/
def OfFigure (c : Char) : Prop := c.isDigit = true ∨ c = '.'

theorem OfFigure.ne (h : OfFigure c) {d : Char} (hd : d.isDigit = false) (hpoint : d ≠ '.') :
    c ≠ d := by
  rintro rfl
  rcases h with h | h
  · rw [hd] at h
    cases h
  · exact hpoint h

theorem OfFigure.not_space (h : OfFigure c) : isAsciiSpace c = false := by
  rw [Bool.eq_false_iff]
  intro hspace
  have hmem : c ∈ [' ', '\t', '\n', '\r', '\x0b', '\x0c'] := of_decide_eq_true hspace
  have hnot : ∀ d ∈ [' ', '\t', '\n', '\r', '\x0b', '\x0c'], d.isDigit = false ∧ d ≠ '.' :=
    Text.forall_of_all (by decide)
  obtain ⟨hdigit, hpoint⟩ := hnot c hmem
  exact h.ne hdigit hpoint rfl

theorem withoutUnderscores_figure {cs : List Char} (hcs : ∀ c ∈ cs, OfFigure c) {prev : Char}
    (hprev : prev ≠ '_') : withoutUnderscores prev cs = some cs := by
  induction cs generalizing prev with
  | nil => rw [withoutUnderscores, if_neg hprev]
  | cons c cs ih =>
    have hc : c ≠ '_' := (hcs c List.mem_cons_self).ne (by decide) (by decide)
    rw [withoutUnderscores, if_neg hc, if_neg fun h => hprev h.1,
      ih (fun d hd => hcs d (List.mem_cons_of_mem c hd)) hc]
    rfl

/-- Digits are taken up to what is none. -/
theorem span_digits {cs : List Char} (hall : ∀ c ∈ ds, c.isDigit = true)
    (hstop : cs.head?.any Char.isDigit = false) : (ds ++ cs).span Char.isDigit = (ds, cs) := by
  have htake : (ds ++ cs).takeWhile Char.isDigit = ds := by
    rw [List.takeWhile_append_of_pos hall]
    cases cs with
    | nil => rw [List.takeWhile_nil, List.append_nil]
    | cons c cs =>
      have hc : c.isDigit = false := hstop
      rw [List.takeWhile_cons_of_neg (by rw [hc]; decide), List.append_nil]
  have hdrop : (ds ++ cs).dropWhile Char.isDigit = cs := by
    have hsplit := List.takeWhile_append_dropWhile (p := Char.isDigit) (l := ds ++ cs)
    rw [htake] at hsplit
    exact List.append_cancel_left hsplit
  rw [List.span_eq_takeWhile_dropWhile, htake, hdrop]

theorem toLower_digit (hc : c.isDigit = true) : c.toLower = c := by
  obtain ⟨-, hle⟩ := Char.isDigit_iff_toNat.mp hc
  refine dif_neg ?_
  rintro ⟨hlarge, -⟩
  have hlarge' : 'A'.toNat ≤ c.toNat := hlarge
  exact absurd (hlarge'.trans hle) (by decide)

theorem unsignedNumber_figure (hds : ds ≠ []) (hall : ∀ c ∈ ds, c.isDigit = true)
    (hall' : ∀ c ∈ es, c.isDigit = true) {tail : List Char}
    (htail : tail = '.' :: es ∨ tail = [] ∧ es = []) :
    unsignedNumber (ds ++ tail) =
      some ((natOf asciiNumerals (ds ++ es) : ℚ) * 10 ^ (-(es.length : ℤ))) := by
  have hsome : ¬(ds = [] ∧ es = []) := fun h => hds h.1
  rcases htail with rfl | ⟨rfl, rfl⟩
  · have hwhole : (ds ++ '.' :: es).span Char.isDigit = (ds, '.' :: es) := span_digits hall rfl
    have hfraction : (es ++ []).span Char.isDigit = (es, []) := span_digits hall' rfl
    rw [List.append_nil] at hfraction
    simp only [unsignedNumber, hwhole, hfraction, if_neg hsome, exponentOf, Option.map_some,
      zero_sub]
  · have hwhole : (ds ++ []).span Char.isDigit = (ds, []) := span_digits hall rfl
    rw [List.append_nil] at hwhole
    simp only [unsignedNumber, hwhole, hds, false_and, if_false, exponentOf, Option.map_some,
      List.length_nil, List.append_nil, Nat.cast_zero, sub_zero, neg_zero]

/-- **A figure is the number it looks like**: digits, perhaps with a point and digits behind it. -/
theorem written_figure (h : t.Lawful) (hds : ds ≠ []) (hall : ∀ c ∈ ds, t.isDigit c = true)
    (hall' : ∀ c ∈ es, t.isDigit c = true) {tail : List Char}
    (htail : tail = '.' :: es ∨ tail = [] ∧ es = []) :
    written t (String.ofList (ds ++ tail)) =
      some (.number ((natOf t (ds ++ es) : ℚ) * 10 ^ (-(es.length : ℤ)))) := by
  have hpoint : toAscii t '.' = '.' := rfl
  have hdigits := isDigit_toAscii h hall
  have hdigits' := isDigit_toAscii h hall'
  have hfigure : ∀ c ∈ (ds ++ tail).map (toAscii t), OfFigure c := by
    intro c hc
    rw [List.map_append, List.mem_append] at hc
    rcases hc with hc | hc
    · exact .inl (hdigits c hc)
    · rcases htail with rfl | ⟨rfl, -⟩
      · rcases List.mem_cons.mp hc with rfl | hc
        · exact .inr hpoint
        · exact .inl (hdigits' c hc)
      · cases hc
  -- the text is left as it is
  obtain ⟨d, ds', hcons⟩ := List.exists_cons_of_ne_nil hds
  have hfirst : (toAscii t d).isDigit = true :=
    hdigits _ (List.mem_map_of_mem (hcons ▸ List.mem_cons_self))
  have hfront : (ds ++ tail).map (toAscii t) = toAscii t d :: (ds' ++ tail).map (toAscii t) := by
    rw [hcons]
    rfl
  have hdrop : ((ds ++ tail).map (toAscii t)).dropWhile isAsciiSpace =
      (ds ++ tail).map (toAscii t) := by
    rw [hfront, List.dropWhile_cons_of_neg]
    rw [(hfigure _ (hfront ▸ List.mem_cons_self)).not_space]
    decide
  have hrdrop : ((ds ++ tail).map (toAscii t)).rdropWhile isAsciiSpace =
      (ds ++ tail).map (toAscii t) := by
    rw [List.rdropWhile_eq_self_iff]
    intro hne hspace
    rw [(hfigure _ (List.getLast_mem hne)).not_space] at hspace
    cases hspace
  have hclean : withoutUnderscores '\x00' ((ds ++ tail).map (toAscii t)) =
      some ((ds ++ tail).map (toAscii t)) := withoutUnderscores_figure hfigure (by decide)
  -- it has no sign and is no word
  have hsigned : signed ((ds ++ tail).map (toAscii t)) = (false, (ds ++ tail).map (toAscii t)) := by
    have hplus : toAscii t d ≠ '+' := OfFigure.ne (.inl hfirst) (by decide) (by decide)
    have hminus : toAscii t d ≠ '-' := OfFigure.ne (.inl hfirst) (by decide) (by decide)
    rw [hfront, signed]
    · exact fun _ heq => hplus (List.cons.inj heq).1
    · exact fun _ heq => hminus (List.cons.inj heq).1
  have hword (u : Char) (us : List Char) (hu : ∀ c : Char, c.isDigit = true → c.toLower ≠ u) :
      ((ds ++ tail).map (toAscii t)).map Char.toLower ≠ u :: us := by
    rw [hfront, List.map_cons]
    exact fun heq => hu _ hfirst (List.cons.inj heq).1
  have hletter (u : Char) (hu : u.isDigit = false) (c : Char) (hc : c.isDigit = true) :
      c.toLower ≠ u := by
    rw [toLower_digit hc]
    rintro rfl
    rw [hu] at hc
    cases hc
  have hnumber : unsignedNumber (ds.map (toAscii t) ++ tail.map (toAscii t)) =
      some ((natOf asciiNumerals (ds.map (toAscii t) ++ es.map (toAscii t)) : ℚ) *
        10 ^ (-((es.map (toAscii t)).length : ℤ))) := by
    refine unsignedNumber_figure (by simpa using hds) hdigits hdigits' ?_
    rcases htail with rfl | ⟨rfl, rfl⟩
    · exact .inl rfl
    · exact .inr ⟨rfl, rfl⟩
  have hall'' : ∀ c ∈ ds ++ es, t.isDigit c = true := fun c hc =>
    (List.mem_append.mp hc).elim (hall c) (hall' c)
  rw [← List.map_append, ← List.map_append, natOf_toAscii h hall'', List.length_map] at hnumber
  simp only [written, String.toList_ofList, hdrop, hrdrop, hclean, Option.bind_some, hsigned,
    hword 'i' _ (hletter 'i' (by decide)), hword 'n' _ (hletter 'n' (by decide)), or_self,
    if_false, hnumber, Option.map_some, Bool.false_eq_true]

end

/-! ## What no number is written with -/

/-- A character that stands in no number: not a digit, a sign, a point, an underscore, white space
or a letter. -/
structure Foreign (c : Char) : Prop where
  ascii : c.toNat < 127
  space : isAsciiSpace c = false
  digit : c.isDigit = false
  signs : c ≠ '+' ∧ c ≠ '-' ∧ c ≠ '.' ∧ c ≠ '_'
  letters : c.toLower ∉ ['i', 'n', 'f', 't', 'y', 'a', 'e']

variable {c : Char}

theorem mem_rdropWhile {p : Char → Bool} {cs : List Char} (hc : p c = false) (h : c ∈ cs) :
    c ∈ cs.rdropWhile p := by
  rw [List.rdropWhile, List.mem_reverse]
  have hmem : c ∈ cs.reverse := List.mem_reverse.mpr h
  rw [← List.takeWhile_append_dropWhile (p := p) (l := cs.reverse)] at hmem
  rcases List.mem_append.mp hmem with htake | hdrop
  · rw [List.mem_takeWhile_imp htake] at hc
    cases hc
  · exact hdrop

theorem mem_dropWhile {p : Char → Bool} {cs : List Char} (hc : p c = false) (h : c ∈ cs) :
    c ∈ cs.dropWhile p := by
  rw [← List.takeWhile_append_dropWhile (p := p) (l := cs)] at h
  rcases List.mem_append.mp h with htake | hdrop
  · rw [List.mem_takeWhile_imp htake] at hc
    cases hc
  · exact hdrop

theorem Foreign.withoutUnderscores (hc : Foreign c) : ∀ {cs : List Char} {prev : Char}
    {ds : List Char}, withoutUnderscores prev cs = some ds → c ∈ cs → c ∈ ds := by
  intro cs
  induction cs with
  | nil =>
    intro prev ds _ hmem
    cases hmem
  | cons d cs ih =>
    intro prev ds h hmem
    rw [Numbers.withoutUnderscores] at h
    split at h
    · rename_i hd
      split at h
      · refine ih h ((List.mem_cons.mp hmem).resolve_left fun heq => ?_)
        exact hc.signs.2.2.2 (heq.trans hd)
      · cases h
    · split at h
      · cases h
      · obtain ⟨ds', hds', rfl⟩ := Option.map_eq_some_iff.mp h
        rcases List.mem_cons.mp hmem with rfl | hmem
        · exact List.mem_cons_self
        · exact List.mem_cons_of_mem _ (ih hds' hmem)

theorem Foreign.signed (hc : Foreign c) {cs : List Char} (h : c ∈ cs) : c ∈ (signed cs).2 := by
  unfold Numbers.signed
  split
  · exact (List.mem_cons.mp h).resolve_left hc.signs.1
  · exact (List.mem_cons.mp h).resolve_left hc.signs.2.1
  · exact h

theorem Foreign.exponentOf (hc : Foreign c) {cs : List Char} (h : c ∈ cs) :
    exponentOf asciiNumerals cs = none := by
  cases cs with
  | nil => cases h
  | cons d cs =>
    rw [Numbers.exponentOf]
    split
    rename_i negative digits hsigned
    refine if_neg ?_
    rintro ⟨he, -, hdigits⟩
    have hd : c ≠ d := by
      rintro rfl
      rcases he with rfl | rfl
      · exact hc.letters (by decide)
      · exact hc.letters (by decide)
    have hmem := hc.signed ((List.mem_cons.mp h).resolve_left hd)
    rw [hsigned] at hmem
    have hdigit : c.isDigit = true := List.all_eq_true.mp hdigits c hmem
    rw [hc.digit] at hdigit
    cases hdigit

theorem Foreign.unsignedNumber (hc : Foreign c) {cs : List Char} (h : c ∈ cs) :
    unsignedNumber cs = none := by
  have hspan {cs : List Char} (h : c ∈ cs) : c ∈ (cs.span Char.isDigit).2 := by
    rw [List.span_eq_takeWhile_dropWhile]
    exact mem_dropWhile hc.digit h
  -- whichever digits come first, what is left has it, and is no exponent
  have hnone (whole fraction rest : List Char) (hrest : c ∈ rest) :
      (if whole = [] ∧ fraction = [] then none
        else (Numbers.exponentOf asciiNumerals rest).map fun e =>
          (natOf asciiNumerals (whole ++ fraction) : ℚ) * 10 ^ (e - (fraction.length : ℤ))) =
        none := by
    rw [hc.exponentOf hrest, Option.map_none, ite_self]
  have hfirst := hspan h
  unfold Numbers.unsignedNumber
  cases hsplit : cs.span Char.isDigit with
  | mk whole rest =>
    rw [hsplit] at hfirst
    dsimp only at hfirst ⊢
    cases rest with
    | nil => cases hfirst
    | cons d rest =>
      by_cases hd : d = '.'
      · subst hd
        have hrest := (List.mem_cons.mp hfirst).resolve_left hc.signs.2.2.1
        exact hnone _ _ _ (hspan hrest)
      · split
        · rename_i rest' hcons
          exact absurd (List.cons.inj hcons).1 hd
        · exact hnone _ _ _ hfirst

/-- **It makes any text one that is not read.** -/
theorem Foreign.written (hc : Foreign c) (t : Numerals) {text : String} (h : c ∈ text.toList) :
    written t text = none := by
  have hmap : c ∈ text.toList.map (toAscii t) :=
    List.mem_map.mpr ⟨c, h, if_pos hc.ascii⟩
  have hinner := mem_rdropWhile hc.space (mem_dropWhile hc.space hmap)
  unfold Numbers.written
  dsimp only
  cases hclean : Numbers.withoutUnderscores '\x00'
      (((text.toList.map (toAscii t)).dropWhile isAsciiSpace).rdropWhile isAsciiSpace) with
  | none => rfl
  | some cs =>
    have hsigned := hc.signed (hc.withoutUnderscores hclean hinner)
    have hword {letters : List Char} (hletters : c.toLower ∉ letters) :
        (Numbers.signed cs).2.map Char.toLower ≠ letters := by
      rintro rfl
      exact hletters (List.mem_map_of_mem hsigned)
    have hnot {letters : List Char} (hsub : letters ⊆ ['i', 'n', 'f', 't', 'y', 'a', 'e']) :
        c.toLower ∉ letters := fun hmem => hc.letters (hsub hmem)
    rw [Option.bind_some, if_neg (not_or.mpr ⟨hword (hnot (by decide)), hword (hnot (by decide))⟩),
      if_neg (hword (hnot (by decide))), hc.unsignedNumber hsigned]
    rfl

theorem foreign_brace : Foreign '{' where
  ascii := by decide
  space := by decide
  digit := by decide
  signs := by decide
  letters := by decide

end Numbers
