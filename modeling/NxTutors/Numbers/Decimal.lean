import Mathlib.Data.Int.Log
import Mathlib.Data.Rat.Floor
import Mathlib.Tactic.Linarith
import NxTutors.Text.Strings

/-!
# Decimal arithmetic

A decimal context computes an operation exactly, and then rounds the result to the significant
digits it has, with a tie to the even digit. Taking a number to a whole one is asked for
separately, with a tie away from zero, and fails if the digits of the context do not hold the
result.

A number is kept as its value. How many zeros it ends in is not, nor is the sign of zero.
-/

namespace Numbers

/-! ## Rounding to a whole number -/

/-- The nearest whole number, and of two the even one. -/
def halfEven (q : ℚ) : ℤ :=
  if 2 * Int.fract q < 1 then ⌊q⌋
  else if 1 < 2 * Int.fract q then ⌊q⌋ + 1
  else if Even ⌊q⌋ then ⌊q⌋
  else ⌊q⌋ + 1

/-- The nearest whole number, and of two the one away from zero. -/
def halfUp (q : ℚ) : ℤ := if 0 ≤ q then ⌊q + 1 / 2⌋ else -⌊-q + 1 / 2⌋

@[simp] theorem halfEven_intCast (n : ℤ) : halfEven n = n := by
  simp [halfEven]

@[simp] theorem halfUp_intCast (n : ℤ) : halfUp n = n := by
  have hhalf : ∀ m : ℤ, ⌊(m : ℚ) + 1 / 2⌋ = m := by
    intro m
    rw [Int.floor_eq_iff]
    constructor <;> linarith
  unfold halfUp
  split_ifs
  · exact hhalf n
  · have hneg := hhalf (-n)
    rw [Int.cast_neg] at hneg
    rw [hneg, neg_neg]

/-- Rounding does not go below the floor. -/
theorem floor_le_halfEven (q : ℚ) : ⌊q⌋ ≤ halfEven q := by
  unfold halfEven
  split_ifs <;> omega

theorem le_halfEven {n : ℤ} {q : ℚ} (h : (n : ℚ) ≤ q) : n ≤ halfEven q :=
  (Int.le_floor.mpr h).trans (floor_le_halfEven q)

theorem le_halfUp {n : ℤ} {q : ℚ} (hq : 0 ≤ q) (h : (n : ℚ) ≤ q) : n ≤ halfUp q := by
  rw [halfUp, if_pos hq, Int.le_floor]
  linarith

/-! ## Rounding to significant digits -/

/-- The digits of the default context. -/
def DEFAULT_PRECISION : ℕ := 28

section
variable (prec : ℕ)

/-- The place of the last significant digit of `q`. -/
def lastPlace (q : ℚ) : ℚ := 10 ^ (Int.log 10 |q| + 1 - prec)

/-- `q` rounded to the digits of the context. -/
def rounded (q : ℚ) : ℚ := halfEven (q / lastPlace prec q) * lastPlace prec q

/-- `a * b`. -/
def mul (a b : ℚ) : ℚ := rounded prec (a * b)

/-- `a / b`. -/
def div (a b : ℚ) : ℚ := rounded prec (a / b)

/-- `q.quantize(Decimal("1"), rounding=ROUND_HALF_UP)`. None is raising. -/
def quantize (q : ℚ) : Option ℤ :=
  if (halfUp q).natAbs < 10 ^ prec then some (halfUp q) else none

theorem lastPlace_pos (q : ℚ) : 0 < lastPlace prec q := zpow_pos (by norm_num) _

variable {prec}

/-- **What the digits of the context hold is not rounded.** -/
theorem rounded_of_fits {c e : ℤ} (hc : |c| < 10 ^ prec) :
    rounded prec (c * 10 ^ e) = c * 10 ^ e := by
  rcases eq_or_ne c 0 with rfl | hzero
  · have h := halfEven_intCast 0
    rw [Int.cast_zero] at h
    simp [rounded, h]
  · have hpow : (0 : ℚ) < 10 ^ e := zpow_pos (by norm_num) e
    have hpos : (0 : ℚ) < |(c : ℚ) * 10 ^ e| :=
      abs_pos.mpr (mul_ne_zero (Int.cast_ne_zero.mpr hzero) hpow.ne')
    have habs : |(c : ℚ) * 10 ^ e| = |(c : ℚ)| * 10 ^ e := by
      rw [abs_mul, abs_of_pos hpow]
    -- The leading digit is at place `prec - 1 + e` or below.
    have hlog : Int.log 10 |(c : ℚ) * 10 ^ e| < prec + e := by
      apply (Int.lt_zpow_iff_log_lt (by norm_num) hpos).mp
      rw [habs, Nat.cast_ofNat, zpow_add₀ (by norm_num), zpow_natCast]
      have hcast : |(c : ℚ)| < 10 ^ prec := by exact_mod_cast hc
      exact mul_lt_mul_of_pos_right hcast hpow
    obtain ⟨k, hk⟩ := Int.le.dest (show Int.log 10 |(c : ℚ) * 10 ^ e| + 1 - prec ≤ e by omega)
    -- So `q` is a whole number of last places.
    have hsplit : (c : ℚ) * 10 ^ e =
        ((c * 10 ^ k : ℤ) : ℚ) * lastPlace prec (c * 10 ^ e) := by
      have hplaces : (10 : ℚ) ^ e = 10 ^ k * lastPlace prec (c * 10 ^ e) := by
        rw [lastPlace, ← zpow_natCast, ← zpow_add₀ (by norm_num), add_comm, hk]
      calc (c : ℚ) * 10 ^ e = c * (10 ^ k * lastPlace prec (c * 10 ^ e)) := by rw [← hplaces]
        _ = ((c * 10 ^ k : ℤ) : ℚ) * lastPlace prec (c * 10 ^ e) := by push_cast; ring
    have hplace := (lastPlace_pos prec ((c : ℚ) * 10 ^ e)).ne'
    rw [rounded, (div_eq_iff hplace).mpr hsplit, halfEven_intCast, ← hsplit]

theorem rounded_natCast {n : ℕ} (hn : n < 10 ^ prec) : rounded prec n = n := by
  have hc : |(n : ℤ)| < 10 ^ prec := by
    rw [Nat.abs_cast]
    exact_mod_cast hn
  have h := rounded_of_fits (e := 0) hc
  simpa using h

/-- Rounding does not lose the leading digit. -/
theorem zpow_le_rounded (hprec : 0 < prec) {k : ℤ} {q : ℚ} (h : 10 ^ k ≤ q) :
    10 ^ k ≤ rounded prec q := by
  have hpos : (0 : ℚ) < q := (zpow_pos (by norm_num) k).trans_le h
  have hlead : (10 : ℚ) ^ Int.log 10 q ≤ q := by
    have := Int.zpow_log_le_self (b := 10) (by norm_num) hpos
    rwa [Nat.cast_ofNat] at this
  have hk : k ≤ Int.log 10 q := by
    apply (Int.zpow_le_iff_le_log (by norm_num) hpos).mp
    rwa [Nat.cast_ofNat]
  -- The leading place is a whole number of last places.
  obtain ⟨p, rfl⟩ := Nat.exists_eq_succ_of_ne_zero hprec.ne'
  have hsplit : (10 : ℚ) ^ Int.log 10 q = 10 ^ p * lastPlace (p + 1) q := by
    rw [lastPlace, abs_of_pos hpos, ← zpow_natCast, ← zpow_add₀ (by norm_num)]
    congr 1
    push_cast
    ring
  have hwhole : (10 : ℤ) ^ p ≤ halfEven (q / lastPlace (p + 1) q) := by
    apply le_halfEven
    rw [le_div_iff₀ (lastPlace_pos _ q)]
    push_cast
    rwa [← hsplit]
  have hwhole' : (10 : ℚ) ^ p ≤ halfEven (q / lastPlace (p + 1) q) := by exact_mod_cast hwhole
  calc (10 : ℚ) ^ k ≤ 10 ^ Int.log 10 q := zpow_le_zpow_right₀ (by norm_num) hk
    _ = 10 ^ p * lastPlace (p + 1) q := hsplit
    _ ≤ rounded (p + 1) q := mul_le_mul_of_nonneg_right hwhole' (lastPlace_pos _ q).le

/-- A number of more digits than the context has is not taken to a whole one. -/
theorem quantize_of_le {q : ℚ} (h : 10 ^ prec ≤ q) : quantize prec q = none := by
  have hbig : (10 : ℤ) ^ prec ≤ halfUp q := by
    apply le_halfUp ((pow_nonneg (by norm_num) prec).trans h)
    exact_mod_cast h
  have hnot : ¬ (halfUp q).natAbs < 10 ^ prec := by
    rw [Nat.not_lt, ← Int.ofNat_le]
    push_cast
    exact hbig.trans (le_abs_self _)
  rw [quantize, if_neg hnot]

theorem quantize_natCast {n : ℕ} (hn : n < 10 ^ prec) : quantize prec n = some (n : ℤ) := by
  have h : halfUp (n : ℚ) = n := by exact_mod_cast halfUp_intCast n
  rw [quantize, h, Int.natAbs_natCast, if_pos hn]

/-- **A whole result comes out, or the computation raises.** It comes out exactly if the digits
of the context hold it. -/
theorem quantize_rounded_natCast (hprec : 0 < prec) (n : ℕ) :
    quantize prec (rounded prec n) = if n < 10 ^ prec then some (n : ℤ) else none := by
  split_ifs with hn
  · rw [rounded_natCast hn, quantize_natCast hn]
  · have hle : (10 : ℚ) ^ (prec : ℤ) ≤ n := by
      rw [zpow_natCast]
      exact_mod_cast Nat.not_lt.mp hn
    have h := zpow_le_rounded hprec hle
    rw [zpow_natCast] at h
    exact quantize_of_le h

end

/-! ## Rounding fractions -/

section

/-- `n / d`, rounded to a whole number, and of two the even one. -/
def evenDiv (n d : ℕ) : ℕ :=
  if 2 * (n % d) < d then n / d
  else if d < 2 * (n % d) then n / d + 1
  else if Even (n / d) then n / d
  else n / d + 1

theorem halfEven_div {n d : ℕ} (hd : 0 < d) : halfEven ((n : ℚ) / d) = evenDiv n d := by
  have hdpos : (0 : ℚ) < d := Nat.cast_pos.mpr hd
  have hfloor : ⌊(n : ℚ) / d⌋ = ((n / d : ℕ) : ℤ) := Rat.floor_natCast_div_natCast n d
  have hfract : Int.fract ((n : ℚ) / d) = ((n % d : ℕ) : ℚ) / d := by
    rw [Int.fract, hfloor, Int.cast_natCast, eq_div_iff hdpos.ne', sub_mul,
      div_mul_cancel₀ _ hdpos.ne']
    have hsplit := Nat.div_add_mod n d
    have hcast : (d : ℚ) * ((n / d : ℕ) : ℚ) + ((n % d : ℕ) : ℚ) = n := by exact_mod_cast hsplit
    linarith
  have hlt : 2 * Int.fract ((n : ℚ) / d) < 1 ↔ 2 * (n % d) < d := by
    rw [hfract, ← mul_div_assoc, div_lt_one hdpos]
    exact_mod_cast Iff.rfl
  have hgt : 1 < 2 * Int.fract ((n : ℚ) / d) ↔ d < 2 * (n % d) := by
    rw [hfract, ← mul_div_assoc, one_lt_div hdpos]
    exact_mod_cast Iff.rfl
  have heven : Even ((n / d : ℕ) : ℤ) ↔ Even (n / d) := Int.even_coe_nat _
  simp only [halfEven, evenDiv, hlt, hgt, hfloor, heven]
  split_ifs <;> simp

theorem halfUp_div {n d : ℕ} (hd : 0 < d) :
    halfUp ((n : ℚ) / d) = ((2 * n + d) / (2 * d) : ℕ) := by
  have hdpos : (0 : ℚ) < d := Nat.cast_pos.mpr hd
  have hsum : (n : ℚ) / d + 1 / 2 = ((2 * n + d : ℕ) : ℚ) / ((2 * d : ℕ) : ℚ) := by
    push_cast
    field_simp
  rw [halfUp, if_pos (div_nonneg (Nat.cast_nonneg n) hdpos.le), hsum]
  exact Rat.floor_natCast_div_natCast _ _

/-- The leading digit is at the place that is not above the number. -/
theorem log_eq {q : ℚ} {k : ℤ} (hle : 10 ^ k ≤ q) (hlt : q < 10 ^ (k + 1)) :
    Int.log 10 q = k := by
  have hpos : (0 : ℚ) < q := (zpow_pos (by norm_num) k).trans_le hle
  have hbelow : k ≤ Int.log 10 q := by
    apply (Int.zpow_le_iff_le_log (by norm_num) hpos).mp
    rwa [Nat.cast_ofNat]
  have habove : Int.log 10 q < k + 1 := by
    apply (Int.lt_zpow_iff_log_lt (by norm_num) hpos).mp
    rwa [Nat.cast_ofNat]
  omega

variable {prec : ℕ}

/-- Rounding a number whose leading digit is known. -/
theorem rounded_of_log {q : ℚ} {k : ℤ} (hle : 10 ^ k ≤ q) (hlt : q < 10 ^ (k + 1)) :
    rounded prec q = halfEven (q / 10 ^ (k + 1 - prec)) * 10 ^ (k + 1 - prec) := by
  have hpos : (0 : ℚ) < q := (zpow_pos (by norm_num) k).trans_le hle
  rw [rounded, lastPlace, abs_of_pos hpos, log_eq hle hlt]

/-- A number of hundredths, rounded to the digits of the context and then to a whole number. -/
def hundredths (prec n : ℕ) : Option ℕ :=
  if n < 10 ^ prec then some ((n + 50) / 100)
  else if n < 10 ^ (prec + 1) then some ((evenDiv n 10 + 5) / 10)
  else if evenDiv n 100 < 10 ^ prec then some (evenDiv n 100)
  else none

theorem quantize_div {n d : ℕ} (hd : 0 < d) (hfits : (2 * n + d) / (2 * d) < 10 ^ prec) :
    quantize prec ((n : ℚ) / d) = some (((2 * n + d) / (2 * d) : ℕ) : ℤ) := by
  rw [quantize, halfUp_div hd, Int.natAbs_natCast, if_pos hfits]

theorem div_le_evenDiv (n d : ℕ) : n / d ≤ evenDiv n d ∧ evenDiv n d ≤ n / d + 1 := by
  unfold evenDiv
  split_ifs <;> omega

/-- A number of hundredths that all are cut off. -/
theorem rounded_wholes {n : ℕ} (hle : 10 ^ (prec + 1) ≤ n) (hlt : n < 10 ^ (prec + 2)) :
    rounded prec ((n : ℚ) / 100) = evenDiv n 100 := by
  have hle' : ((10 ^ (prec + 1) : ℕ) : ℚ) ≤ n := Nat.cast_le.mpr hle
  have hlt' : (n : ℚ) < ((10 ^ (prec + 2) : ℕ) : ℚ) := Nat.cast_lt.mpr hlt
  have hlow : (10 : ℚ) ^ ((prec : ℤ) + -1) ≤ (n : ℚ) / 100 := by
    rw [zpow_add₀ (by norm_num), zpow_natCast, le_div_iff₀ (by norm_num)]
    rw [pow_succ] at hle'
    push_cast at hle'
    norm_num
    linarith
  have hhigh : (n : ℚ) / 100 < 10 ^ ((prec : ℤ) + -1 + 1) := by
    rw [neg_add_cancel_right, zpow_natCast, div_lt_iff₀ (by norm_num)]
    rw [pow_add] at hlt'
    push_cast at hlt'
    linarith
  have hplace : (prec : ℤ) + -1 + 1 - prec = 0 := by ring
  have hwhole : halfEven ((n : ℚ) / 100) = evenDiv n 100 := halfEven_div (d := 100) (by decide)
  rw [rounded_of_log hlow hhigh, hplace, zpow_zero, div_one, mul_one, hwhole, Int.cast_natCast]

/-- **Rounded twice.** First to the digits of the context, then to a whole number. -/
theorem quantize_rounded_hundredths (hprec : 0 < prec) (n : ℕ) :
    quantize prec (rounded prec ((n : ℚ) / 100)) = (hundredths prec n).map Nat.cast := by
  have hstep : 10 ^ (prec + 1) = 10 * 10 ^ prec := pow_succ' 10 prec
  have hsplit (k : ℤ) : (10 : ℚ) ^ (prec + k) = 10 ^ prec * 10 ^ k := by
    rw [zpow_add₀ (by norm_num), zpow_natCast]
  have hbelow {m : ℕ} (h : n < m) : (n : ℚ) < m := Nat.cast_lt.mpr h
  have habove {m : ℕ} (h : m ≤ n) : (m : ℚ) ≤ n := Nat.cast_le.mpr h
  unfold hundredths
  split_ifs with hsmall hmiddle hfits
  · -- nothing is cut off
    have hc : |(n : ℤ)| < 10 ^ prec := by
      rw [Nat.abs_cast]
      exact_mod_cast hsmall
    have hcents : (n : ℚ) / 100 = ((n : ℤ) : ℚ) * 10 ^ (-2 : ℤ) := by
      push_cast
      norm_num
      ring
    have hhalf : (2 * n + 100) / (2 * 100) = (n + 50) / 100 := by omega
    have hquantize := @quantize_div prec n 100 (by decide) (by omega)
    rw [hcents, rounded_of_fits hc, ← hcents]
    rw [hhalf] at hquantize
    exact_mod_cast hquantize
  · -- the last digit is cut off
    have hle : (10 : ℚ) ^ ((prec : ℤ) + -2) ≤ (n : ℚ) / 100 := by
      rw [hsplit, le_div_iff₀ (by norm_num)]
      have := habove (Nat.not_lt.mp hsmall)
      push_cast at this
      norm_num
      linarith
    have hlt : (n : ℚ) / 100 < 10 ^ ((prec : ℤ) + -2 + 1) := by
      rw [add_assoc, hsplit, div_lt_iff₀ (by norm_num)]
      have := hbelow hmiddle
      rw [hstep] at this
      push_cast at this
      norm_num
      linarith
    have hplace : (prec : ℤ) + -2 + 1 - prec = -1 := by ring
    have htenths : (n : ℚ) / 100 / 10 ^ (-1 : ℤ) = (n : ℚ) / (10 : ℕ) := by
      norm_num
      ring
    have hrounded : rounded prec ((n : ℚ) / 100) = ((evenDiv n 10 : ℕ) : ℚ) / (10 : ℕ) := by
      rw [rounded_of_log hle hlt, hplace, htenths, halfEven_div (by decide)]
      push_cast
      norm_num
      ring
    have hhalf : (2 * evenDiv n 10 + 10) / (2 * 10) = (evenDiv n 10 + 5) / 10 := by omega
    have hdigits := (div_le_evenDiv n 10).2
    rw [hrounded, quantize_div (by decide) (by omega), hhalf]
    rfl
  · have hdigits := (div_le_evenDiv n 100).1
    have hlast : n < 10 ^ (prec + 2) := by
      rw [pow_add]
      omega
    rw [rounded_wholes (Nat.not_lt.mp hmiddle) hlast, quantize_natCast hfits]
    rfl
  · have hdigits := (div_le_evenDiv n 100).2
    by_cases hlast : n < 10 ^ (prec + 2)
    · rw [rounded_wholes (Nat.not_lt.mp hmiddle) hlast]
      apply quantize_of_le
      exact_mod_cast Nat.not_lt.mp hfits
    · have hwide : (10 : ℚ) ^ (prec : ℤ) ≤ (n : ℚ) / 100 := by
        have := habove (Nat.not_lt.mp hlast)
        rw [pow_add] at this
        rw [zpow_natCast, le_div_iff₀ (by norm_num)]
        push_cast at this
        linarith
      have hrounded := zpow_le_rounded hprec hwide
      rw [zpow_natCast] at hrounded
      exact quantize_of_le hrounded

/-- The second rounding does no harm: nothing is cut off, or what is cut off does not become a half,
or, where everything is, the half is not dropped and no digit is added. -/
def RoundsOnce (prec n : ℕ) : Prop :=
  if n < 10 ^ prec then True
  else if n < 10 ^ (prec + 1) then n % 100 < 46 ∨ 49 < n % 100
  else n + 50 < 10 ^ (prec + 2) ∧ ¬ (n % 100 = 50 ∧ n / 100 % 2 = 0)

instance (prec n : ℕ) : Decidable (RoundsOnce prec n) := by
  unfold RoundsOnce
  infer_instance

/-- A half more is too much exactly if it is too much for the nearest whole number. -/
theorem le_evenDiv_iff {m n : ℕ} (hm : Even m) (hpos : 0 < m) :
    m ≤ evenDiv n 100 ↔ 100 * m ≤ n + 50 := by
  obtain ⟨k, rfl⟩ := hm
  unfold evenDiv
  simp only [Nat.even_iff]
  split_ifs <;> omega

theorem even_pow (hprec : 0 < prec) : Even (10 ^ prec) :=
  Nat.even_pow.mpr ⟨by decide, hprec.ne'⟩

/-- **When rounding twice raises.** -/
theorem hundredths_eq_none_iff (hprec : 0 < prec) {n : ℕ} :
    hundredths prec n = none ↔ 10 ^ (prec + 2) ≤ n + 50 := by
  have hfits := le_evenDiv_iff (n := n) (even_pow hprec) (Nat.pow_pos (by decide))
  have hpow : 10 ^ (prec + 2) = 100 * 10 ^ prec := by rw [pow_add]; ring
  have hpow' : 10 ^ (prec + 1) = 10 * 10 ^ prec := pow_succ' 10 prec
  have hpos : 0 < 10 ^ prec := Nat.pow_pos (by decide)
  unfold hundredths
  split_ifs with hsmall hmiddle hwhole
  · simp only [false_iff]
    omega
  · simp only [false_iff]
    omega
  · simp only [false_iff]
    omega
  · simp only [true_iff]
    omega

/-- **When rounding twice is rounding once.** -/
theorem hundredths_eq_iff (hprec : 0 < prec) {n : ℕ} :
    hundredths prec n = some ((n + 50) / 100) ↔ RoundsOnce prec n := by
  have hfits := le_evenDiv_iff (n := n) (even_pow hprec) (Nat.pow_pos (by decide))
  have hpow : 10 ^ (prec + 2) = 100 * 10 ^ prec := by rw [pow_add]; ring
  unfold hundredths RoundsOnce
  split_ifs with hsmall hmiddle hwhole
  · simp
  · rw [Option.some_inj]
    unfold evenDiv
    simp only [Nat.even_iff]
    split_ifs <;> omega
  · rw [Option.some_inj]
    revert hfits
    unfold evenDiv at hwhole ⊢
    simp only [Nat.even_iff] at hwhole ⊢
    intro hfits
    split_ifs at hwhole ⊢ <;> omega
  · simp only [false_iff, not_and]
    intro hlt
    omega

/-- No share of an amount is more than the amount. -/
theorem hundredths_le {m n v : ℕ} (hle : n ≤ m * 100) (h : hundredths prec n = some v) : v ≤ m := by
  unfold hundredths at h
  split_ifs at h with hsmall hmiddle hwhole <;> cases h
  · omega
  · unfold evenDiv
    split_ifs <;> omega
  · unfold evenDiv
    split_ifs <;> omega

end

/-! ## Numbers written out

White space around a number does not count, nor does an underscore anywhere in it. What is not
finite is not read: neither it nor what is computed from it becomes a whole number. -/

/-- Character tables that say of printable ASCII what all do, with the values of the digits. -/
structure Numerals extends Text.Tables where
  digitValue : Char → ℕ
  plain : toTables.Plain
  isDigit_iff : ∀ c, Text.Printable c → (isDigit c = true ↔ c.isDigit = true)

/-- The numerals on ASCII. -/
def asciiNumerals : Numerals where
  toTables := Text.ascii
  digitValue c := c.toNat - '0'.toNat
  plain := Text.plain_ascii
  isDigit_iff _ _ := Iff.rfl

/-- The greatest exponent of a leading digit. -/
def MAX_EMAX : ℤ := 999999999999999999

/-- The least exponent of a last digit. -/
def MIN_ETINY : ℤ := -1999999999999999997

section
variable (t : Numerals)

/-- The number that digits stand for. -/
def natOf (digits : List Char) : ℕ := digits.foldl (fun n c => 10 * n + t.digitValue c) 0

/-- A sign, and what follows. -/
def signed : List Char → Bool × List Char
  | '+' :: cs => (false, cs)
  | '-' :: cs => (true, cs)
  | cs => (false, cs)

/-- The end of a number: no exponent, or one that is complete. -/
def exponentOf : List Char → Option ℤ
  | [] => some 0
  | c :: cs =>
    let (negative, digits) := signed cs
    if (c = 'e' ∨ c = 'E') ∧ digits ≠ [] ∧ digits.all t.isDigit then
      some (if negative then -natOf t digits else natOf t digits)
    else none

/-- The number of a coefficient and an exponent, unless it is out of range. -/
def scaled (coefficient : ℕ) (exponent : ℤ) : Option ℚ :=
  if MIN_ETINY ≤ exponent ∧ exponent + Nat.log 10 coefficient ≤ MAX_EMAX then
    some (coefficient * 10 ^ exponent)
  else none

/-- A number without a sign: digits, with a point among them or not, and an exponent. -/
def unsigned (cs : List Char) : Option ℚ :=
  let (whole, rest) := cs.span t.isDigit
  let (fraction, rest) := match rest with
    | '.' :: rest => rest.span t.isDigit
    | _ => ([], rest)
  if whole = [] ∧ fraction = [] then none
  else (exponentOf t rest).bind fun e => scaled (natOf t (whole ++ fraction)) (e - fraction.length)

/-- `Decimal(text)`. None is raising. -/
def ofText (text : String) : Option ℚ :=
  let (negative, cs) := signed ((Text.strip t.toTables text).toList.filter (· ≠ '_'))
  (unsigned t cs).map fun q => if negative then -q else q

/-- What is missing is written as `None`, and that is no number. -/
theorem ofText_none : ofText t "None" = none := by
  have hletter : t.isDigit 'N' = false := by
    rw [← Bool.not_eq_true, t.isDigit_iff 'N' (by decide)]
    decide
  have hstrip : Text.strip t.toTables "None" = "None" := t.plain.strip_word (by decide)
  have hcs : "None".toList.filter (· ≠ '_') = ['N', 'o', 'n', 'e'] := by decide
  rw [ofText, hstrip, hcs]
  simp [signed, unsigned, List.span, List.span.loop, hletter]

end

example : ofText asciiNumerals " 4_799.99" = some (479999 / 100) := by decide +kernel

end Numbers
