import Mathlib.Data.Int.Log
import Mathlib.Data.Rat.Floor
import Mathlib.Tactic.Positivity

/-! # Rounded numbers

`nearestDouble x` is the IEEE 754 double nearest to the rational `x`, ties to even: a multiple of the unit in
the last place of `x`. Its error is at most half that unit, so it is at most `2 ^ (-53)` of the magnitude,
or of 1 for the numbers below it (`abs_nearestDouble_sub_le`).

`roundHalfAway n d` is the integer nearest to `n / d`, halves away from zero. -/

namespace VentureOS

/-! ## Nearest integers -/

/-- The integer nearest to `x`, ties to even. -/
def roundEven (x : ℚ) : ℤ :=
  let q := ⌊x⌋
  let r := x - q
  if 1 / 2 < r ∨ (r = 1 / 2 ∧ q % 2 = 1) then q + 1 else q

theorem abs_roundEven_sub_le (x : ℚ) : |(roundEven x : ℚ) - x| ≤ 1 / 2 := by
  have hfloor : (⌊x⌋ : ℚ) ≤ x := Int.floor_le x
  have hceil : x < ⌊x⌋ + 1 := Int.lt_floor_add_one x
  unfold roundEven
  simp only
  by_cases hup : 1 / 2 < x - ⌊x⌋ ∨ (x - ⌊x⌋ = 1 / 2 ∧ ⌊x⌋ % 2 = 1)
  · have hhalf : 1 / 2 ≤ x - ⌊x⌋ := by
      rcases hup with h | ⟨h, -⟩
      · exact h.le
      · exact h.ge
    rw [if_pos hup, Int.cast_add, Int.cast_one, abs_le]
    constructor <;> linarith
  · have hhalf : x - ⌊x⌋ ≤ 1 / 2 := not_lt.mp fun h => hup (Or.inl h)
    rw [if_neg hup, abs_le]
    constructor <;> linarith

theorem roundEven_nonneg {x : ℚ} (h : 0 ≤ x) : 0 ≤ roundEven x := by
  have hfloor : 0 ≤ ⌊x⌋ := Int.floor_nonneg.mpr h
  unfold roundEven
  simp only
  split <;> omega

@[simp] theorem roundEven_zero : roundEven 0 = 0 := by
  simp [roundEven]

theorem roundEven_nonpos {x : ℚ} (h : x ≤ 0) : roundEven x ≤ 0 := by
  rcases eq_or_lt_of_le h with rfl | hneg
  · exact roundEven_zero.le
  · have hfloor : ⌊x⌋ < 0 := Int.floor_lt.mpr (by simpa using hneg)
    unfold roundEven
    simp only
    split <;> omega

/-- The integer nearest to `n / d`, halves away from zero. -/
def roundHalfAway (n : Int) (d : Nat) : Int := n.sign * ((2 * n.natAbs + d) / (2 * d) : Nat)

/-- A whole number is not rounded. -/
theorem roundHalfAway_mul {d : Nat} (hd : 0 < d) (n : Int) : roundHalfAway (n * d) d = n := by
  unfold roundHalfAway
  have hquot : (2 * (n * d).natAbs + d) / (2 * d) = n.natAbs := by
    rw [Int.natAbs_mul, Int.natAbs_natCast]
    apply Nat.div_eq_of_lt_le
    · nlinarith
    · nlinarith
  rw [hquot, Int.sign_mul, Int.sign_natCast_of_ne_zero hd.ne', mul_one, Int.sign_mul_natAbs]

/-! ## Doubles -/

/-- The unit in the last place of the doubles next to `x`. -/
def ulp (x : ℚ) : ℚ := 2 ^ max (Int.log 2 |x| - 52) (-1074)

/-- The double nearest to `x`, as if there were no largest one. -/
def nearestDouble (x : ℚ) : ℚ := roundEven (x / ulp x) * ulp x

/-- The first power of two above all doubles. A number that is rounded to it or above is not finite. -/
def doubleOverflow : ℚ := 2 ^ 1024

theorem ulp_pos (x : ℚ) : 0 < ulp x := zpow_pos (by norm_num) _

@[simp] theorem nearestDouble_zero : nearestDouble 0 = 0 := by
  rw [nearestDouble, zero_div, roundEven_zero, Int.cast_zero, zero_mul]

theorem nearestDouble_nonneg {x : ℚ} (h : 0 ≤ x) : 0 ≤ nearestDouble x := by
  have hquot : 0 ≤ roundEven (x / ulp x) := roundEven_nonneg (div_nonneg h (ulp_pos x).le)
  exact mul_nonneg (Int.cast_nonneg hquot) (ulp_pos x).le

theorem nearestDouble_nonpos {x : ℚ} (h : x ≤ 0) : nearestDouble x ≤ 0 := by
  have hquot : roundEven (x / ulp x) ≤ 0 := roundEven_nonpos (div_nonpos_of_nonpos_of_nonneg h (ulp_pos x).le)
  exact mul_nonpos_of_nonpos_of_nonneg (Int.cast_nonpos.mpr hquot) (ulp_pos x).le

/-- A double is off by half a unit in the last place at most. -/
theorem abs_nearestDouble_sub_le_ulp (x : ℚ) : |nearestDouble x - x| ≤ ulp x / 2 := by
  have hpos := ulp_pos x
  have hx : x = x / ulp x * ulp x := (div_mul_cancel₀ x hpos.ne').symm
  have hsub : nearestDouble x - x = ((roundEven (x / ulp x) : ℚ) - x / ulp x) * ulp x := by
    rw [sub_mul, ← hx, nearestDouble]
  rw [hsub, abs_mul, abs_of_pos hpos]
  have hhalf := mul_le_mul_of_nonneg_right (abs_roundEven_sub_le (x / ulp x)) hpos.le
  linarith

/-- The unit in the last place is small against a magnitude of 1 or more, or against 1. -/
theorem ulp_le (x : ℚ) : ulp x ≤ (|x| + 1) * 2 ^ (-52 : ℤ) := by
  have htwo : (1 : ℚ) ≤ 2 := by norm_num
  have hunit : (0 : ℚ) < 2 ^ (-52 : ℤ) := by positivity
  unfold ulp
  rcases le_total (Int.log 2 |x| - 52) (-1074) with h | h
  · rw [max_eq_right h]
    calc (2 : ℚ) ^ (-1074 : ℤ) ≤ 2 ^ (-52 : ℤ) := zpow_le_zpow_right₀ htwo (by norm_num)
      _ = 1 * 2 ^ (-52 : ℤ) := (one_mul _).symm
      _ ≤ (|x| + 1) * 2 ^ (-52 : ℤ) := by
          apply mul_le_mul_of_nonneg_right _ hunit.le
          linarith [abs_nonneg x]
  · rw [max_eq_left h, sub_eq_add_neg, zpow_add₀ (by norm_num)]
    apply mul_le_mul_of_nonneg_right _ hunit.le
    rcases eq_or_lt_of_le (abs_nonneg x) with hzero | hpos
    · rw [← hzero, Int.log_zero_right, zpow_zero, zero_add]
    · have hlog : ((2 : ℕ) : ℚ) ^ Int.log 2 |x| ≤ |x| := Int.zpow_log_le_self (by norm_num) hpos
      rw [Nat.cast_ofNat] at hlog
      linarith

/-- **The error of a double** is small against its magnitude, or against 1. -/
theorem abs_nearestDouble_sub_le (x : ℚ) : |nearestDouble x - x| ≤ (|x| + 1) / 2 ^ 53 := by
  have hulp := abs_nearestDouble_sub_le_ulp x
  have hle := ulp_le x
  have hunit : ((2 : ℚ) ^ (-52 : ℤ)) = 1 / 2 ^ 52 := by norm_num
  rw [hunit] at hle
  have htwo : (|x| + 1) / 2 ^ 53 = (|x| + 1) * (1 / 2 ^ 52) / 2 := by ring
  rw [htwo]
  linarith

/-- A whole number of at most 53 bits is a double. -/
theorem nearestDouble_natCast {n : ℕ} (h : n < 2 ^ 53) : nearestDouble n = n := by
  rcases Nat.eq_zero_or_pos n with rfl | hpos
  · simp
  have hlog : Int.log 2 |(n : ℚ)| ≤ 52 := by
    rw [abs_of_nonneg (Nat.cast_nonneg n), Int.log_natCast]
    have := Nat.log_lt_of_lt_pow hpos.ne' h
    omega
  have hlog' : 0 ≤ Int.log 2 |(n : ℚ)| := by
    rw [abs_of_nonneg (Nat.cast_nonneg n), Int.log_natCast]
    exact Int.natCast_nonneg _
  -- The unit is a fraction with a power of two below, so the quotient is whole.
  obtain ⟨k, hk⟩ := Int.eq_ofNat_of_zero_le (show 0 ≤ 52 - Int.log 2 |(n : ℚ)| by omega)
  have hulp : ulp n = (2 ^ k)⁻¹ := by
    rw [ulp, max_eq_left (by omega), show Int.log 2 |(n : ℚ)| - 52 = -(k : ℤ) by omega, zpow_neg, zpow_natCast]
  have hquotient : (n : ℚ) / ulp n = ((n * 2 ^ k : ℤ) : ℚ) := by
    rw [hulp, div_inv_eq_mul]
    push_cast
    rfl
  have heven : ∀ m : ℤ, roundEven m = m := by
    intro m
    simp [roundEven]
  rw [nearestDouble, hquotient, heven, ← hquotient, div_mul_cancel₀ _ (ulp_pos _).ne']

/-- **Rounding a quotient keeps its floor**, while numerator and denominator are small. -/
theorem floor_nearestDouble_div {n d : ℕ} (hd : 0 < d) (h : n + d < 2 ^ 53) :
    ⌊nearestDouble ((n : ℚ) / d)⌋ = ((n / d : ℕ) : ℤ) := by
  have hdq : (0 : ℚ) < d := Nat.cast_pos.mpr hd
  have hsplit : (n : ℚ) / d = ((n / d : ℕ) : ℚ) + ((n % d : ℕ) : ℚ) / d := by
    rw [div_eq_iff hdq.ne', add_mul, div_mul_cancel₀ _ hdq.ne']
    exact_mod_cast (Nat.div_add_mod' n d).symm
  by_cases hzero : n % d = 0
  · rw [hsplit, hzero, Nat.cast_zero, zero_div, add_zero, nearestDouble_natCast, Int.floor_natCast]
    exact lt_of_le_of_lt (Nat.div_le_self n d) (by omega)
  -- The quotient is at least one part in `d` away from the next whole numbers, the error is smaller.
  have herror : |nearestDouble ((n : ℚ) / d) - (n : ℚ) / d| < 1 / d := by
    refine lt_of_le_of_lt (abs_nearestDouble_sub_le _) ?_
    rw [abs_of_nonneg (by positivity), div_add_one hdq.ne', div_div, div_lt_div_iff₀ (by positivity) hdq]
    have hsum : (n : ℚ) + d < 2 ^ 53 := by exact_mod_cast h
    nlinarith
  have hlow : 1 / (d : ℚ) ≤ ((n % d : ℕ) : ℚ) / d := by
    refine div_le_div_of_nonneg_right ?_ hdq.le
    exact_mod_cast Nat.one_le_iff_ne_zero.mpr hzero
  have hhigh : ((n % d : ℕ) : ℚ) / d + 1 / d ≤ 1 := by
    rw [← add_div, div_le_one hdq]
    exact_mod_cast Nat.mod_lt n hd
  rw [abs_lt] at herror
  rw [Int.floor_eq_iff, Int.cast_natCast]
  constructor <;> linarith

/-! ## Decimal texts -/

/-- A natural number with at least so many digits. -/
def paddedDigits (width n : Nat) : List Char :=
  let digits := Nat.toDigits 10 n
  List.replicate (width - digits.length) '0' ++ digits

/-- `x.toFixed(digits)` of a number that is not negative. From `10 ^ 21` on it is the text of the number. -/
def toFixed (numberText : ℚ → String) (digits : Nat) (x : ℚ) : String :=
  if (10 : ℚ) ^ 21 ≤ x then numberText x
  else
    let text := paddedDigits (digits + 1) ⌊x * 10 ^ digits + 1 / 2⌋.toNat
    let whole := text.length - digits
    String.ofList (text.take whole ++ '.' :: text.drop whole)

end VentureOS
