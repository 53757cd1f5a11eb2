import Mathlib.Algebra.Order.Field.Power
import Mathlib.Data.Int.Log
import Mathlib.Data.Rat.Floor
import Mathlib.Tactic.FieldSimp
import Mathlib.Tactic.Linarith
import Mathlib.Tactic.NormNum
import Mathlib.Tactic.Positivity
import Mathlib.Tactic.Ring
import UriTemplate.Number.Binary64

namespace UriTemplate.Binary64

theorem powerOfTwo_pos (exponent : Nat) : 0 < powerOfTwo exponent :=
  Nat.two_pow_pos exponent

theorem powerOfTwo_le_powerOfTwo {smaller larger : Nat} (isBelow : smaller ≤ larger) :
    powerOfTwo smaller ≤ powerOfTwo larger :=
  Nat.pow_le_pow_right two_pos isBelow

/-- The powers are those of the rational number two. -/
theorem cast_powerOfTwo (exponent : Nat) : (powerOfTwo exponent : ℚ) = 2 ^ exponent := by
  rw [powerOfTwo]
  exact Nat.cast_pow 2 exponent

/-- A power of two is a quotient of two whole ones, of which one is one. -/
theorem powerOfTwo_div_powerOfTwo (power : Int) :
    (powerOfTwo power.toNat : ℚ) / powerOfTwo (-power).toNat = 2 ^ power := by
  rw [cast_powerOfTwo, cast_powerOfTwo]
  rcases Int.le_total 0 power with nonnegative | nonpositive
  · have nothing : (-power).toNat = 0 := by omega
    rw [nothing, pow_zero, div_one, ← zpow_natCast, Int.toNat_of_nonneg nonnegative]
  · have nothing : power.toNat = 0 := by omega
    rw [nothing, pow_zero, one_div, ← zpow_natCast, Int.toNat_of_nonneg (by omega), zpow_neg,
      inv_inv]

/-- A quotient is scaled by a power of two on either side. -/
theorem scaled_quotient (dividend divisor : Nat) (power : Int) :
    ((dividend * powerOfTwo (-power).toNat : Nat) : ℚ) /
        (divisor * powerOfTwo power.toNat : Nat) = (dividend / divisor : ℚ) / 2 ^ power := by
  rw [Nat.cast_mul, Nat.cast_mul, ← powerOfTwo_div_powerOfTwo]
  field_simp

section Whole

/-- Rounding does not depend on how the quotient is reduced. -/
theorem roundQuotient_mul_right (dividend divisor : Nat) {scale : Nat} (positive : 0 < scale) :
    roundQuotient (dividend * scale) (divisor * scale) = roundQuotient dividend divisor := by
  have sameOrder : compare (2 * (dividend % divisor * scale)) (divisor * scale) =
      compare (2 * (dividend % divisor)) divisor := by
    rw [← Nat.mul_assoc]
    rcases Nat.lt_trichotomy (2 * (dividend % divisor)) divisor with less | same | greater
    · rw [compare_lt_iff_lt.mpr less,
        compare_lt_iff_lt.mpr (Nat.mul_lt_mul_of_pos_right less positive)]
    · rw [same]
      simp
    · rw [compare_gt_iff_gt.mpr greater,
        compare_gt_iff_gt.mpr (Nat.mul_lt_mul_of_pos_right greater positive)]
  rw [roundQuotient, roundQuotient, Nat.mul_div_mul_right _ _ positive, Nat.mul_mod_mul_right,
    sameOrder]

/-- Equal quotients are rounded alike. -/
theorem roundQuotient_congr {dividend divisor other otherDivisor : Nat} (positive : 0 < divisor)
    (otherPositive : 0 < otherDivisor) (same : dividend * otherDivisor = other * divisor) :
    roundQuotient dividend divisor = roundQuotient other otherDivisor := by
  rw [← roundQuotient_mul_right dividend divisor otherPositive, same, Nat.mul_comm divisor,
    roundQuotient_mul_right other otherDivisor positive]

/-- An even number is reached from the middle below it on. -/
theorem le_roundQuotient_iff (dividend : Nat) {bound divisor : Nat} (even : bound % 2 = 0)
    (positive : 0 < divisor) : bound ≤ roundQuotient dividend divisor ↔
      (bound : ℚ) - 1 / 2 ≤ (dividend : ℚ) / divisor := by
  have whole : bound ≤ roundQuotient dividend divisor ↔
      2 * (bound * divisor) ≤ 2 * dividend + divisor := by
    have division := Nat.div_add_mod dividend divisor
    have remainder := Nat.mod_lt dividend positive
    have oneStep := Nat.add_mul (dividend / divisor) 1 divisor
    have twoSteps := Nat.add_mul (dividend / divisor) 2 divisor
    have below (number : Nat) (less : bound ≤ number) := Nat.mul_le_mul_right divisor less
    have above (number : Nat) (greater : number ≤ bound) := Nat.mul_le_mul_right divisor greater
    rw [Nat.mul_comm] at division
    -- The multiples of the divisor next to the dividend bound those further away.
    have atQuotient := below (dividend / divisor)
    have atNext := below (dividend / divisor + 1)
    have pastQuotient := above (dividend / divisor + 1)
    have pastNext := above (dividend / divisor + 2)
    rw [roundQuotient]
    split
    · next order =>
        have less := compare_lt_iff_lt.mp order
        omega
    · next order =>
        have greater := compare_gt_iff_gt.mp order
        omega
    · next order =>
        have same := compare_eq_iff_eq.mp order
        omega
  have divisorPositive : (0 : ℚ) < divisor := Nat.cast_pos.mpr positive
  rw [whole, le_div_iff₀ divisorPositive, ← Nat.cast_le (α := ℚ)]
  push_cast
  constructor <;> intro <;> linarith

end Whole

section Spacing

variable {dividend divisor : Nat}

/-- A significand has 53 bits. -/
theorem cast_significandCount : ((2 * significandCount : Nat) : ℚ) = 2 ^ (53 : Int) := by
  rw [significandCount]
  norm_num

/-- Scaled by a power of two, a quotient has less than 53 binary digits if it lies below the power
of two that is 53 places above. -/
theorem fits_iff (dividend : Nat) (positive : 0 < divisor) (power : Int) :
    dividend * powerOfTwo (-power).toNat <
        divisor * powerOfTwo power.toNat * (2 * significandCount) ↔
      (dividend / divisor : ℚ) < 2 ^ (power + 53) := by
  have scalePositive : (0 : ℚ) < (divisor * powerOfTwo power.toNat : Nat) :=
    Nat.cast_pos.mpr (Nat.mul_pos positive (powerOfTwo_pos _))
  have powerPositive : (0 : ℚ) < 2 ^ power := zpow_pos two_pos power
  rw [← Nat.cast_lt (α := ℚ), Nat.cast_mul (divisor * powerOfTwo power.toNat),
    cast_significandCount, mul_comm _ ((2 : ℚ) ^ (53 : Int)), ← div_lt_iff₀ scalePositive,
    scaled_quotient, div_lt_iff₀ powerPositive, ← zpow_add₀ two_ne_zero, add_comm]

/-- The number of binary digits of a quotient follows from those of its two parts, up to one. -/
theorem log_quotient_bounds (dividendPositive : 0 < dividend) (positive : 0 < divisor) :
    (dividend.log2 : Int) - divisor.log2 - 1 ≤ Int.log 2 (dividend / divisor : ℚ) ∧
      Int.log 2 (dividend / divisor : ℚ) ≤ (dividend.log2 : Int) - divisor.log2 := by
  have divisorPositive : (0 : ℚ) < divisor := Nat.cast_pos.mpr positive
  have quotientPositive : (0 : ℚ) < dividend / divisor :=
    div_pos (Nat.cast_pos.mpr dividendPositive) divisorPositive
  have power (number : Nat) : (2 : ℚ) ^ (number : Int) = (2 ^ number : Nat) := by
    rw [zpow_natCast, Nat.cast_pow, Nat.cast_ofNat]
  have dividendFrom : (2 : ℚ) ^ (dividend.log2 : Int) ≤ dividend := by
    rw [power]
    exact Nat.cast_le.mpr (Nat.log2_self_le dividendPositive.ne')
  have dividendTo : (dividend : ℚ) < 2 ^ ((dividend.log2 : Int) + 1) := by
    rw [← Nat.cast_succ, power]
    exact Nat.cast_lt.mpr Nat.lt_log2_self
  have divisorFrom : (2 : ℚ) ^ (divisor.log2 : Int) ≤ divisor := by
    rw [power]
    exact Nat.cast_le.mpr (Nat.log2_self_le positive.ne')
  have divisorTo : (divisor : ℚ) < 2 ^ ((divisor.log2 : Int) + 1) := by
    rw [← Nat.cast_succ, power]
    exact Nat.cast_lt.mpr Nat.lt_log2_self
  constructor
  · rw [← Int.zpow_le_iff_le_log one_lt_two quotientPositive, Nat.cast_ofNat,
      le_div_iff₀ divisorPositive]
    calc
      (2 : ℚ) ^ ((dividend.log2 : Int) - divisor.log2 - 1) * divisor ≤
          2 ^ ((dividend.log2 : Int) - divisor.log2 - 1) * 2 ^ ((divisor.log2 : Int) + 1) :=
        mul_le_mul_of_nonneg_left divisorTo.le (zpow_pos two_pos _).le
      _ = 2 ^ (dividend.log2 : Int) := by
        rw [← zpow_add₀ two_ne_zero]
        congr 1
        omega
      _ ≤ dividend := dividendFrom
  · rw [← Int.lt_add_one_iff, ← Int.lt_zpow_iff_log_lt one_lt_two quotientPositive,
      Nat.cast_ofNat, div_lt_iff₀ divisorPositive]
    calc
      (dividend : ℚ) < 2 ^ ((dividend.log2 : Int) + 1) := dividendTo
      _ = 2 ^ ((dividend.log2 : Int) - divisor.log2 + 1) * 2 ^ (divisor.log2 : Int) := by
        rw [← zpow_add₀ two_ne_zero]
        congr 1
        omega
      _ ≤ 2 ^ ((dividend.log2 : Int) - divisor.log2 + 1) * divisor :=
        mul_le_mul_of_nonneg_left divisorFrom (zpow_pos two_pos _).le

/-- The spacing leaves 53 binary digits, or fewer where the magnitudes are smallest. -/
theorem spacing_eq (dividendPositive : 0 < dividend) (positive : 0 < divisor) :
    spacing dividend divisor = max (-1074) (Int.log 2 (dividend / divisor : ℚ) - 52) := by
  have ⟨lowest, highest⟩ := log_quotient_bounds dividendPositive positive
  have quotientPositive : (0 : ℚ) < dividend / divisor :=
    div_pos (Nat.cast_pos.mpr dividendPositive) (Nat.cast_pos.mpr positive)
  have fits := fits_iff dividend positive ((dividend.log2 : Int) - divisor.log2 - 53)
  rw [← Nat.cast_ofNat (R := ℚ), Int.lt_zpow_iff_log_lt one_lt_two quotientPositive] at fits
  rw [spacing]
  by_cases below : Int.log 2 (dividend / divisor : ℚ) < (dividend.log2 : Int) - divisor.log2
  · rw [if_pos (fits.mpr (by omega))]
    congr 1
    omega
  · rw [if_neg fun isBelow => below (by have := fits.mp isBelow; omega)]
    congr 1
    omega

end Spacing

section Quotients

variable {dividend divisor : Nat}

/-- The spacing of a quotient, and the quotient counted in it. -/
theorem ofQuotient_of_pos (isNegative : Bool) (dividendPositive : 0 < dividend) :
    ofQuotient isNegative dividend divisor =
      let power := spacing dividend divisor
      let code := (power + 1074).toNat * significandCount +
        roundQuotient (dividend * powerOfTwo (-power).toNat) (divisor * powerOfTwo power.toNat)
      if isFinite : code < magnitudeCount then .finite isNegative ⟨code, isFinite⟩
      else .infinite isNegative := by
  rw [ofQuotient, if_neg dividendPositive.ne']

/-- Equal quotients are rounded to the same number. -/
theorem ofQuotient_congr (isNegative : Bool) {other otherDivisor : Nat} (positive : 0 < divisor)
    (otherPositive : 0 < otherDivisor) (same : dividend * otherDivisor = other * divisor) :
    ofQuotient isNegative dividend divisor = ofQuotient isNegative other otherDivisor := by
  rcases Nat.eq_zero_or_pos dividend with rfl | dividendPositive
  · have isZero : other = 0 := by
      rw [Nat.zero_mul] at same
      exact (Nat.mul_eq_zero.mp same.symm).resolve_right positive.ne'
    rw [isZero, ofQuotient, ofQuotient, if_pos rfl, if_pos rfl]
  · have product : 0 < other * divisor := same ▸ Nat.mul_pos dividendPositive otherPositive
    have otherDividend : 0 < other := Nat.pos_of_mul_pos_right product
    have sameQuotient : (dividend / divisor : ℚ) = other / otherDivisor := by
      rw [div_eq_div_iff (Nat.cast_ne_zero.mpr positive.ne')
        (Nat.cast_ne_zero.mpr otherPositive.ne')]
      exact_mod_cast same
    have sameSpacing : spacing dividend divisor = spacing other otherDivisor := by
      rw [spacing_eq dividendPositive positive, spacing_eq otherDividend otherPositive,
        sameQuotient]
    have sameRounded (left right : Nat) (rightPositive : 0 < right) :
        roundQuotient (dividend * left) (divisor * right) =
          roundQuotient (other * left) (otherDivisor * right) := by
      apply roundQuotient_congr (Nat.mul_pos positive rightPositive)
        (Nat.mul_pos otherPositive rightPositive)
      calc
        dividend * left * (otherDivisor * right) = dividend * otherDivisor * (left * right) := by
          ring
        _ = other * divisor * (left * right) := by rw [same]
        _ = other * left * (divisor * right) := by ring
    rw [ofQuotient_of_pos isNegative dividendPositive, ofQuotient_of_pos isNegative otherDividend,
      sameSpacing]
    simp only [sameRounded _ _ (powerOfTwo_pos _)]

/-- The value of a magnitude. -/
theorem numerator_div_denominator (code : Nat) :
    (numerator code / denominator code : ℚ) = significand code * 2 ^ exponent code := by
  rw [numerator, denominator, Nat.cast_mul, mul_div_assoc, powerOfTwo_div_powerOfTwo]

/-- Only zero has the significand zero. -/
theorem significand_pos {code : Nat} (positive : 0 < code) : 0 < significand code := by
  unfold significand significandCount
  split <;> omega

theorem numerator_pos {code : Nat} (positive : 0 < code) : 0 < numerator code :=
  Nat.mul_pos (significand_pos positive) (powerOfTwo_pos _)

/-- No significand needs more than 53 bits. -/
theorem significand_lt (code : Nat) : significand code < 2 * significandCount := by
  unfold significand significandCount
  split <;> omega

/-- A code counts the significands of the smaller exponents and its own. -/
theorem code_eq (code : Nat) :
    (exponent code + 1074).toNat * significandCount + significand code = code := by
  have division := Nat.div_add_mod code significandCount
  unfold exponent significand
  split
  · simp
  · next normal =>
      have atLeastOne : 1 ≤ code / significandCount :=
        Nat.div_pos (Nat.le_of_not_lt normal) (by decide)
      have places : ((code / significandCount : Nat) - 1075 + 1074 : Int).toNat + 1 =
          code / significandCount := by omega
      rw [← places, Nat.mul_add, Nat.mul_one, Nat.mul_comm] at division
      omega

/-- Around a finite number, the numbers are spaced by its exponent. -/
theorem spacing_magnitude {code : Nat} (positive : 0 < code) :
    spacing (numerator code) (denominator code) = exponent code := by
  have significandPositive : (0 : ℚ) < significand code :=
    Nat.cast_pos.mpr (significand_pos positive)
  have valuePositive : (0 : ℚ) < significand code * 2 ^ exponent code :=
    mul_pos significandPositive (zpow_pos two_pos _)
  have divisorPositive : 0 < denominator code := powerOfTwo_pos _
  rw [spacing_eq (numerator_pos positive) divisorPositive, numerator_div_denominator]
  have isBelow (places : Int) : (significand code : ℚ) < 2 ^ places ↔
      Int.log 2 (significand code * 2 ^ exponent code : ℚ) < places + exponent code := by
    rw [← Int.lt_zpow_iff_log_lt one_lt_two valuePositive, Nat.cast_ofNat,
      zpow_add₀ two_ne_zero, mul_lt_mul_iff_of_pos_right (zpow_pos two_pos _)]
  have belowNext := (isBelow 53).mp (by
    rw [← cast_significandCount]
    exact Nat.cast_lt.mpr (significand_lt code))
  have count : (significandCount : ℚ) = 2 ^ (52 : Int) := by
    rw [significandCount]
    norm_num
  by_cases subnormal : code < significandCount
  · have sameSignificand : significand code = code := if_pos subnormal
    have sameExponent : exponent code = -1074 := if_pos subnormal
    have belowFirst := (isBelow 52).mp (by
      rw [← count, sameSignificand]
      exact Nat.cast_lt.mpr subnormal)
    omega
  · have sameExponent : exponent code = (code / significandCount : Nat) - 1075 := if_neg subnormal
    have atLeastOne : 1 ≤ code / significandCount :=
      Nat.div_pos (Nat.le_of_not_lt subnormal) (by decide)
    have atLeastFirst : ¬(significand code : ℚ) < 2 ^ (52 : Int) := by
      rw [← count, Nat.cast_lt, Nat.not_lt]
      exact (Nat.le_add_right _ _).trans_eq (if_neg subnormal).symm
    rw [isBelow] at atLeastFirst
    omega

/-- Every magnitude is rounded to itself. -/
theorem ofQuotient_magnitude (isNegative : Bool) (code : Fin magnitudeCount) :
    ofQuotient isNegative (numerator code) (denominator code) = .finite isNegative code := by
  rcases Nat.eq_zero_or_pos code.val with isZero | positive
  · have nothing : numerator code = 0 := by
      rw [isZero]
      rfl
    rw [ofQuotient, if_pos nothing, zero]
    exact congrArg (Binary64.finite isNegative) (Fin.ext isZero.symm)
  · have divisorPositive : 0 < denominator code := powerOfTwo_pos _
    have rounded : roundQuotient (numerator code * powerOfTwo (-exponent code).toNat)
        (denominator code * powerOfTwo (exponent code).toNat) = significand code := by
      have whole : roundQuotient (significand code) 1 = significand code := by
        rw [roundQuotient, Nat.div_one, Nat.mod_one]
        rfl
      rw [← whole]
      apply roundQuotient_congr (Nat.mul_pos divisorPositive (powerOfTwo_pos _)) one_pos
      rw [numerator, denominator]
      ring
    rw [ofQuotient_of_pos isNegative (numerator_pos positive)]
    simp only [spacing_magnitude positive, rounded, code_eq, code.isLt, dite_true]

/-- The middle between the largest finite magnitude and the next power of two. -/
def overflow : Nat := powerOfTwo 1024 - powerOfTwo 970

theorem overflow_pos : 0 < overflow := by
  decide +kernel

/-- Overflow starts halfway between the largest number and the next one there would be. -/
theorem cast_overflow : (overflow : ℚ) = (2 ^ (53 : Int) - 1 / 2) * 2 ^ (971 : Int) := by
  have smaller : powerOfTwo 970 ≤ powerOfTwo 1024 := by decide +kernel
  rw [overflow, Nat.cast_sub smaller, cast_powerOfTwo, cast_powerOfTwo, sub_mul,
    ← zpow_add₀ two_ne_zero, ← zpow_natCast, ← zpow_natCast]
  congr 1
  rw [one_div, ← zpow_neg_one, ← zpow_add₀ two_ne_zero]
  rfl

/-- The result is infinite if the rounded significand leads past the last code. -/
theorem exists_rounded (isNegative : Bool) (dividendPositive : 0 < dividend)
    (positive : 0 < divisor) : ∃ rounded : Nat,
      (ofQuotient isNegative dividend divisor = .infinite isNegative ↔
        magnitudeCount ≤
          (spacing dividend divisor + 1074).toNat * significandCount + rounded) ∧
      ∀ bound : Nat, bound % 2 = 0 → (bound ≤ rounded ↔
        ((bound : ℚ) - 1 / 2) * 2 ^ spacing dividend divisor ≤ dividend / divisor) := by
  refine ⟨roundQuotient (dividend * powerOfTwo (-spacing dividend divisor).toNat)
    (divisor * powerOfTwo (spacing dividend divisor).toNat), ?_, fun bound even => ?_⟩
  · rw [ofQuotient_of_pos isNegative dividendPositive]
    dsimp only
    split
    · next isFinite => simpa using isFinite
    · next isInfinite => simpa using isInfinite
  · have reached := le_roundQuotient_iff
      (dividend * powerOfTwo (-spacing dividend divisor).toNat) even
      (Nat.mul_pos positive (powerOfTwo_pos (spacing dividend divisor).toNat))
    rwa [scaled_quotient, le_div_iff₀ (zpow_pos two_pos _)] at reached

/-- The magnitudes end where rounding to 53 binary digits leads to the next power of two. -/
theorem ofQuotient_eq_infinite_iff (isNegative : Bool) (dividend : Nat) (positive : 0 < divisor) :
    ofQuotient isNegative dividend divisor = .infinite isNegative ↔
      overflow * divisor ≤ dividend := by
  have divisorPositive : (0 : ℚ) < divisor := Nat.cast_pos.mpr positive
  have reaches : overflow * divisor ≤ dividend ↔
      (2 ^ (53 : Int) - 1 / 2) * 2 ^ (971 : Int) ≤ (dividend / divisor : ℚ) := by
    rw [← cast_overflow, le_div_iff₀ divisorPositive, ← Nat.cast_mul, Nat.cast_le]
  rcases Nat.eq_zero_or_pos dividend with rfl | dividendPositive
  · have product := Nat.mul_pos overflow_pos positive
    simp only [ofQuotient, zero, if_true, reduceCtorEq, false_iff]
    omega
  · have quotientPositive : (0 : ℚ) < dividend / divisor :=
      div_pos (Nat.cast_pos.mpr dividendPositive) divisorPositive
    have spaced := spacing_eq dividendPositive positive
    have isBelow (power : Int) : (dividend / divisor : ℚ) < 2 ^ power ↔
        Int.log 2 (dividend / divisor : ℚ) < power := by
      rw [← Int.lt_zpow_iff_log_lt one_lt_two quotientPositive, Nat.cast_ofNat]
    obtain ⟨rounded, isInfinite, reached⟩ :=
      exists_rounded isNegative dividendPositive positive
    rw [isInfinite, reaches]
    generalize (dividend / divisor : ℚ) = quotient at *
    generalize spacing dividend divisor = power at *
    have powerPositive : (0 : ℚ) < 2 ^ power := zpow_pos two_pos power
    have lastPositive : (0 : ℚ) < 2 ^ (971 : Int) := zpow_pos two_pos 971
    unfold significandCount magnitudeCount
    rcases Int.lt_trichotomy (Int.log 2 quotient) 1023 with small | middle | large
    · have belowPower : quotient < 2 ^ (53 : Int) * 2 ^ power := by
        rw [← zpow_add₀ two_ne_zero, isBelow]
        omega
      have belowMiddle : quotient < 2 ^ (52 : Int) * 2 ^ (971 : Int) := by
        rw [← zpow_add₀ two_ne_zero, isBelow]
        exact small
      have notReached := reached 0x20000000000002 rfl
      have fewDigits : ¬0x20000000000002 ≤ rounded := by
        rw [notReached, not_le]
        refine belowPower.trans_le (mul_le_mul_of_nonneg_right ?_ powerPositive.le)
        norm_num
      have notMiddle : ¬(2 ^ (53 : Int) - 1 / 2) * 2 ^ (971 : Int) ≤ quotient := by
        rw [not_le]
        refine belowMiddle.trans_le (mul_le_mul_of_nonneg_right ?_ lastPositive.le)
        norm_num
      simp only [notMiddle, iff_false]
      omega
    · have isLast : power = 971 := by omega
      have sameRounded := reached 0x20000000000000 rfl
      have significands : ((0x20000000000000 : Nat) : ℚ) = 2 ^ (53 : Int) := by norm_num
      rw [isLast, significands] at sameRounded
      rw [← sameRounded]
      omega
    · have abovePower : 2 ^ (52 : Int) * 2 ^ power ≤ quotient := by
        rw [← zpow_add₀ two_ne_zero, ← not_lt, isBelow]
        omega
      have aboveLast : 2 ^ (53 : Int) * 2 ^ (971 : Int) ≤ quotient := by
        rw [← zpow_add₀ two_ne_zero, ← not_lt, isBelow]
        omega
      have manyDigits : 0x10000000000000 ≤ rounded := by
        rw [reached 0x10000000000000 rfl]
        refine (mul_le_mul_of_nonneg_right ?_ powerPositive.le).trans abovePower
        norm_num
      have isReached : (2 ^ (53 : Int) - 1 / 2) * 2 ^ (971 : Int) ≤ quotient := by
        refine (mul_le_mul_of_nonneg_right ?_ lastPositive.le).trans aboveLast
        norm_num
      simp only [isReached, iff_true]
      omega

/-- A rounded quotient keeps its sign, and it is a number. -/
theorem ofQuotient_cases (isNegative : Bool) (dividend divisor : Nat) :
    (∃ code, ofQuotient isNegative dividend divisor = .finite isNegative code) ∨
      ofQuotient isNegative dividend divisor = .infinite isNegative := by
  unfold ofQuotient
  split
  · exact Or.inl ⟨_, rfl⟩
  · dsimp only
    split
    · exact Or.inl ⟨_, rfl⟩
    · exact Or.inr rfl

/-- A whole number is too large for binary64 numbers from the same bound on, on either side of
zero. -/
theorem ofInt?_eq (number : Int) :
    ofInt? number = if overflow ≤ number.natAbs then none else some (ofInt number) := by
  have atBound := ofQuotient_eq_infinite_iff (number < 0) number.natAbs Nat.one_pos
  rw [Nat.mul_one] at atBound
  rw [ofInt?]
  rcases ofQuotient_cases (number < 0) number.natAbs 1 with ⟨code, isFinite⟩ | isInfinite
  · have small : ¬overflow ≤ number.natAbs := by
      rw [← atBound, isFinite]
      exact Binary64.noConfusion
    rw [if_neg small, ofInt, isFinite]
  · rw [if_pos (atBound.mp isInfinite), ofInt, isInfinite]

end Quotients

end UriTemplate.Binary64
