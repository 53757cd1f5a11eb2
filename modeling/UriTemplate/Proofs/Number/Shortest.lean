import UriTemplate.Number.Shortest
import UriTemplate.Proofs.Number.Rounding
import UriTemplate.Proofs.Text.Numeral

namespace UriTemplate

namespace Binary64

theorem powerOfTen_succ (exponent : Nat) :
    powerOfTen (exponent + 1) = 10 * powerOfTen exponent := by
  rw [powerOfTen, Nat.mul_comm]
  rfl

theorem powerOfTen_pos (exponent : Nat) : 0 < powerOfTen exponent :=
  Nat.pow_pos (by decide)

/-- Ten times a number has one digit more. -/
theorem length_toDigits_ten_mul {digits : Nat} (positive : 0 < digits) :
    (Nat.toDigits 10 (10 * digits)).length = (Nat.toDigits 10 digits).length + 1 := by
  have written := congrArg List.length (Numeral.ofNat_concat positive (by decide : 0 < 10))
  simpa [Numeral.ofNat] using written

/-- A zero at the end of the digits counts as one in the power. -/
theorem ofDecimal_ten_mul (isNegative : Bool) (digits : Nat) (power : Int) :
    ofDecimal isNegative (10 * digits) power = ofDecimal isNegative digits (power + 1) := by
  rcases Nat.eq_zero_or_pos digits with rfl | positive
  · simp [ofDecimal]
  · have sameLeading : power + (Nat.toDigits 10 (10 * digits)).length =
        power + 1 + (Nat.toDigits 10 digits).length := by
      rw [length_toDigits_ten_mul positive]
      omega
    have sameQuotient : ofQuotient isNegative (10 * digits * powerOfTen power.toNat)
        (powerOfTen (-power).toNat) = ofQuotient isNegative
          (digits * powerOfTen (power + 1).toNat) (powerOfTen (-(power + 1)).toNat) := by
      apply ofQuotient_congr isNegative (powerOfTen_pos _) (powerOfTen_pos _)
      rcases Int.lt_or_le power 0 with negative | nonnegative
      · have noPower : power.toNat = 0 ∧ (power + 1).toNat = 0 := by omega
        have onePower : (-power).toNat = (-(power + 1)).toNat + 1 := by omega
        rw [noPower.1, noPower.2, onePower, powerOfTen_succ]
        ring
      · have noPower : (-power).toNat = 0 ∧ (-(power + 1)).toNat = 0 := by omega
        have onePower : (power + 1).toNat = power.toNat + 1 := by omega
        rw [noPower.1, noPower.2, onePower, powerOfTen_succ]
        ring
    have sameZero : (10 * digits = 0) = (digits = 0) := by
      simp
    unfold ofDecimal
    rw [sameLeading, sameQuotient]
    simp only [sameZero]

/-- All zeros at the end of the digits count in the power. -/
theorem ofDecimal_mul_powerOfTen (isNegative : Bool) (digits count : Nat) (power : Int) :
    ofDecimal isNegative (digits * powerOfTen count) power =
      ofDecimal isNegative digits (power + count) := by
  induction count generalizing power with
  | zero =>
      have nothing : powerOfTen 0 = 1 := rfl
      rw [nothing, Nat.mul_one, Nat.cast_zero, add_zero]
  | succ count inductionHypothesis =>
      rw [powerOfTen_succ, Nat.mul_left_comm, ofDecimal_ten_mul, inductionHypothesis]
      congr 1
      omega

/-- The sign plays no part in rounding. -/
theorem ofQuotient_of_false {dividend divisor : Nat} {code : Fin magnitudeCount}
    (rounds : ofQuotient false dividend divisor = .finite false code) (isNegative : Bool) :
    ofQuotient isNegative dividend divisor = .finite isNegative code := by
  unfold ofQuotient zero at rounds ⊢
  dsimp only at rounds ⊢
  split at rounds
  · next isZero =>
      rw [if_pos isZero]
      cases rounds
      rfl
  · next nonzero =>
      rw [if_neg nonzero]
      split at rounds
      · next isFinite =>
          rw [dif_pos isFinite]
          cases rounds
          rfl
      · cases rounds

/-- A number is rounded as its magnitude is. -/
theorem ofDecimal_of_false {digits : Nat} {power : Int} {code : Fin magnitudeCount}
    (rounds : ofDecimal false digits power = .finite false code) (isNegative : Bool) :
    ofDecimal isNegative digits power = .finite isNegative code := by
  unfold ofDecimal at rounds ⊢
  dsimp only at rounds ⊢
  split at rounds
  · next isSmall =>
      rw [if_pos isSmall]
      cases rounds
      rfl
  · next notSmall =>
      rw [if_neg notSmall]
      split at rounds
      · cases rounds
      · next notLarge =>
          rw [if_neg notLarge]
          exact ofQuotient_of_false rounds isNegative

end Binary64

namespace Decimal

open Binary64

/-- Final zeros that are dropped go to the power. -/
theorem toBinary64_dropZeros (limit : Nat) (decimal : Decimal) (isNegative : Bool) :
    (dropZeros limit decimal).toBinary64 isNegative = decimal.toBinary64 isNegative := by
  induction limit generalizing decimal with
  | zero => rfl
  | succ limit inductionHypothesis =>
      unfold dropZeros
      split
      · next endsInZero =>
          have division : 10 * (decimal.digits / 10) = decimal.digits := by omega
          rw [inductionHypothesis, toBinary64, toBinary64, ← ofDecimal_ten_mul, division]
      · rfl

/-- A reduced decimal number is rounded to the same binary64 number. -/
theorem toBinary64_reduced (decimal : Decimal) (isNegative : Bool) :
    decimal.reduced.toBinary64 isNegative = decimal.toBinary64 isNegative :=
  toBinary64_dropZeros _ decimal isNegative

/-- A candidate is rounded to the number it is meant for. -/
theorem toBinary64_candidate {code : Fin magnitudeCount} {exact found : Decimal} {power : Int}
    (isCandidate : candidate? code exact power = some found) :
    found.toBinary64 false = .finite false code := by
  unfold candidate? at isCandidate
  dsimp only at isCandidate
  split at isCandidate
  · next bothRead =>
      obtain rfl := Option.some.inj isCandidate
      split
      · exact bothRead.2
      · exact bothRead.1
  · split at isCandidate
    · next lowerReads => exact Option.some.inj isCandidate ▸ lowerReads
    · split at isCandidate
      · next upperReads => exact Option.some.inj isCandidate ▸ upperReads
      · cases isCandidate

/-- The exact value of a magnitude lies well inside the powers of ten that are computed. -/
theorem pointPosition_ofCode {code : Fin magnitudeCount} (positive : 0 < code.val) :
    -400 ≤ (ofCode code).pointPosition ∧ (ofCode code).pointPosition ≤ 400 := by
  have ⟨lowest, highest⟩ : -1074 ≤ exponent code ∧ exponent code ≤ 971 := by
    have inRange := code.isLt
    unfold magnitudeCount at inRange
    unfold exponent significandCount
    split <;> omega
  have few : numerator code < 10 ^ 400 := by
    calc
      numerator code < 2 * significandCount * powerOfTwo (exponent code).toNat :=
        Nat.mul_lt_mul_of_pos_right (significand_lt code) (powerOfTwo_pos _)
      _ ≤ 2 * significandCount * powerOfTwo 971 :=
        Nat.mul_le_mul_left _ (powerOfTwo_le_powerOfTwo (by omega))
      _ ≤ 10 ^ 400 := by decide +kernel
  rw [pointPosition, ofCode]
  dsimp only
  obtain ⟨places, isPlaces⟩ : ∃ places, places = (-exponent code).toNat := ⟨_, rfl⟩
  have scale : min (exponent code) 0 = -(places : Int) := by omega
  rw [scale, ← isPlaces, Nat.pow_eq]
  constructor
  · have manyDigits (many : 400 < places) : places - 400 <
        (Nat.toDigits 10 (numerator code * 5 ^ places)).length := by
      rw [← Nat.not_le, Nat.length_toDigits_le_iff (by decide) (by omega), Nat.not_lt]
      calc
        10 ^ (places - 400) = 2 ^ (places - 400) * 5 ^ (places - 400) := by
          have factors : 10 = 2 * 5 := rfl
          rw [factors, Nat.mul_pow]
        _ ≤ 5 ^ 400 * 5 ^ (places - 400) := by
          refine Nat.mul_le_mul_right _ ?_
          calc
            2 ^ (places - 400) ≤ 2 ^ 674 := Nat.pow_le_pow_right (by decide) (by omega)
            _ ≤ 5 ^ 400 := by decide +kernel
        _ = 5 ^ places := by
          rw [← Nat.pow_add, Nat.add_sub_cancel' many.le]
        _ ≤ numerator code * 5 ^ places := Nat.le_mul_of_pos_left _ (numerator_pos positive)
    omega
  · have fewDigits : (Nat.toDigits 10 (numerator code * 5 ^ places)).length ≤ 400 + places := by
      rw [Nat.length_toDigits_le_iff (by decide) (by omega), Nat.pow_add]
      calc
        numerator code * 5 ^ places < 10 ^ 400 * 5 ^ places :=
          Nat.mul_lt_mul_of_pos_right few (Nat.pow_pos (by decide))
        _ ≤ 10 ^ 400 * 10 ^ places :=
          Nat.mul_le_mul_left _ (Nat.pow_le_pow_left (by decide) _)
    omega

/-- Twos and fives make up the tens in the divisor. -/
theorem toBinary64_ofCode (code : Fin magnitudeCount) :
    (ofCode code).toBinary64 false = .finite false code := by
  rcases Nat.eq_zero_or_pos code.val with isZero | positive
  · have nothing : numerator code = 0 := by
      rw [isZero]
      rfl
    rw [toBinary64, ofCode, nothing, Nat.zero_mul, ofDecimal]
    simp only [decide_true, Bool.true_or, if_true, zero]
    exact congrArg (Binary64.finite false) (Fin.ext isZero.symm)
  · obtain ⟨lowest, highest⟩ := pointPosition_ofCode positive
    have digitsPositive : (ofCode code).digits ≠ 0 :=
      (Nat.mul_pos (numerator_pos positive) (Nat.pow_pos (by decide))).ne'
    rw [pointPosition] at lowest highest
    rw [toBinary64, ofDecimal]
    rw [if_neg (by simpa using ⟨digitsPositive, lowest⟩), if_neg (by omega),
      ← ofQuotient_magnitude false code]
    apply ofQuotient_congr false (powerOfTen_pos _) (powerOfTwo_pos _)
    have noPower : (min (exponent code) 0).toNat = 0 := by omega
    have samePower : (-min (exponent code) 0).toNat = (-exponent code).toNat := by omega
    have factors : powerOfTen (-exponent code).toNat =
        5 ^ (-exponent code).toNat * powerOfTwo (-exponent code).toNat := by
      rw [powerOfTen, powerOfTwo, Nat.pow_eq, Nat.pow_eq, ← Nat.mul_pow]
    have one : powerOfTen 0 = 1 := rfl
    rw [ofCode]
    dsimp only
    rw [noPower, samePower, factors, one, Nat.pow_eq]
    ring

/-- The shortest decimal number of a magnitude is rounded to that magnitude. -/
theorem toBinary64_shortest (code : Fin magnitudeCount) (isNegative : Bool) :
    (shortest code).toBinary64 isNegative = .finite isNegative code := by
  apply ofDecimal_of_false
  change (shortest code).toBinary64 false = _
  rw [shortest, toBinary64_reduced]
  cases found : (List.range 17).findSome? fun index : Nat =>
      candidate? code (ofCode code) ((ofCode code).pointPosition - (index + 1 : Nat)) with
  | none => exact toBinary64_ofCode code
  | some decimal =>
      obtain ⟨index, _, isCandidate⟩ := List.exists_of_findSome?_eq_some found
      exact toBinary64_candidate isCandidate

end Decimal

end UriTemplate
