import UriTemplate.Text.Numeral

/-
This file defines the binary64 numbers and rounds exact numbers to them.
-/

namespace UriTemplate

/-- The number of finite magnitudes: the exponents times the significands of each. -/
def magnitudeCount : Nat := 2047 * 0x10000000000000

/-- The code of a finite number counts the binary64 magnitudes below its own, so a larger code
is a larger magnitude and each number has one form. -/
inductive Binary64
  | notANumber
  | infinite (isNegative : Bool)
  | finite (isNegative : Bool) (code : Fin magnitudeCount)
  deriving DecidableEq

namespace Binary64

def powerOfTwo (exponent : Nat) : Nat :=
  Nat.pow 2 exponent

def powerOfTen (exponent : Nat) : Nat :=
  Nat.pow 10 exponent

/-- The number of significands that share an exponent. -/
def significandCount : Nat := 0x10000000000000

def zero (isNegative : Bool) : Binary64 :=
  .finite isNegative ⟨0, by decide⟩

/-- A magnitude is a significand times a power of two; the smallest codes are subnormal. -/
def significand (code : Nat) : Nat :=
  if code < significandCount then code else significandCount + code % significandCount

def exponent (code : Nat) : Int :=
  if code < significandCount then -1074 else (code / significandCount : Nat) - 1075

/-- The exact magnitude is this numerator over `denominator code`. -/
def numerator (code : Nat) : Nat :=
  significand code * powerOfTwo (exponent code).toNat

def denominator (code : Nat) : Nat :=
  powerOfTwo (-exponent code).toNat

/-- The nearest whole number; of two equally near ones the even one. -/
def roundQuotient (dividend divisor : Nat) : Nat :=
  let quotient := dividend / divisor
  match compare (2 * (dividend % divisor)) divisor with
  | .lt => quotient
  | .gt => quotient + 1
  | .eq => quotient + quotient % 2

/-- The spacing of the magnitudes around a quotient is two to this power. -/
def spacing (dividend divisor : Nat) : Int :=
  let estimate : Int := (dividend.log2 : Int) - divisor.log2 - 53
  let fits := dividend * powerOfTwo (-estimate).toNat <
    divisor * powerOfTwo estimate.toNat * (2 * significandCount)
  max (-1074) (if fits then estimate else estimate + 1)

/-- The nearest magnitude to a quotient; past the largest finite one it is infinite. -/
def ofQuotient (isNegative : Bool) (dividend divisor : Nat) : Binary64 :=
  if dividend = 0 then zero isNegative
  else
    let power := spacing dividend divisor
    let rounded := roundQuotient (dividend * powerOfTwo (-power).toNat)
      (divisor * powerOfTwo power.toNat)
    let code := (power + 1074).toNat * significandCount + rounded
    if isFinite : code < magnitudeCount then .finite isNegative ⟨code, isFinite⟩
    else .infinite isNegative

/-- The nearest number to `digits * 10 ^ power`. Powers far outside the range of the finite
numbers are settled without computing them. -/
def ofDecimal (isNegative : Bool) (digits : Nat) (power : Int) : Binary64 :=
  let leading := power + (Nat.toDigits 10 digits).length
  if digits = 0 || leading < -400 then zero isNegative
  else if 400 < leading then .infinite isNegative
  else ofQuotient isNegative (digits * powerOfTen power.toNat) (powerOfTen (-power).toNat)

def ofInt (number : Int) : Binary64 :=
  ofQuotient (number < 0) number.natAbs 1

/-- A whole number too large for every finite number has none that represents it. -/
def ofInt? (number : Int) : Option Binary64 :=
  match ofInt number with
  | .finite isNegative code => some (.finite isNegative code)
  | _ => none

/-- The whole number that a number is equal to, if there is one. -/
def whole? : Binary64 → Option Int
  | .finite isNegative code =>
      let quotient : Int := (numerator code / denominator code : Nat)
      if numerator code % denominator code = 0 then
        some (if isNegative then -quotient else quotient)
      else none
  | _ => none

/-- The comparison of a whole number with a binary64 number is exact. -/
def isBelow (number : Binary64) (whole : Int) : Bool :=
  match number with
  | .notANumber => false
  | .infinite isNegative => isNegative
  | .finite isNegative code =>
      let signed : Int := if isNegative then -numerator code else numerator code
      signed < whole * denominator code

end Binary64

end UriTemplate
