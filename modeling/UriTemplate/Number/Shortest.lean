import UriTemplate.Number.Binary64

/-
This file writes a binary64 number with the fewest digits that read back as the same number.
-/

namespace UriTemplate

/-- The decimal number `digits * 10 ^ power`. -/
structure Decimal where
  digits : Nat
  power : Int
  deriving DecidableEq

namespace Decimal

def toBinary64 (decimal : Decimal) (isNegative : Bool) : Binary64 :=
  Binary64.ofDecimal isNegative decimal.digits decimal.power

def dropZeros : Nat → Decimal → Decimal
  | 0, decimal => decimal
  | limit + 1, decimal =>
      if decimal.digits ≠ 0 ∧ decimal.digits % 10 = 0 then
        dropZeros limit ⟨decimal.digits / 10, decimal.power + 1⟩
      else decimal

/-- The same number without trailing zeros in its digits. -/
def reduced (decimal : Decimal) : Decimal :=
  dropZeros (Nat.toDigits 10 decimal.digits).length decimal

/-- The exact value of a magnitude; every binary fraction is a decimal one. -/
def ofCode (code : Nat) : Decimal :=
  let power := Binary64.exponent code
  ⟨Binary64.numerator code * Nat.pow 5 (-power).toNat, min power 0⟩

/-- The number of digits before the point, or minus the number of zeros after it. -/
def pointPosition (decimal : Decimal) : Int :=
  decimal.power + (Nat.toDigits 10 decimal.digits).length

/-- The two neighbours of the exact value on the grid of the given power of ten. -/
def neighbours (exact : Decimal) (power : Int) : Decimal × Decimal :=
  let scale := (exact.power - power)
  let below := exact.digits * Binary64.powerOfTen scale.toNat / Binary64.powerOfTen (-scale).toNat
  (⟨below, power⟩, ⟨below + 1, power⟩)

/-- Whether the upper neighbour is nearer; on a tie the even one is taken. -/
def prefersUpper (exact lower : Decimal) : Bool :=
  let scale := exact.power - lower.power
  let twice := 2 * exact.digits * Binary64.powerOfTen scale.toNat
  let middle := (2 * lower.digits + 1) * Binary64.powerOfTen (-scale).toNat
  middle < twice || (middle = twice && lower.digits % 2 = 1)

/-- The neighbour on this grid that reads back as the magnitude, if there is one. -/
def candidate? (code : Fin magnitudeCount) (exact : Decimal) (power : Int) : Option Decimal :=
  let (lower, upper) := neighbours exact power
  let lowerReads := lower.toBinary64 false = .finite false code
  let upperReads := upper.toBinary64 false = .finite false code
  if lowerReads ∧ upperReads then some (if prefersUpper exact lower then upper else lower)
  else if lowerReads then some lower
  else if upperReads then some upper
  else none

/-- Grids of one digit, of two digits and so on are tried; the exact value always reads back. -/
def shortest (code : Fin magnitudeCount) : Decimal :=
  let exact := ofCode code
  let point := exact.pointPosition
  let found := (List.range 17).findSome? fun index : Nat =>
    candidate? code exact (point - (index + 1 : Nat))
  (found.getD exact).reduced

def zeros (count : Nat) : Text :=
  List.replicate count (CodePoint.ofChar '0')

/-- The digits with a point among them, before them or behind them. -/
def positional (digits : Text) (point : Int) : Text :=
  if point ≤ 0 then "0." ++ zeros (-point).toNat ++ digits
  else if digits.length ≤ point then digits ++ zeros (point.toNat - digits.length) ++ ".0"
  else digits.take point.toNat ++ "." ++ digits.drop point.toNat

/-- One digit stands before the point; the exponent has a sign and at least two digits. -/
def scientific (digits : Text) (point : Int) : Text :=
  let power := point - 1
  let sign : Text := if power < 0 then "-" else "+"
  let width : Text := if power.natAbs < 10 then "0" else ""
  let fraction : Text := if digits.length ≤ 1 then [] else "." ++ digits.drop 1
  digits.take 1 ++ fraction ++ "e" ++ sign ++ width ++ Numeral.ofNat power.natAbs

/-- Numbers from `0.0001` up to `10 ^ 16` are written without an exponent. -/
def written (decimal : Decimal) : Text :=
  let digits := Numeral.ofNat decimal.digits
  let point := decimal.pointPosition
  if -4 < point ∧ point ≤ 16 then positional digits point else scientific digits point

end Decimal

/-- The written form of a whole number keeps a point and a zero. -/
def Binary64.written : Binary64 → Text
  | .notANumber => "nan"
  | .infinite isNegative => (if isNegative then "-" else "") ++ "inf"
  | .finite isNegative code =>
      (if isNegative then "-" else "") ++
        (if code.val = 0 then Text.ofString "0.0" else (Decimal.shortest code).written)

end UriTemplate
