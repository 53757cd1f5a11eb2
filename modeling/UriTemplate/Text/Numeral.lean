import UriTemplate.Text.Basic

/-
This file writes whole numbers in base ten and sixteen, and reads runs of digits. It knows how many
decimal digits a number may have.
-/

namespace UriTemplate.Numeral

/-- The most decimal digits that a whole number is written with and read from. -/
def maximumDigits : Nat := 4300

/-- Whether a whole number has few enough digits to be written. -/
@[irreducible] def isShort (number : Int) : Bool :=
  number.natAbs < Nat.pow 10 maximumDigits

/-- What is said of a number with more digits. -/
def tooManyDigits : Text :=
  "Exceeds the limit (4300 digits) for integer string conversion; " ++
    "use sys.set_int_max_str_digits() to increase the limit"

def ofNat (number : Nat) : Text :=
  (Nat.toDigits 10 number).map CodePoint.ofChar

def ofInt : Int → Text
  | .ofNat number => ofNat number
  | .negSucc predecessor => CodePoint.ofChar '-' :: ofNat (predecessor + 1)

/-- The digits are small letters and follow a `0x` mark. -/
def hexadecimal : Int → Text
  | .ofNat number => Text.ofString "0x" ++ (Nat.toDigits 16 number).map CodePoint.ofChar
  | .negSucc predecessor =>
      Text.ofString "-0x" ++ (Nat.toDigits 16 (predecessor + 1)).map CodePoint.ofChar

/-- The last hexadecimal digits of a number, padded with zeros to the width. -/
def hexadecimalDigits (width number : Nat) : Text :=
  match width with
  | 0 => []
  | width + 1 =>
      hexadecimalDigits width (number / 16) ++ [CodePoint.ofChar (Nat.digitChar (number % 16))]

/-- The number that digits denote in a base of at most sixteen. -/
def valueIn (base : Nat) (digits : Text) : Nat :=
  digits.foldl (fun number digit => base * number + digit.hexValue) 0

/-- The number that a run of decimal digits denotes. -/
def value (digits : Text) : Nat :=
  digits.foldl (fun number digit => 10 * number + (digit.value - '0'.toNat)) 0

end UriTemplate.Numeral
