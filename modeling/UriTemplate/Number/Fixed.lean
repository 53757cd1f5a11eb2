import UriTemplate.Number.Shortest

/-
This file writes binary64 numbers with a fixed number of decimal places.
-/

namespace UriTemplate.Binary64

/-- The digits of a whole number, with a point in front of the last places. -/
def withPoint (places number : Nat) : Text :=
  let digits := Numeral.ofNat number
  let padded := Decimal.zeros (places + 1 - digits.length) ++ digits
  padded.take (padded.length - places) ++ "." ++ padded.drop (padded.length - places)

/-- The exact value is rounded to the nearest last place; a tie goes to the even digit. -/
def fixed (places : Nat) : Binary64 → Text
  | .notANumber => "nan"
  | .infinite isNegative => (if isNegative then "-" else "") ++ "inf"
  | .finite isNegative code =>
      (if isNegative then "-" else "") ++
        withPoint places
          (roundQuotient (numerator code * powerOfTen places) (denominator code))

end UriTemplate.Binary64
