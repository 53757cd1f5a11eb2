import UriTemplate.Number.Binary64
import UriTemplate.Text.DecimalDigit

/-
This file reads numbers from free text: blanks around them, a sign, single underscores between
digits and the digits of all scripts are allowed.
-/

namespace UriTemplate.Reading

/-- The white space of all scripts: tab to carriage return, the spaces, and the separators of
lines and paragraphs. -/
def isBlank (codePoint : CodePoint) : Bool :=
  (0x09 ≤ codePoint.value && codePoint.value ≤ 0x0D) ||
    (0x2000 ≤ codePoint.value && codePoint.value ≤ 0x200A) ||
    [0x20, 0x85, 0xA0, 0x1680, 0x2028, 0x2029, 0x202F, 0x205F, 0x3000].contains codePoint.value

def trim (text : Text) : Text :=
  ((text.dropWhile isBlank).reverse.dropWhile isBlank).reverse

/-- The text without the blanks around it, and with ASCII digits. -/
def normalized (text : Text) : Text :=
  (trim text).map DecimalDigit.ascii

/-- The sign is split off; the flag tells whether it is a minus. -/
def splitSign : Text → Bool × Text
  | [] => (false, [])
  | first :: rest =>
      if first = '-' then (true, rest)
      else if first = '+' then (false, rest)
      else (false, first :: rest)

/-- Underscores are taken out if each of them stands between two digits. -/
def ungroup? (afterDigit : Bool) : Text → Option Text
  | [] => some []
  | codePoint :: rest =>
      if codePoint = '_' then
        if afterDigit && rest.head?.any CodePoint.isDigit then ungroup? false rest else none
      else (ungroup? codePoint.isDigit rest).map (codePoint :: ·)

def isDigits (text : Text) : Bool :=
  !text.isEmpty && text.all CodePoint.isDigit

/-- Leading zeros count as digits of a whole number, but underscores do not. -/
def integer? (text : Text) : Option Int := do
  let (isNegative, unsigned) := splitSign (normalized text)
  let digits ← ungroup? false unsigned
  if isDigits digits && digits.length ≤ Numeral.maximumDigits then
    some (if isNegative then -Numeral.value digits else Numeral.value digits)
  else none

/-- An exponent is a sign and digits after an `e`; without the `e` it is zero. -/
def exponent? : Text → Option Int
  | [] => some 0
  | mark :: rest =>
      let (isNegative, digits) := splitSign rest
      if (mark = 'e' || mark = 'E') && isDigits digits then
        some (if isNegative then -Numeral.value digits else Numeral.value digits)
      else none

/-- Digits with an optional point and an optional exponent; a digit must stand somewhere
before the exponent. -/
def unsigned? (isNegative : Bool) (text : Text) : Option Binary64 := do
  let whole := text.takeWhile CodePoint.isDigit
  let afterWhole := text.dropWhile CodePoint.isDigit
  let hasPoint := afterWhole.head? = some (CodePoint.ofChar '.')
  let afterPoint := if hasPoint then afterWhole.drop 1 else afterWhole
  let fraction := if hasPoint then afterPoint.takeWhile CodePoint.isDigit else []
  let power ← exponent? (afterPoint.drop fraction.length)
  if (whole ++ fraction).isEmpty then none
  else some (Binary64.ofDecimal isNegative (Numeral.value (whole ++ fraction))
    (power - fraction.length))

/-- The words for infinity and for the missing number may be in any case. -/
def binary64? (text : Text) : Option Binary64 := do
  let (isNegative, unsigned) := splitSign (normalized text)
  let word := unsigned.lowerAscii
  if word = Text.ofString "inf" || word = Text.ofString "infinity" then
    some (.infinite isNegative)
  else if word = Text.ofString "nan" then some .notANumber
  else
    let ungrouped ← ungroup? false unsigned
    unsigned? isNegative ungrouped

end UriTemplate.Reading
