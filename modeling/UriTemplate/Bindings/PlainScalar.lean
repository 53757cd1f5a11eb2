import UriTemplate.Number.Reading
import UriTemplate.Value.Basic

/-
This file gives the plain scalars of the block notation their meaning: words of truth, of nothing
and of infinity, numbers, and texts.
-/

namespace UriTemplate.PlainScalar

def nothingWords : List Text := ["~", "null", "Null", "NULL", ""]

def trueWords : List Text :=
  ["true", "True", "TRUE", "yes", "Yes", "YES", "on", "On", "ON"]

def falseWords : List Text :=
  ["false", "False", "FALSE", "no", "No", "NO", "off", "Off", "OFF"]

def infinityWords : List Text := [".inf", ".Inf", ".INF"]

def notANumberWords : List Text := [".nan", ".NaN", ".NAN"]

/-- The word for a value by default, which is a text as a key and means nothing elsewhere. -/
def defaultWord : Text := "="

/-- The word that merges a mapping into another. -/
def mergeWord : Text := "<<"

/-- Digits may be grouped with underscores anywhere. -/
def isRun (isDigit : CodePoint → Bool) (text : Text) : Bool :=
  !text.isEmpty && text.all fun codePoint => isDigit codePoint || codePoint = '_'

def startsWithDigit (text : Text) : Bool :=
  text.head?.any CodePoint.isDigit

def ungrouped (text : Text) : Text :=
  text.filter fun codePoint => codePoint ≠ CodePoint.ofChar '_'

/-- A mark behind a leading zero tells the base; without one the number is octal. -/
def based? (behindZero : Text) : Option Nat :=
  let inBase (base : Nat) (isDigit : CodePoint → Bool) (digits : Text) : Option Nat :=
    if isRun isDigit digits then some (Numeral.valueIn base (ungrouped digits)) else none
  match behindZero with
  | [] => some 0
  | mark :: digits =>
      if mark = 'b' then inBase 2 (CodePoint.isBetween · '0' '1') digits
      else if mark = 'x' then inBase 16 CodePoint.isHexDigit digits
      else inBase 8 (CodePoint.isBetween · '0' '7') (mark :: digits)

/-- What stands behind a colon counts minutes or seconds. -/
def isSixtieth (text : Text) : Bool :=
  Reading.isDigits text && text.length ≤ 2 && Numeral.value text < 60

/-- Decimal digits, which may go on in steps of sixty. -/
def sixties? (text : Text) : Option Nat :=
  match Text.splitOn ':' text with
  | [] => none
  | first :: rest =>
      if startsWithDigit first && isRun CodePoint.isDigit first && rest.all isSixtieth then
        some (rest.foldl (fun number part => 60 * number + Numeral.value part)
          (Numeral.value (ungrouped first)))
      else none

def wholeNumber? (text : Text) : Option Int :=
  let (isNegative, unsigned) := Reading.splitSign text
  let magnitude :=
    if unsigned.head? = some (CodePoint.ofChar '0') then based? (unsigned.drop 1)
    else sixties? unsigned
  magnitude.map fun (number : Nat) => if isNegative then -(number : Int) else number

/-- An exponent needs its sign. -/
def isExponent : Text → Bool
  | mark :: sign :: digits =>
      (mark = 'e' || mark = 'E') && (sign = '+' || sign = '-') && Reading.isDigits digits
  | _ => false

/-- Digits with a point. Without a digit in front of the point there is no sign. -/
def isPointNumber (text : Text) : Bool :=
  let unsigned := (Reading.splitSign text).2
  let (whole, afterPoint) := Text.cut '.' unsigned
  let isFraction (codePoint : CodePoint) : Bool := codePoint.isDigit || codePoint = '_'
  afterPoint.any fun after =>
    let fraction := after.takeWhile isFraction
    let exponent := after.dropWhile isFraction
    (exponent.isEmpty || isExponent exponent) &&
      (if whole.isEmpty then startsWithDigit fraction && unsigned = text
        else startsWithDigit whole && isRun CodePoint.isDigit whole)

def number? (text : Text) : Option Binary64 :=
  if notANumberWords.contains text then some .notANumber
  else if infinityWords.contains (Reading.splitSign text).2 then
    some (.infinite (Reading.splitSign text).1)
  else if isPointNumber text then Reading.binary64? (ungrouped text)
  else none

/-- Text that is no word and no number stands for itself. -/
def value? (text : Text) : Option Value :=
  if text = defaultWord || text = mergeWord then none
  else if nothingWords.contains text then some .null
  else if trueWords.contains text then some (.boolean true)
  else if falseWords.contains text then some (.boolean false)
  else
    match wholeNumber? text, number? text with
    | some number, _ => some (.integer number)
    | none, some number => some (.number number)
    | none, none => some (.text text)

def key? (text : Text) : Option Value :=
  if text = defaultWord then some (.text text) else value? text

end UriTemplate.PlainScalar
