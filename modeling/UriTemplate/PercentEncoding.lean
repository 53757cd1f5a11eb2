import UriTemplate.CharacterClass
import UriTemplate.Text.Utf8

/-
This file writes texts with the characters a URI may hold, one `%XX` triplet for each octet of
any other character, and reads the octets of such a text back.
-/

namespace UriTemplate.PercentEncoding

def hexDigit (number : Nat) : CodePoint :=
  CodePoint.ofChar (Nat.digitChar (number % 16)).toUpper

theorem isHexDigit_hexDigit (number : Nat) : (hexDigit number).isHexDigit = true := by
  have digits : ∀ digit < 16,
      (CodePoint.ofChar (Nat.digitChar digit).toUpper).isHexDigit = true := by decide
  exact digits (number % 16) (Nat.mod_lt number (by decide))

def triplet (octet : Octet) : Text :=
  [CodePoint.ofChar '%', hexDigit (octet.val / 16), hexDigit (octet.val % 16)]

def triplets (octets : List Octet) : Text :=
  octets.flatMap triplet

def isTriplet (first second third : CodePoint) : Bool :=
  first = '%' && CharacterTable.hexDigits.contains second.value &&
    CharacterTable.hexDigits.contains third.value

theorem isTriplet_iff {first second third : CodePoint} :
    isTriplet first second third = true ↔
      first = CodePoint.ofChar '%' ∧ second.isHexDigit = true ∧ third.isHexDigit = true := by
  simp [isTriplet, CodePoint.contains_tables, and_assoc]

/-- Reserved characters are kept only where they keep their meaning. -/
def isKept (allowReserved : Bool) (codePoint : CodePoint) : Bool :=
  CharacterTable.unreserved.contains codePoint.value ||
    (allowReserved && CharacterTable.reserved.contains codePoint.value)

theorem isKept_eq (allowReserved : Bool) (codePoint : CodePoint) :
    isKept allowReserved codePoint =
      (codePoint.isUnreserved || (allowReserved && codePoint.isReserved)) := by
  simp only [isKept, CodePoint.contains_tables]

theorem ne_percent_of_isKept {allowReserved : Bool} {codePoint : CodePoint}
    (kept : isKept allowReserved codePoint = true) : codePoint ≠ CodePoint.ofChar '%' := by
  rintro rfl
  cases allowReserved <;> exact absurd kept (by decide)

def encodeOne (allowReserved : Bool) (codePoint : CodePoint) : Text :=
  if isKept allowReserved codePoint then [codePoint] else triplets (Utf8.octets codePoint)

/-- A triplet that is already there passes through, whatever the case of its digits. -/
def encode (allowReserved : Bool) : Text → Text
  | [] => []
  | first :: second :: third :: rest =>
      if isTriplet first second third then first :: second :: third :: encode allowReserved rest
      else encodeOne allowReserved first ++ encode allowReserved (second :: third :: rest)
  | first :: rest => encodeOne allowReserved first ++ encode allowReserved rest

/-- The window is the given number of code points; a triplet counts only if it lies inside. -/
def encodeFirst (allowReserved : Bool) : Nat → Text → Text
  | 0, _ => []
  | _, [] => []
  | window + 3, first :: second :: third :: rest =>
      if isTriplet first second third then
        first :: second :: third :: encodeFirst allowReserved window rest
      else encodeOne allowReserved first ++
        encodeFirst allowReserved (window + 2) (second :: third :: rest)
  | window + 1, first :: rest =>
      encodeOne allowReserved first ++ encodeFirst allowReserved window rest

/-- The code points from `start` up to `stop`, or up to the end of the text, are encoded. -/
def encodeRange (allowReserved : Bool) (text : Text) (start : Nat) (stop : Option Nat) : Text :=
  encodeFirst allowReserved (stop.getD text.length - start) (text.drop start)

def encodeLiteral (text : Text) : Text :=
  encode true text

/-- The octets that a text stands for: those of its triplets and of its other characters. -/
def decode : Text → List Octet
  | [] => []
  | first :: second :: third :: rest =>
      if isTriplet first second third then
        Fin.ofNat 256 (16 * second.hexValue + third.hexValue) :: decode rest
      else Utf8.octets first ++ decode (second :: third :: rest)
  | first :: rest => Utf8.octets first ++ decode rest

end UriTemplate.PercentEncoding
