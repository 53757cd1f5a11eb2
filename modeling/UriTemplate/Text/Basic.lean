/-
This file defines the code points and texts that templates, values and messages are made of.
A lone surrogate is a code point like any other, so `Char` is too narrow.
-/

namespace UriTemplate

/-- A Unicode code point; surrogates are included. -/
structure CodePoint where
  value : Nat
  inRange : value < 0x110000
  deriving DecidableEq

namespace CodePoint

def ofChar (character : Char) : CodePoint :=
  ⟨character.toNat, by
    have valid := character.valid
    have sameValue : character.val.toNat = character.toNat := rfl
    simp only [UInt32.isValidChar, Nat.isValidChar] at valid
    rw [sameValue] at valid
    omega⟩

instance : Coe Char CodePoint := ⟨ofChar⟩

instance : Inhabited CodePoint := ⟨ofChar '?'⟩

def ofNat? (value : Nat) : Option CodePoint :=
  if inRange : value < 0x110000 then some ⟨value, inRange⟩ else none

def ofInt? : Int → Option CodePoint
  | .ofNat value => ofNat? value
  | .negSucc _ => none

/-- A surrogate is half of a pair and encodes no character by itself. -/
def isSurrogate (codePoint : CodePoint) : Bool :=
  0xD800 ≤ codePoint.value && codePoint.value ≤ 0xDFFF

/-- A surrogate has no character; the replacement character stands for it. -/
def toChar (codePoint : CodePoint) : Char :=
  if codePoint.isSurrogate then Char.ofNat 0xFFFD else Char.ofNat codePoint.value

def isBetween (codePoint : CodePoint) (first last : Char) : Bool :=
  first.toNat ≤ codePoint.value && codePoint.value ≤ last.toNat

def isDigit (codePoint : CodePoint) : Bool :=
  codePoint.isBetween '0' '9'

def isLetter (codePoint : CodePoint) : Bool :=
  codePoint.isBetween 'A' 'Z' || codePoint.isBetween 'a' 'z'

def isHexDigit (codePoint : CodePoint) : Bool :=
  codePoint.isDigit || codePoint.isBetween 'A' 'F' || codePoint.isBetween 'a' 'f'

/-- What a hexadecimal digit is worth. -/
def hexValue (digit : CodePoint) : Nat :=
  if digit.isDigit then digit.value - '0'.toNat
  else if digit.isBetween 'A' 'F' then digit.value - 'A'.toNat + 10
  else digit.value - 'a'.toNat + 10

theorem ext_value {first second : CodePoint} (same : first.value = second.value) :
    first = second := by
  cases first
  cases second
  simp_all

end CodePoint

/-- A text is counted, cut and compared by code points. -/
abbrev Text := List CodePoint

namespace Text

def ofString (string : String) : Text :=
  string.toList.map CodePoint.ofChar

instance : Coe String Text := ⟨ofString⟩

def toString (text : Text) : String :=
  String.ofList (text.map CodePoint.toChar)

/-- The code points from `start` up to `stop`; a range that reaches outside is cut back. -/
def slice (text : Text) (start stop : Nat) : Text :=
  (text.take stop).drop start

theorem slice_append (before middle behind : Text) :
    slice (before ++ (middle ++ behind)) before.length (before.length + middle.length) =
      middle := by
  rw [slice, List.take_length_add_append, List.drop_left]
  exact List.take_left

/-- The pieces between separators; there is always at least one piece. -/
def splitOn (separator : CodePoint) : Text → List Text
  | [] => [[]]
  | codePoint :: rest =>
      if codePoint = separator then [] :: splitOn separator rest
      else
        match splitOn separator rest with
        | [] => [[codePoint]]
        | piece :: pieces => (codePoint :: piece) :: pieces

def lines (text : Text) : List Text :=
  splitOn '\n' text

/-- The text before the first separator, and the text after it if there is one. -/
def cut (separator : CodePoint) : Text → Text × Option Text
  | [] => ([], none)
  | codePoint :: rest =>
      if codePoint = separator then ([], some rest)
      else (codePoint :: (cut separator rest).1, (cut separator rest).2)

def join (separator : Text) (pieces : List Text) : Text :=
  List.intercalate separator pieces

theorem join_cons {pieces : List Text} (separator piece : Text) (nonempty : pieces ≠ []) :
    join separator (piece :: pieces) = piece ++ separator ++ join separator pieces :=
  List.intercalate_cons_of_ne_nil nonempty

theorem join_eq_flatMap (separator first : Text) (rest : List Text) :
    join separator (first :: rest) = first ++ rest.flatMap (separator ++ ·) := by
  induction rest generalizing first with
  | nil => simp [join]
  | cons second rest inductionHypothesis =>
      rw [join_cons _ _ (List.cons_ne_nil second rest), inductionHypothesis,
        List.flatMap_cons, List.append_assoc, List.append_assoc]

theorem join_concat {pieces : List Text} (separator piece : Text) (nonempty : pieces ≠ []) :
    join separator (pieces ++ [piece]) = join separator pieces ++ separator ++ piece := by
  induction pieces with
  | nil => exact absurd rfl nonempty
  | cons first rest inductionHypothesis =>
      by_cases isLast : rest = []
      · simp [isLast, join]
      · rw [List.cons_append, join_cons _ _ (by simp), inductionHypothesis isLast,
          join_cons _ _ isLast]
        simp only [List.append_assoc]

def startsWith (text start : Text) : Bool :=
  start.isPrefixOf text

/-- Spaces are added on the right until the width is reached. -/
def padRight (text : Text) (width : Nat) : Text :=
  text ++ List.replicate (width - text.length) (CodePoint.ofChar ' ')

/-- This order compares code point by code point. -/
def precedes (first second : Text) : Bool :=
  decide (first.map CodePoint.value < second.map CodePoint.value)

/-- The ASCII capital letters become small; other code points stay. -/
def lowerAscii (text : Text) : Text :=
  text.map fun codePoint =>
    if codePoint.isBetween 'A' 'Z' then (CodePoint.ofNat? (codePoint.value + 32)).getD codePoint
    else codePoint

end Text

end UriTemplate
