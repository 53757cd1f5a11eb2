import UriTemplate.Text.Basic

/-
This file takes out of a text the sequences that colour a terminal or move its cursor.
-/

namespace UriTemplate.CommandLine.Escapes

def escape : CodePoint := CodePoint.ofChar '\x1b'

/-- Digits, and the marks that divide numbers or make a sequence private. -/
def isParameter (codePoint : CodePoint) : Bool :=
  codePoint.isBetween '0' '?'

/-- These marks stand between the parameters and the final character. -/
def isIntermediate (codePoint : CodePoint) : Bool :=
  codePoint.isBetween ' ' '/'

def isFinal (codePoint : CodePoint) : Bool :=
  codePoint.isBetween '@' '~'

/-- A sequence behind an escape character is a bracket, parameters, intermediate marks and one
final character; anything else has length zero. -/
def sequenceLength : Text → Nat
  | [] => 0
  | bracket :: rest =>
      let parameters := rest.takeWhile isParameter
      let marks := (rest.dropWhile isParameter).takeWhile isIntermediate
      let ending := (rest.dropWhile isParameter).dropWhile isIntermediate
      if bracket = '[' && ending.head?.any isFinal then parameters.length + marks.length + 2
      else 0

/-- The first code points, as many as are hidden, belong to a sequence. -/
def removeFrom (hidden : Nat) : Text → Text
  | [] => []
  | first :: rest =>
      match hidden with
      | others + 1 => removeFrom others rest
      | 0 =>
          if first = escape && sequenceLength rest ≠ 0 then
            removeFrom (sequenceLength rest) rest
          else first :: removeFrom 0 rest

def remove (text : Text) : Text :=
  removeFrom 0 text

end UriTemplate.CommandLine.Escapes
