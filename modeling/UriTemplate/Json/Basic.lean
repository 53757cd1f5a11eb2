import UriTemplate.Dictionary
import UriTemplate.Number.Shortest

/-
This file defines JSON documents and writes them in ASCII, on one line or indented.
-/

namespace UriTemplate

/-- The members of an object keep their order. -/
inductive Json
  | null
  | boolean (value : Bool)
  | integer (value : Int)
  | number (value : Binary64)
  | text (value : Text)
  | array (items : List Json)
  | object (members : List (Text × Json))

instance : Inhabited Json := ⟨.null⟩

namespace Json

def backslash : CodePoint := CodePoint.ofChar '\\'

def unitEscape (unit : Nat) : Text :=
  backslash :: CodePoint.ofChar 'u' :: Numeral.hexadecimalDigits 4 unit

/-- The characters that have an escape of one letter. -/
def letterEscapes : List (CodePoint × CodePoint) :=
  [('"', '"'), ('\\', '\\'), ('\n', 'n'), ('\r', 'r'), ('\t', 't'), ('\x08', 'b'),
    ('\x0c', 'f')].map fun escape => (CodePoint.ofChar escape.1, CodePoint.ofChar escape.2)

/-- Characters outside ASCII are written as one or two sixteen-bit units. -/
def escaped (codePoint : CodePoint) : Text :=
  match letterEscapes.lookup codePoint with
  | some letter => [backslash, letter]
  | none =>
      if codePoint.isBetween ' ' '~' then [codePoint]
      else if codePoint.value < 0x10000 then unitEscape codePoint.value
      else
        unitEscape (0xD800 + (codePoint.value - 0x10000) / 0x400) ++
          unitEscape (0xDC00 + (codePoint.value - 0x10000) % 0x400)

def quoted (text : Text) : Text :=
  CodePoint.ofChar '"' :: text.flatMap escaped ++ [CodePoint.ofChar '"']

def numberText : Binary64 → Text
  | .notANumber => "NaN"
  | .infinite false => "Infinity"
  | .infinite true => "-Infinity"
  | finite => finite.written

/-- With an indentation each item stands on a line of its own. -/
def lineBreak (indentation : Option Nat) (depth : Nat) : Text :=
  match indentation with
  | none => []
  | some width => CodePoint.ofChar '\n' :: List.replicate (width * depth) (CodePoint.ofChar ' ')

def enclosed (first last : Char) (indentation : Option Nat) (depth : Nat)
    (items : List Text) : Text :=
  if items.isEmpty then [CodePoint.ofChar first, CodePoint.ofChar last]
  else
    CodePoint.ofChar first :: lineBreak indentation (depth + 1) ++
      Text.join (CodePoint.ofChar ',' :: lineBreak indentation (depth + 1)) items ++
      lineBreak indentation depth ++ [CodePoint.ofChar last]

mutual

def writtenAt (indentation : Option Nat) (depth : Nat) : Json → Text
  | .null => "null"
  | .boolean true => "true"
  | .boolean false => "false"
  | .integer value => Numeral.ofInt value
  | .number value => numberText value
  | .text value => quoted value
  | .array items => enclosed '[' ']' indentation depth (itemTexts indentation (depth + 1) items)
  | .object members =>
      enclosed '\x7b' '\x7d' indentation depth (memberTexts indentation (depth + 1) members)

def itemTexts (indentation : Option Nat) (depth : Nat) : List Json → List Text
  | [] => []
  | item :: rest => item.writtenAt indentation depth :: itemTexts indentation depth rest

def memberTexts (indentation : Option Nat) (depth : Nat) : List (Text × Json) → List Text
  | [] => []
  | (name, value) :: rest =>
      (quoted name ++ ": " ++ value.writtenAt indentation depth) ::
        memberTexts indentation depth rest

end

def oneLine (json : Json) : Text :=
  json.writtenAt none 0

def indented (json : Json) (width : Nat) : Text :=
  json.writtenAt (some width) 0

end Json

end UriTemplate
