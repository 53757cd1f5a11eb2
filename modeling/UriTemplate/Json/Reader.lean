import UriTemplate.Json.Basic
import UriTemplate.Number.Reading

/-
This file reads JSON texts. The words `NaN`, `Infinity` and `-Infinity` are numbers here, and a
number with a point or an exponent is a binary64 number.
-/

namespace UriTemplate.Json.Reader

def isBlank (codePoint : CodePoint) : Bool :=
  (Text.ofString " \t\n\r").contains codePoint

def skipBlanks (text : Text) : Text :=
  text.dropWhile isBlank

def dropWord? (word : String) (text : Text) : Option Text :=
  if text.startsWith (Text.ofString word) then some (text.drop word.length) else none

def hexValue? (digits : Text) : Option Nat :=
  if digits.length = 4 && digits.all CodePoint.isHexDigit then
    some (Numeral.valueIn 16 digits)
  else none

/-- The unit of a `\u` escape at the front of a text. -/
def unit? : Text → Option (Nat × Text)
  | first :: second :: rest =>
      if first = backslash && second = 'u' then
        (hexValue? (rest.take 4)).map fun unit => (unit, rest.drop 4)
      else none
  | _ => none

/-- A high and a low surrogate that follow each other are one character. -/
def joinUnits (high low : Nat) : Option Nat :=
  if 0xD800 ≤ high ∧ high ≤ 0xDBFF ∧ 0xDC00 ≤ low ∧ low ≤ 0xDFFF then
    some (0x10000 + (high - 0xD800) * 0x400 + (low - 0xDC00))
  else none

/-- The character of the escape at the front of a text. -/
def escape? (text : Text) : Option (CodePoint × Text) :=
  match unit? text with
  | some (unit, rest) =>
      match (unit? rest).bind fun next =>
          (joinUnits unit next.1).map fun value => (value, next.2) with
      | some (value, rest) => (CodePoint.ofNat? value).map fun codePoint => (codePoint, rest)
      | none => (CodePoint.ofNat? unit).map fun codePoint => (codePoint, rest)
  | none =>
      match text with
      | _ :: letter :: rest =>
          if letter = '/' then some (letter, rest)
          else ((letterEscapes.find? fun pair => pair.2 = letter).map
            fun pair => (pair.1, rest))
      | _ => none

/-- The characters up to the closing quotation mark; control characters are refused. -/
def characters? : Nat → Text → Option (Text × Text)
  | 0, _ => none
  | _, [] => none
  | limit + 1, first :: rest =>
      if first = '"' then some ([], rest)
      else if first = backslash then do
        let (codePoint, rest) ← escape? (first :: rest)
        let (following, rest) ← characters? limit rest
        pure (codePoint :: following, rest)
      else if first.value < 0x20 then none
      else do
        let (following, rest) ← characters? limit rest
        pure (first :: following, rest)

/-- A fraction or an exponent needs at least one digit; otherwise the number ends before it. -/
def fraction (text : Text) : Text :=
  match text with
  | [] => []
  | point :: rest =>
      let digits := rest.takeWhile CodePoint.isDigit
      if point = '.' && !digits.isEmpty then point :: digits else []

def exponent (text : Text) : Text :=
  match text with
  | [] => []
  | mark :: rest =>
      let sign := (rest.take 1).filter fun (codePoint : CodePoint) =>
        codePoint = '+' || codePoint = '-'
      let digits := (rest.drop sign.length).takeWhile CodePoint.isDigit
      if (mark = 'e' || mark = 'E') && !digits.isEmpty then mark :: sign ++ digits else []

/-- A whole part is a zero, or digits that do not start with one. -/
def whole? (text : Text) : Option Text :=
  match text.takeWhile CodePoint.isDigit with
  | [] => none
  | first :: digits => some (if first = '0' then [first] else first :: digits)

def number? (text : Text) : Option (Json × Text) := do
  let sign := (text.take 1).filter fun (codePoint : CodePoint) => codePoint = '-'
  let whole ← whole? (text.drop sign.length)
  let afterWhole := text.drop (sign.length + whole.length)
  let fraction := fraction afterWhole
  let exponent := exponent (afterWhole.drop fraction.length)
  let rest := afterWhole.drop (fraction.length + exponent.length)
  if fraction.isEmpty && exponent.isEmpty then
    let magnitude : Int := Numeral.value whole
    pure (.integer (if sign.isEmpty then magnitude else -magnitude), rest)
  else do
    let value ← Reading.unsigned? (!sign.isEmpty) (whole ++ fraction ++ exponent)
    pure (.number value, rest)

def words : List (String × Json) :=
  [("null", .null), ("true", .boolean true), ("false", .boolean false),
    ("NaN", .number .notANumber), ("Infinity", .number (.infinite false)),
    ("-Infinity", .number (.infinite true))]

def word? (text : Text) : Option (Json × Text) :=
  words.findSome? fun word => (dropWord? word.1 text).map fun rest => (word.2, rest)

mutual

/-- The limit bounds the nesting; every level of it takes at least one code point. -/
def value? (limit : Nat) (text : Text) : Option (Json × Text) :=
  match limit with
  | 0 => none
  | limit + 1 =>
      match text with
      | [] => none
      | first :: rest =>
          if first = '"' then
            (characters? (rest.length + 1) rest).map fun read => (.text read.1, read.2)
          else if first = '[' then
            match skipBlanks rest with
            | [] => none
            | next :: others =>
                if next = ']' then some (.array [], others)
                else (items? limit (next :: others)).map fun read => (.array read.1, read.2)
          else if first = '\x7b' then
            match skipBlanks rest with
            | [] => none
            | next :: others =>
                if next = '\x7d' then some (.object [], others)
                else (members? limit (next :: others)).map fun read =>
                  (.object (Dictionary.insertAll [] read.1), read.2)
          else (word? (first :: rest)).or (number? (first :: rest))

/-- The items up to the closing bracket, of which there is at least one. -/
def items? (limit : Nat) (text : Text) : Option (List Json × Text) :=
  match limit with
  | 0 => none
  | limit + 1 => do
      let (item, rest) ← value? limit text
      match skipBlanks rest with
      | [] => none
      | mark :: rest =>
          if mark = ']' then pure ([item], rest)
          else if mark = ',' then do
            let (following, rest) ← items? limit (skipBlanks rest)
            pure (item :: following, rest)
          else none

/-- The members up to the closing brace, of which there is at least one. -/
def members? (limit : Nat) (text : Text) : Option (List (Text × Json) × Text) :=
  match limit with
  | 0 => none
  | limit + 1 =>
      match text with
      | [] => none
      | quotation :: rest => do
          let (name, rest) ←
            if quotation = '"' then characters? (rest.length + 1) rest else none
          match skipBlanks rest with
          | [] => none
          | colon :: rest => do
              let (value, rest) ←
                if colon = ':' then value? limit (skipBlanks rest) else none
              match skipBlanks rest with
              | [] => none
              | mark :: rest =>
                  if mark = '\x7d' then pure ([(name, value)], rest)
                  else if mark = ',' then do
                    let (following, rest) ← members? limit (skipBlanks rest)
                    pure ((name, value) :: following, rest)
                  else none

end

end Reader

/-- Blanks may stand around the one value of a text. A repeated name keeps its first place and
its last value. -/
def read? (text : Text) : Option Json := do
  let (json, rest) ← Reader.value? (2 * text.length + 2) (Reader.skipBlanks text)
  if (Reader.skipBlanks rest).isEmpty then some json else none

end UriTemplate.Json
