import UriTemplate.Text.Invisible
import UriTemplate.Text.Numeral

/-
This file writes texts and octets between quotes, as they appear inside messages and lists.
-/

namespace UriTemplate.Quoted

def backslash : CodePoint := CodePoint.ofChar '\\'

def apostrophe : CodePoint := CodePoint.ofChar '\x27'

def doubleQuote : CodePoint := CodePoint.ofChar '"'

/-- Double quotes are used only for a text with an apostrophe and without a double quote. -/
def quote (text : Text) : CodePoint :=
  if text.contains apostrophe && !text.contains doubleQuote then doubleQuote else apostrophe

def letterEscape? (codePoint : CodePoint) : Option CodePoint :=
  if codePoint = '\t' then some 't'
  else if codePoint = '\n' then some 'n'
  else if codePoint = '\r' then some 'r'
  else none

/-- An invisible code point has two hexadecimal digits, or four or eight where two are too few. -/
def hexadecimalEscape (codePoint : CodePoint) : Text :=
  let (letter, width) :=
    if codePoint.value ≤ 0xFF then ('x', 2)
    else if codePoint.value ≤ 0xFFFF then ('u', 4)
    else ('U', 8)
  backslash :: CodePoint.ofChar letter :: Numeral.hexadecimalDigits width codePoint.value

def escape (mark codePoint : CodePoint) : Text :=
  if codePoint = mark || codePoint = backslash then [backslash, codePoint]
  else
    match letterEscape? codePoint with
    | some letter => [backslash, letter]
    | none => if Invisible.contains codePoint then hexadecimalEscape codePoint else [codePoint]

def text (text : Text) : Text :=
  let mark := quote text
  mark :: text.flatMap (escape mark) ++ [mark]

/-- An octet is shown as a character where that is visible ASCII. -/
def octet (mark codePoint : CodePoint) : Text :=
  if '~'.toNat < codePoint.value then hexadecimalEscape codePoint else escape mark codePoint

def characters (octets : List (Fin 256)) : Text :=
  octets.filterMap fun octet => CodePoint.ofNat? octet.val

def octets (octets : List (Fin 256)) : Text :=
  let mark := quote (characters octets)
  CodePoint.ofChar 'b' :: mark :: (characters octets).flatMap (octet mark) ++ [mark]

/-- In growable octets an apostrophe is escaped between double quotes too. -/
def growableOctets (octets : List (Fin 256)) : Text :=
  let mark := quote (characters octets)
  CodePoint.ofChar 'b' :: mark :: (characters octets).flatMap (octet apostrophe) ++ [mark]

end UriTemplate.Quoted
