import UriTemplate.Number.Shortest
import UriTemplate.Text.Quoted
import UriTemplate.Value.Basic

/-
This file renders values as text: a scalar by itself, and a member of a collection in the
notation of literals. Whole numbers with too many digits cannot be written.
-/

namespace UriTemplate.Value

/-- A tuple of one item keeps a comma. -/
def bracketed (form : SequenceForm) (items : List Text) : Text :=
  match form, items with
  | .list, items => "[" ++ Text.join ", " items ++ "]"
  | .tuple, [item] => "(" ++ item ++ ",)"
  | .tuple, items => "(" ++ Text.join ", " items ++ ")"

def braced (pairs : List Text) : Text :=
  CodePoint.ofChar '\x7b' :: Text.join ", " pairs ++ [CodePoint.ofChar '\x7d']

mutual

/-- The notation that a value has as a member of a collection. -/
def literal : Value → Text
  | .null => "None"
  | .boolean true => "True"
  | .boolean false => "False"
  | .integer value => Numeral.ofInt value
  | .number value => value.written
  | .text value => Quoted.text value
  | .octets .fixed value => Quoted.octets value
  | .octets .growable value => "bytearray(" ++ Quoted.growableOctets value ++ ")"
  | .sequence form items => bracketed form (itemLiterals items)
  | .stream _ => "<stream>"
  | .mapping pairs => braced (pairLiterals pairs)

def itemLiterals : List Value → List Text
  | [] => []
  | item :: rest => item.literal :: itemLiterals rest

def pairLiterals : List (Value × Value) → List Text
  | [] => []
  | (key, value) :: rest => (key.literal ++ ": " ++ value.literal) :: pairLiterals rest

end

/-- A text stands for itself, octets for the text they encode, and a truth value is a word. -/
def toText : Value → Text
  | .text value => value
  | .boolean true => "true"
  | .boolean false => "false"
  | .octets _ value => Utf8.decode value
  | value => value.literal

mutual

/-- Whether no whole number in the notation of a value has too many digits. A stream shows none of
its items. -/
def isWritable : Value → Bool
  | .integer value => Numeral.isShort value
  | .sequence _ items => itemsWritable items
  | .mapping pairs => pairsWritable pairs
  | _ => true

def itemsWritable : List Value → Bool
  | [] => true
  | item :: rest => item.isWritable && itemsWritable rest

/-- The keys are written too. -/
def pairsWritable : List (Value × Value) → Bool
  | [] => true
  | (key, value) :: rest => key.isWritable && value.isWritable && pairsWritable rest

end

end UriTemplate.Value
