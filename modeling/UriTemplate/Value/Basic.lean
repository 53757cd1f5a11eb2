import UriTemplate.Number.Binary64
import UriTemplate.Text.Utf8

/-
This file defines the values that variables are bound to, and which of them are undefined.
-/

namespace UriTemplate

inductive SequenceForm
  | list
  | tuple
  deriving DecidableEq

inductive OctetsForm
  | fixed
  | growable
  deriving DecidableEq

/-- A stream yields its items once; every other value can be looked at again and again. -/
inductive Value
  | null
  | boolean (value : Bool)
  | integer (value : Int)
  | number (value : Binary64)
  | text (value : Text)
  | octets (form : OctetsForm) (value : List Octet)
  | sequence (form : SequenceForm) (items : List Value)
  | stream (items : List Value)
  | mapping (pairs : List (Value × Value))

instance : Inhabited Value := ⟨.null⟩

inductive ValueKind
  | undefined
  | scalar
  | sequence
  | mapping
  deriving DecidableEq

def ValueKind.name : ValueKind → Text
  | undefined => "undefined"
  | scalar => "scalar"
  | sequence => "sequence"
  | mapping => "mapping"

namespace Value

mutual

/-- A collection is undefined if all its members are, at every depth. -/
def isUndefined : Value → Bool
  | .null => true
  | .sequence _ items => itemsUndefined items
  | .stream items => itemsUndefined items
  | .mapping pairs => pairsUndefined pairs
  | _ => false

def itemsUndefined : List Value → Bool
  | [] => true
  | item :: rest => item.isUndefined && itemsUndefined rest

/-- The keys do not count. -/
def pairsUndefined : List (Value × Value) → Bool
  | [] => true
  | (_, value) :: rest => value.isUndefined && pairsUndefined rest

end

def isSequence : Value → Bool
  | .sequence .. => true
  | .stream _ => true
  | _ => false

def kind (value : Value) : ValueKind :=
  if value.isUndefined then .undefined
  else
    match value with
    | .mapping _ => .mapping
    | .sequence .. => .sequence
    | .stream _ => .sequence
    | _ => .scalar

/-- The name of the type, as messages give it. -/
def typeName : Value → Text
  | .null => "NoneType"
  | .boolean _ => "bool"
  | .integer _ => "int"
  | .number _ => "float"
  | .text _ => "str"
  | .octets .fixed _ => "bytes"
  | .octets .growable _ => "bytearray"
  | .sequence .list _ => "list"
  | .sequence .tuple _ => "tuple"
  | .stream _ => "generator"
  | .mapping _ => "dict"

def definedItems (items : List Value) : List Value :=
  items.filter fun item => !item.isUndefined

def definedPairs (pairs : List (Value × Value)) : List (Value × Value) :=
  pairs.filter fun pair => !pair.2.isUndefined

end Value

end UriTemplate
