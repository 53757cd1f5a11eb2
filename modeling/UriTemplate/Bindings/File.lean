import UriTemplate.Bindings.Block
import UriTemplate.Json.Reader

/-
This file reads bindings from the text of a file, in block notation if the name of the file says
so and otherwise as JSON.
-/

namespace UriTemplate

mutual

/-- Arrays are lists and objects are mappings. -/
def Value.ofJson : Json → Value
  | .null => .null
  | .boolean value => .boolean value
  | .integer value => .integer value
  | .number value => .number value
  | .text value => .text value
  | .array items => .sequence .list (Value.ofJsonItems items)
  | .object members => .mapping (Value.ofJsonMembers members)

def Value.ofJsonItems : List Json → List Value
  | [] => []
  | item :: rest => Value.ofJson item :: Value.ofJsonItems rest

def Value.ofJsonMembers : List (Text × Json) → List (Value × Value)
  | [] => []
  | (name, value) :: rest => (.text name, Value.ofJson value) :: Value.ofJsonMembers rest

end

namespace BindingsFile

inductive Fault
  | unreadable (path : Text)
  | notMapping (path : Text)
  deriving DecidableEq

def Fault.message : Fault → Text
  | unreadable path => "Cannot read bindings from " ++ path ++ ": the text is malformed"
  | notMapping path => path ++ ": top-level value must be a mapping"

/-- The part of a path behind its last slash. -/
def fileName (path : Text) : Text :=
  (path.reverse.takeWhile fun codePoint => codePoint ≠ CodePoint.ofChar '/').reverse

/-- The last dot of a name and what follows it; a dot at either end starts no suffix. -/
def suffix (path : Text) : Text :=
  let name := fileName path
  let ending := (name.reverse.takeWhile fun codePoint => codePoint ≠ CodePoint.ofChar '.').reverse
  if ending.isEmpty || name.length ≤ ending.length + 1 then []
  else CodePoint.ofChar '.' :: ending

def hasBlockNotation (path : Text) : Bool :=
  [Text.ofString ".yaml", Text.ofString ".yml"].contains (Text.lowerAscii (suffix path))

/-- The bindings of a file, and the number of its keys that are no names. -/
structure Content where
  bindings : Bindings
  otherKeys : Nat

namespace Content

def nothing : Content := ⟨[], 0⟩

/-- Only a key that is a text can be the name of a variable. -/
def add (content : Content) (pair : Value × Value) : Content :=
  match pair.1 with
  | .text name => { content with bindings := content.bindings ++ [(name, pair.2)] }
  | _ => { content with otherKeys := content.otherKeys + 1 }

def ofPairs (pairs : List (Value × Value)) : Content :=
  pairs.foldl add nothing

/-- Every key counts. -/
def size (content : Content) : Nat :=
  content.bindings.length + content.otherKeys

/-- The given bindings win over those of the file. -/
def overriddenBy (content : Content) (bindings : Bindings) : Content :=
  { content with bindings := Dictionary.insertAll content.bindings bindings }

end Content

/-- A file that holds nothing binds nothing. -/
def read (path content : Text) : Except Fault Content :=
  let value :=
    if hasBlockNotation path then Block.read? content
    else (Json.read? content).map Value.ofJson
  match value with
  | none => .error (.unreadable path)
  | some .null => .ok .nothing
  | some (.mapping pairs) => .ok (.ofPairs pairs)
  | some _ => .error (.notMapping path)

end BindingsFile

end UriTemplate
