import UriTemplate.Value.Basic

/-
This file turns the streams inside a value into lists, and says what is left of a value whose
streams have been read.
-/

namespace UriTemplate.Value

mutual

/-- Whether a stream stands anywhere in the value. -/
def hasStream : Value → Bool
  | .stream _ => true
  | .sequence _ items => itemsHaveStream items
  | .mapping pairs => pairsHaveStream pairs
  | _ => false

def itemsHaveStream : List Value → Bool
  | [] => false
  | item :: rest => item.hasStream || itemsHaveStream rest

def pairsHaveStream : List (Value × Value) → Bool
  | [] => false
  | (_, value) :: rest => value.hasStream || pairsHaveStream rest

end

mutual

/-- The value with lists for its streams, or nothing if it can stay as it is. A collection is
built anew only around a member that was built anew, and then as a list or a mapping. -/
def rebuild? : Value → Option Value
  | .stream items => some (.sequence .list ((rebuildItems? items).getD items))
  | .sequence _ items => (rebuildItems? items).map (.sequence .list)
  | .mapping pairs => (rebuildPairs? pairs).map .mapping
  | _ => none

def rebuildItems? : List Value → Option (List Value)
  | [] => none
  | item :: rest =>
      match item.rebuild?, rebuildItems? rest with
      | none, none => none
      | newItem, newRest => some (newItem.getD item :: newRest.getD rest)

def rebuildPairs? : List (Value × Value) → Option (List (Value × Value))
  | [] => none
  | (key, value) :: rest =>
      match value.rebuild?, rebuildPairs? rest with
      | none, none => none
      | newValue, newRest => some ((key, newValue.getD value) :: newRest.getD rest)

end

/-- A value that can be looked at twice. -/
def settled (value : Value) : Value :=
  value.rebuild?.getD value

/-- Whether settling gives back the very value, and not a copy. -/
def staysItself (value : Value) : Bool :=
  value.rebuild?.isNone

mutual

/-- A stream that has been read is empty. -/
def drained : Value → Value
  | .stream _ => .stream []
  | .sequence form items => .sequence form (drainedItems items)
  | .mapping pairs => .mapping (drainedPairs pairs)
  | value => value

def drainedItems : List Value → List Value
  | [] => []
  | item :: rest => item.drained :: drainedItems rest

def drainedPairs : List (Value × Value) → List (Value × Value)
  | [] => []
  | (key, value) :: rest => (key, value.drained) :: drainedPairs rest

end

end UriTemplate.Value
