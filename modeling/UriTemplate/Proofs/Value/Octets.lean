import UriTemplate.Proofs.Text.Utf8Reading
import UriTemplate.Proofs.Value.Settled
import UriTemplate.Value.Written
import Mathlib.Data.List.Forall2

namespace UriTemplate.Value

/-- The second value is the first one, or the octets of the text that the first one is. -/
inductive LaidOut : Value → Value → Prop
  | same (value : Value) : LaidOut value value
  | octets (form : OctetsForm) {text : Text}
      (noSurrogate : ∀ codePoint ∈ text, codePoint.isSurrogate = false) :
      LaidOut (.text text) (.octets form (Utf8.encode text))

structure PairLaidOut (first second : Value × Value) : Prop where
  key : LaidOut first.1 second.1
  value : LaidOut first.2 second.2

/-- The value is laid out, or some members of a collection are. What stands deeper in the members is
written in the notation of literals, which tells octets from texts. -/
inductive LaidOutWithin : Value → Value → Prop
  | whole {first second : Value} (laidOut : LaidOut first second) : LaidOutWithin first second
  | sequence (form : SequenceForm) {first second : List Value}
      (items : List.Forall₂ LaidOut first second) :
      LaidOutWithin (.sequence form first) (.sequence form second)
  | stream {first second : List Value} (items : List.Forall₂ LaidOut first second) :
      LaidOutWithin (.stream first) (.stream second)
  | mapping {first second : List (Value × Value)} (pairs : List.Forall₂ PairLaidOut first second) :
      LaidOutWithin (.mapping first) (.mapping second)

namespace LaidOut

variable {first second : Value} (laidOut : LaidOut first second)

include laidOut

/-- Octets have the text that they encode. -/
theorem toText : second.toText = first.toText := by
  cases laidOut with
  | same => rfl
  | octets form noSurrogate => exact Utf8.decode_encode noSurrogate

/-- Octets are defined as texts are. -/
theorem isUndefined : second.isUndefined = first.isUndefined := by
  cases laidOut <;> rfl

theorem hasStream : second.hasStream = first.hasStream := by
  cases laidOut <;> rfl

/-- Octets and texts are settled as they stand. -/
theorem settled : LaidOut first.settled second.settled := by
  cases laidOut with
  | same => exact .same _
  | octets form noSurrogate => exact .octets form noSurrogate

theorem drained : LaidOut first.drained second.drained := by
  cases laidOut with
  | same => exact .same _
  | octets form noSurrogate => exact .octets form noSurrogate

end LaidOut

section Lists

variable {first second : List Value} (laidOut : List.Forall₂ LaidOut first second)

include laidOut

/-- Octets bring no stream among items. -/
theorem itemsHaveStream_laidOut : itemsHaveStream second = itemsHaveStream first := by
  induction laidOut with
  | nil => rfl
  | cons here _ inductionHypothesis =>
      rw [itemsHaveStream, itemsHaveStream, here.hasStream, inductionHypothesis]

/-- Octets do not change whether items are undefined. -/
theorem itemsUndefined_laidOut : itemsUndefined second = itemsUndefined first := by
  induction laidOut with
  | nil => rfl
  | cons here _ inductionHypothesis =>
      rw [itemsUndefined, itemsUndefined, here.isUndefined, inductionHypothesis]

/-- Settled items differ by octets if the items do. -/
theorem settled_items_laidOut :
    List.Forall₂ LaidOut (first.map settled) (second.map settled) := by
  rw [List.forall₂_map_left_iff, List.forall₂_map_right_iff]
  exact laidOut.imp fun _ _ item => item.settled

/-- Drained items differ by octets if the items do. -/
theorem drainedItems_laidOut :
    List.Forall₂ LaidOut (drainedItems first) (drainedItems second) := by
  induction laidOut with
  | nil => exact .nil
  | cons here _ inductionHypothesis => exact .cons here.drained inductionHypothesis

/-- The same items are defined. -/
theorem definedItems_laidOut : List.Forall₂ LaidOut (definedItems first) (definedItems second) := by
  refine List.rel_filter (fun first second item => ?_) laidOut
  change (!first.isUndefined) = true ↔ (!second.isUndefined) = true
  rw [item.isUndefined]

end Lists

section Pairs

variable {first second : List (Value × Value)} (laidOut : List.Forall₂ PairLaidOut first second)

include laidOut

theorem pairsUndefined_laidOut : pairsUndefined second = pairsUndefined first := by
  induction laidOut with
  | nil => rfl
  | cons here _ inductionHypothesis =>
      rw [pairsUndefined, pairsUndefined, here.value.isUndefined, inductionHypothesis]

theorem settled_pairs_laidOut :
    List.Forall₂ PairLaidOut (first.map fun pair => (pair.1, pair.2.settled))
      (second.map fun pair => (pair.1, pair.2.settled)) := by
  rw [List.forall₂_map_left_iff, List.forall₂_map_right_iff]
  exact laidOut.imp fun _ _ pair => ⟨pair.key, pair.value.settled⟩

theorem drainedPairs_laidOut :
    List.Forall₂ PairLaidOut (drainedPairs first) (drainedPairs second) := by
  induction laidOut with
  | nil => exact .nil
  | cons here _ inductionHypothesis =>
      exact .cons ⟨here.key, here.value.drained⟩ inductionHypothesis

theorem definedPairs_laidOut :
    List.Forall₂ PairLaidOut (definedPairs first) (definedPairs second) := by
  refine List.rel_filter (fun first second pair => ?_) laidOut
  change (!first.2.isUndefined) = true ↔ (!second.2.isUndefined) = true
  rw [pair.value.isUndefined]

end Pairs

namespace LaidOutWithin

variable {first second : Value} (laidOut : LaidOutWithin first second)

include laidOut

/-- Octets within a value do not change whether it is undefined. -/
theorem isUndefined : second.isUndefined = first.isUndefined := by
  cases laidOut with
  | whole laidOut => exact laidOut.isUndefined
  | sequence form items => exact itemsUndefined_laidOut items
  | stream items => exact itemsUndefined_laidOut items
  | mapping pairs => exact pairsUndefined_laidOut pairs

/-- Settled values differ by octets if the values do. -/
theorem settled : LaidOutWithin first.settled second.settled := by
  cases laidOut with
  | whole laidOut => exact .whole laidOut.settled
  | sequence form items =>
      rw [settled_of_sequence, settled_of_sequence, itemsHaveStream_laidOut items]
      exact .sequence _ (settled_items_laidOut items)
  | stream items =>
      rw [settled_of_stream, settled_of_stream]
      exact .sequence _ (settled_items_laidOut items)
  | mapping pairs =>
      rw [settled_of_mapping, settled_of_mapping]
      exact .mapping (settled_pairs_laidOut pairs)

theorem drained : LaidOutWithin first.drained second.drained := by
  cases laidOut with
  | whole laidOut => exact .whole laidOut.drained
  | sequence form items => exact .sequence form (drainedItems_laidOut items)
  | stream items => exact .stream .nil
  | mapping pairs => exact .mapping (drainedPairs_laidOut pairs)

end LaidOutWithin

end UriTemplate.Value
