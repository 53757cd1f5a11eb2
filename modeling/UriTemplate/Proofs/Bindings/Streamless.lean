import UriTemplate.Bindings

namespace UriTemplate

namespace Value

mutual

/-- A value without streams is not built anew. -/
theorem rebuild_of_streamless : ∀ {value : Value}, value.hasStream = false →
    value.rebuild? = none
  | .null, _ => rfl
  | .boolean _, _ => rfl
  | .integer _, _ => rfl
  | .number _, _ => rfl
  | .text _, _ => rfl
  | .octets _ _, _ => rfl
  | .sequence _ _, streamless => by
      rw [hasStream] at streamless
      rw [rebuild?, rebuildItems_of_streamless streamless]
      rfl
  | .mapping _, streamless => by
      rw [hasStream] at streamless
      rw [rebuild?, rebuildPairs_of_streamless streamless]
      rfl

theorem rebuildItems_of_streamless : ∀ {items : List Value}, itemsHaveStream items = false →
    rebuildItems? items = none
  | [], _ => rfl
  | item :: rest, streamless => by
      rw [itemsHaveStream, Bool.or_eq_false_iff] at streamless
      simp only [rebuildItems?, rebuild_of_streamless streamless.1,
        rebuildItems_of_streamless streamless.2]

theorem rebuildPairs_of_streamless : ∀ {pairs : List (Value × Value)},
    pairsHaveStream pairs = false → rebuildPairs? pairs = none
  | [], _ => rfl
  | (key, value) :: rest, streamless => by
      rw [pairsHaveStream, Bool.or_eq_false_iff] at streamless
      simp only [rebuildPairs?, rebuild_of_streamless streamless.1,
        rebuildPairs_of_streamless streamless.2]

end

mutual

/-- Reading takes nothing from a value without streams. -/
theorem drained_of_streamless : ∀ {value : Value}, value.hasStream = false →
    value.drained = value
  | .null, _ => rfl
  | .boolean _, _ => rfl
  | .integer _, _ => rfl
  | .number _, _ => rfl
  | .text _, _ => rfl
  | .octets _ _, _ => rfl
  | .sequence _ _, streamless => by
      rw [hasStream] at streamless
      rw [drained, drainedItems_of_streamless streamless]
  | .mapping _, streamless => by
      rw [hasStream] at streamless
      rw [drained, drainedPairs_of_streamless streamless]

theorem drainedItems_of_streamless : ∀ {items : List Value}, itemsHaveStream items = false →
    drainedItems items = items
  | [], _ => rfl
  | item :: rest, streamless => by
      rw [itemsHaveStream, Bool.or_eq_false_iff] at streamless
      rw [drainedItems, drained_of_streamless streamless.1,
        drainedItems_of_streamless streamless.2]

theorem drainedPairs_of_streamless : ∀ {pairs : List (Value × Value)},
    pairsHaveStream pairs = false → drainedPairs pairs = pairs
  | [], _ => rfl
  | (key, value) :: rest, streamless => by
      rw [pairsHaveStream, Bool.or_eq_false_iff] at streamless
      rw [drainedPairs, drained_of_streamless streamless.1,
        drainedPairs_of_streamless streamless.2]

end

/-- A value without streams is settled as it stands. -/
theorem settled_of_streamless {value : Value} (streamless : value.hasStream = false) :
    value.settled = value := by
  rw [settled, rebuild_of_streamless streamless]
  rfl

/-- Items have no stream just if none of them has one. -/
theorem itemsHaveStream_eq_false_iff {items : List Value} :
    itemsHaveStream items = false ↔ ∀ item ∈ items, item.hasStream = false := by
  induction items with
  | nil => simp [itemsHaveStream]
  | cons item rest inductionHypothesis => simp [itemsHaveStream, inductionHypothesis]

theorem pairsHaveStream_eq_false_iff {pairs : List (Value × Value)} :
    pairsHaveStream pairs = false ↔ ∀ pair ∈ pairs, pair.2.hasStream = false := by
  induction pairs with
  | nil => simp [pairsHaveStream]
  | cons pair rest inductionHypothesis => simp [pairsHaveStream, inductionHypothesis]

end Value

namespace Bindings

/-- No stream stands in any value, at any depth. -/
def Streamless (bindings : Bindings) : Prop :=
  ∀ binding ∈ bindings, binding.2.hasStream = false

instance (bindings : Bindings) : Decidable bindings.Streamless :=
  inferInstanceAs (Decidable (∀ binding ∈ bindings, binding.2.hasStream = false))

/-- Streamless bindings give streamless values; a missing name gives none at all. -/
theorem hasStream_value {bindings : Bindings} (streamless : bindings.Streamless) (name : Text) :
    (bindings.value name).hasStream = false := by
  unfold value
  cases found : bindings.lookup name with
  | none => rfl
  | some value =>
      obtain ⟨before, behind, rfl, -⟩ := List.lookup_eq_some_iff.mp found
      exact streamless (name, value) (by simp)

/-- Reading streamless bindings gives the value and leaves them as they are. -/
theorem read_of_streamless {bindings : Bindings} (streamless : bindings.Streamless)
    (name : Text) : bindings.read name = (bindings.value name, bindings) := by
  have unchanged : (bindings.map fun binding =>
      if binding.1 = name then (binding.1, binding.2.drained) else binding) = bindings := by
    refine (List.map_congr_left ?_).trans (List.map_id bindings)
    intro binding member
    rw [Value.drained_of_streamless (streamless binding member)]
    exact ite_self binding
  rw [read, Value.settled_of_streamless (hasStream_value streamless name), unchanged]

end Bindings

end UriTemplate
