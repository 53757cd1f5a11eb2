import UriTemplate.Value.Basic

namespace UriTemplate.Value

/-- Undefined items leave no defined one. -/
theorem itemsUndefined_iff {items : List Value} :
    itemsUndefined items = true ↔ definedItems items = [] := by
  induction items with
  | nil => simp [itemsUndefined, definedItems]
  | cons item rest inductionHypothesis =>
      rw [itemsUndefined, Bool.and_eq_true, inductionHypothesis, definedItems, definedItems,
        List.filter_cons]
      by_cases isUndefined : item.isUndefined = true <;> simp [isUndefined]

theorem pairsUndefined_iff {pairs : List (Value × Value)} :
    pairsUndefined pairs = true ↔ definedPairs pairs = [] := by
  induction pairs with
  | nil => simp [pairsUndefined, definedPairs]
  | cons pair rest inductionHypothesis =>
      rw [pairsUndefined, Bool.and_eq_true, inductionHypothesis, definedPairs, definedPairs,
        List.filter_cons]
      by_cases isUndefined : pair.2.isUndefined = true <;> simp [isUndefined]

/-- Items are undefined if each of them is. -/
theorem itemsUndefined_iff_forall {items : List Value} :
    itemsUndefined items = true ↔ ∀ item ∈ items, item.isUndefined = true := by
  simp [itemsUndefined_iff, definedItems, List.filter_eq_nil_iff]

theorem pairsUndefined_iff_forall {pairs : List (Value × Value)} :
    pairsUndefined pairs = true ↔ ∀ pair ∈ pairs, pair.2.isUndefined = true := by
  simp [pairsUndefined_iff, definedPairs, List.filter_eq_nil_iff]

/-- Nothing, or a collection of such values; the keys of a mapping do not count. -/
inductive IsHollow : Value → Prop
  | null : IsHollow .null
  | sequence {form : SequenceForm} {items : List Value} (members : ∀ item ∈ items, IsHollow item) :
      IsHollow (.sequence form items)
  | stream {items : List Value} (members : ∀ item ∈ items, IsHollow item) :
      IsHollow (.stream items)
  | mapping {pairs : List (Value × Value)} (members : ∀ pair ∈ pairs, IsHollow pair.2) :
      IsHollow (.mapping pairs)

mutual

/-- Undefined values are hollow. -/
theorem isHollow_of_isUndefined : ∀ {value : Value}, value.isUndefined = true → IsHollow value
  | .null, _ => .null
  | .sequence _ _, undefined => .sequence (isHollow_of_itemsUndefined undefined)
  | .stream _, undefined => .stream (isHollow_of_itemsUndefined undefined)
  | .mapping _, undefined => .mapping (isHollow_of_pairsUndefined undefined)

theorem isHollow_of_itemsUndefined : ∀ {items : List Value}, itemsUndefined items = true →
    ∀ item ∈ items, IsHollow item
  | [], _ => by simp
  | item :: rest, undefined => by
      rw [itemsUndefined, Bool.and_eq_true] at undefined
      exact List.forall_mem_cons.mpr
        ⟨isHollow_of_isUndefined undefined.1, isHollow_of_itemsUndefined undefined.2⟩

theorem isHollow_of_pairsUndefined : ∀ {pairs : List (Value × Value)},
    pairsUndefined pairs = true → ∀ pair ∈ pairs, IsHollow pair.2
  | [], _ => by simp
  | (key, value) :: rest, undefined => by
      rw [pairsUndefined, Bool.and_eq_true] at undefined
      exact List.forall_mem_cons.mpr
        ⟨isHollow_of_isUndefined undefined.1, isHollow_of_pairsUndefined undefined.2⟩

end

/-- A value is undefined just if it is hollow. -/
theorem isUndefined_iff_isHollow {value : Value} : value.isUndefined = true ↔ IsHollow value := by
  refine ⟨isHollow_of_isUndefined, fun isHollow => ?_⟩
  induction isHollow with
  | null => rfl
  | sequence _ undefined => exact itemsUndefined_iff_forall.mpr undefined
  | stream _ undefined => exact itemsUndefined_iff_forall.mpr undefined
  | mapping _ undefined => exact pairsUndefined_iff_forall.mpr undefined

instance : DecidablePred IsHollow := fun _ => decidable_of_iff _ isUndefined_iff_isHollow

/-- The defined items are those that are not hollow. -/
theorem filter_isHollow_eq_definedItems (items : List Value) :
    (items.filter fun item => ¬ item.IsHollow) = definedItems items := by
  apply List.filter_congr
  intro item _
  simp [← isUndefined_iff_isHollow]

theorem filter_isHollow_eq_definedPairs (pairs : List (Value × Value)) :
    (pairs.filter fun pair => ¬ pair.2.IsHollow) = definedPairs pairs := by
  apply List.filter_congr
  intro pair _
  simp [← isUndefined_iff_isHollow]

end UriTemplate.Value
