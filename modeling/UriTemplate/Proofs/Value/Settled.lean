import UriTemplate.Proofs.Value.Parts
import UriTemplate.Proofs.Value.Undefined

namespace UriTemplate.Value

/-! A collection is built anew exactly if a stream stands in it. -/

/-- Items are built anew if the first or one of the others is. -/
theorem isSome_rebuildItems_cons (item : Value) (rest : List Value) :
    (rebuildItems? (item :: rest)).isSome =
      (item.rebuild?.isSome || (rebuildItems? rest).isSome) := by
  rw [rebuildItems?]
  cases item.rebuild? <;> cases rebuildItems? rest <;> rfl

/-- Pairs are built anew if the first value or one of the others is. -/
theorem isSome_rebuildPairs_cons (key value : Value) (rest : List (Value × Value)) :
    (rebuildPairs? ((key, value) :: rest)).isSome =
      (value.rebuild?.isSome || (rebuildPairs? rest).isSome) := by
  rw [rebuildPairs?]
  cases value.rebuild? <;> cases rebuildPairs? rest <;> rfl

/-- Items are built anew just if one of them has a stream. -/
theorem isSome_rebuildItems {items : List Value}
    (alike : ∀ item ∈ items, item.rebuild?.isSome = item.hasStream) :
    (rebuildItems? items).isSome = itemsHaveStream items := by
  induction items with
  | nil => rfl
  | cons item rest inductionHypothesis =>
      have ⟨here, others⟩ := List.forall_mem_cons.mp alike
      rw [isSome_rebuildItems_cons, here, inductionHypothesis others, itemsHaveStream]

/-- Pairs are built anew just if one of their values has a stream. -/
theorem isSome_rebuildPairs {pairs : List (Value × Value)}
    (alike : ∀ pair ∈ pairs, pair.2.rebuild?.isSome = pair.2.hasStream) :
    (rebuildPairs? pairs).isSome = pairsHaveStream pairs := by
  induction pairs with
  | nil => rfl
  | cons pair rest inductionHypothesis =>
      have ⟨here, others⟩ := List.forall_mem_cons.mp alike
      rw [isSome_rebuildPairs_cons, here, inductionHypothesis others, pairsHaveStream]

/-- A value is built anew just if it has a stream. -/
theorem isSome_rebuild (value : Value) : value.rebuild?.isSome = value.hasStream := by
  induction value using membersInduction with
  | plain value isPlain =>
      rw [rebuild_of_streamless (hasStream_of_not_isCollection isPlain),
        hasStream_of_not_isCollection isPlain]
      rfl
  | sequence form items inductionHypothesis =>
      rw [rebuild?, Option.isSome_map, hasStream, isSome_rebuildItems inductionHypothesis]
  | stream items => rfl
  | mapping pairs inductionHypothesis =>
      rw [rebuild?, Option.isSome_map, hasStream, isSome_rebuildPairs inductionHypothesis]

/-- A value stays itself just if it has no stream. -/
theorem staysItself_iff {value : Value} : value.staysItself = true ↔ value.hasStream = false := by
  rw [staysItself, Option.isNone_iff_eq_none, ← Option.not_isSome_iff_eq_none, isSome_rebuild,
    Bool.not_eq_true]

/-! The members are settled one by one, in their order. -/

/-- Items that are not built anew are settled as they stand. -/
theorem getD_rebuildItems (items : List Value) :
    (rebuildItems? items).getD items = items.map settled := by
  induction items with
  | nil => rfl
  | cons item rest inductionHypothesis =>
      rw [List.map_cons, ← inductionHypothesis, settled, rebuildItems?]
      cases item.rebuild? <;> cases rebuildItems? rest <;> rfl

/-- Pairs that are not built anew are settled as they stand. -/
theorem getD_rebuildPairs (pairs : List (Value × Value)) :
    (rebuildPairs? pairs).getD pairs = pairs.map fun pair => (pair.1, pair.2.settled) := by
  induction pairs with
  | nil => rfl
  | cons pair rest inductionHypothesis =>
      obtain ⟨key, value⟩ := pair
      rw [List.map_cons, ← inductionHypothesis, settled, rebuildPairs?]
      cases value.rebuild? <;> cases rebuildPairs? rest <;> rfl

/-- A stream settles to the list of its settled items. -/
theorem settled_of_stream (items : List Value) :
    (stream items).settled = .sequence .list (items.map settled) := by
  rw [settled, rebuild?, Option.getD_some, getD_rebuildItems]

/-- A sequence keeps its form unless an item of it has a stream. -/
theorem settled_of_sequence (form : SequenceForm) (items : List Value) :
    (sequence form items).settled =
      .sequence (if itemsHaveStream items then .list else form) (items.map settled) := by
  have isBuilt := isSome_rebuildItems fun item (_ : item ∈ items) => isSome_rebuild item
  rw [settled, rebuild?, ← getD_rebuildItems, ← isBuilt]
  cases rebuildItems? items <;> rfl

/-- A mapping keeps its keys and settles its values. -/
theorem settled_of_mapping (pairs : List (Value × Value)) :
    (mapping pairs).settled = .mapping (pairs.map fun pair => (pair.1, pair.2.settled)) := by
  rw [settled, rebuild?, ← getD_rebuildPairs]
  cases rebuildPairs? pairs <;> rfl

/-- No stream is left in a settled value. -/
theorem hasStream_settled (value : Value) : value.settled.hasStream = false := by
  induction value using membersInduction with
  | plain value isPlain =>
      have streamless := hasStream_of_not_isCollection isPlain
      rw [settled_of_streamless streamless, streamless]
  | sequence form items inductionHypothesis =>
      rw [settled_of_sequence]
      exact itemsHaveStream_eq_false_iff.mpr (List.forall_mem_map.mpr inductionHypothesis)
  | stream items inductionHypothesis =>
      rw [settled_of_stream]
      exact itemsHaveStream_eq_false_iff.mpr (List.forall_mem_map.mpr inductionHypothesis)
  | mapping pairs inductionHypothesis =>
      rw [settled_of_mapping]
      exact pairsHaveStream_eq_false_iff.mpr (List.forall_mem_map.mpr inductionHypothesis)

/-! What a value looks like does not change, apart from the kinds of its sequences. -/

mutual

/-- The value with a list for every sequence and every stream, at every depth. -/
def outline : Value → Value
  | .sequence _ items => .sequence .list (itemOutlines items)
  | .stream items => .sequence .list (itemOutlines items)
  | .mapping pairs => .mapping (pairOutlines pairs)
  | value => value

def itemOutlines : List Value → List Value
  | [] => []
  | item :: rest => item.outline :: itemOutlines rest

def pairOutlines : List (Value × Value) → List (Value × Value)
  | [] => []
  | (key, value) :: rest => (key, value.outline) :: pairOutlines rest

end

/-- Settled items keep their outlines if each of them does. -/
theorem itemOutlines_map_settled {items : List Value}
    (alike : ∀ item ∈ items, item.settled.outline = item.outline) :
    itemOutlines (items.map settled) = itemOutlines items := by
  induction items with
  | nil => rfl
  | cons item rest inductionHypothesis =>
      have ⟨here, others⟩ := List.forall_mem_cons.mp alike
      rw [List.map_cons, itemOutlines, itemOutlines, here, inductionHypothesis others]

/-- Settled pairs keep their outlines if each value does. -/
theorem pairOutlines_map_settled {pairs : List (Value × Value)}
    (alike : ∀ pair ∈ pairs, pair.2.settled.outline = pair.2.outline) :
    pairOutlines (pairs.map fun pair => (pair.1, pair.2.settled)) = pairOutlines pairs := by
  induction pairs with
  | nil => rfl
  | cons pair rest inductionHypothesis =>
      have ⟨here, others⟩ := List.forall_mem_cons.mp alike
      rw [List.map_cons, pairOutlines, pairOutlines, here, inductionHypothesis others]

/-- Settling keeps the outline of a value. -/
theorem outline_settled (value : Value) : value.settled.outline = value.outline := by
  induction value using membersInduction with
  | plain value isPlain =>
      rw [settled_of_streamless (hasStream_of_not_isCollection isPlain)]
  | sequence form items inductionHypothesis =>
      rw [settled_of_sequence, outline, outline, itemOutlines_map_settled inductionHypothesis]
  | stream items inductionHypothesis =>
      rw [settled_of_stream, outline, outline, itemOutlines_map_settled inductionHypothesis]
  | mapping pairs inductionHypothesis =>
      rw [settled_of_mapping, outline, outline, pairOutlines_map_settled inductionHypothesis]

/-- Settled items are undefined as before if each of them is. -/
theorem itemsUndefined_map_settled {items : List Value}
    (alike : ∀ item ∈ items, item.settled.isUndefined = item.isUndefined) :
    itemsUndefined (items.map settled) = itemsUndefined items := by
  rw [Bool.eq_iff_iff, itemsUndefined_iff_forall, itemsUndefined_iff_forall, List.forall_mem_map]
  exact forall₂_congr fun item member => by rw [alike item member]

/-- Settling defines nothing and undefines nothing. -/
theorem isUndefined_settled (value : Value) : value.settled.isUndefined = value.isUndefined := by
  induction value using membersInduction with
  | plain value isPlain =>
      rw [settled_of_streamless (hasStream_of_not_isCollection isPlain)]
  | sequence form items inductionHypothesis =>
      rw [settled_of_sequence]
      exact itemsUndefined_map_settled inductionHypothesis
  | stream items inductionHypothesis =>
      rw [settled_of_stream]
      exact itemsUndefined_map_settled inductionHypothesis
  | mapping pairs inductionHypothesis =>
      rw [settled_of_mapping, Bool.eq_iff_iff, isUndefined, isUndefined,
        pairsUndefined_iff_forall, pairsUndefined_iff_forall, List.forall_mem_map]
      exact forall₂_congr fun pair member => by rw [inductionHypothesis pair member]

/-- A stream counts as a sequence before and after. -/
theorem kind_settled (value : Value) : value.settled.kind = value.kind := by
  unfold kind
  rw [isUndefined_settled]
  cases value with
  | sequence form items => rw [settled_of_sequence]
  | stream items => rw [settled_of_stream]
  | mapping pairs => rw [settled_of_mapping]
  | _ => rfl

end UriTemplate.Value
