import UriTemplate.Proofs.Value.Parts
import UriTemplate.Proofs.Value.Undefined

namespace UriTemplate.Value

/-- A part without members, reached through items and through the values of pairs. -/
structure IsLeaf (leaf value : Value) : Prop where
  isPlain : leaf.isCollection = false
  isPart : IsPart leaf value

variable {leaf : Value}

/-- A value that is no collection is its own leaf. -/
theorem isLeaf_iff_eq {value : Value} (isPlain : value.isCollection = false) :
    IsLeaf leaf value ↔ leaf = value := by
  constructor
  · rintro ⟨-, isPart⟩
    cases isPart with
    | itself => rfl
    | item => cases isPlain
    | streamed => cases isPlain
    | paired => cases isPlain
  · rintro rfl
    exact ⟨isPlain, .itself⟩

/-- The leaves of a sequence are those of its items. -/
theorem isLeaf_sequence_iff {form : SequenceForm} {items : List Value} :
    IsLeaf leaf (.sequence form items) ↔ ∃ item ∈ items, IsLeaf leaf item := by
  constructor
  · rintro ⟨isPlain, isPart⟩
    cases isPart with
    | itself => cases isPlain
    | item member inside => exact ⟨_, member, isPlain, inside⟩
  · rintro ⟨item, member, isPlain, inside⟩
    exact ⟨isPlain, .item member inside⟩

theorem isLeaf_stream_iff {items : List Value} :
    IsLeaf leaf (.stream items) ↔ ∃ item ∈ items, IsLeaf leaf item := by
  constructor
  · rintro ⟨isPlain, isPart⟩
    cases isPart with
    | itself => cases isPlain
    | streamed member inside => exact ⟨_, member, isPlain, inside⟩
  · rintro ⟨item, member, isPlain, inside⟩
    exact ⟨isPlain, .streamed member inside⟩

theorem isLeaf_mapping_iff {pairs : List (Value × Value)} :
    IsLeaf leaf (.mapping pairs) ↔ ∃ pair ∈ pairs, IsLeaf leaf pair.2 := by
  constructor
  · rintro ⟨isPlain, isPart⟩
    cases isPart with
    | itself => cases isPlain
    | paired member inside => exact ⟨_, member, isPlain, inside⟩
  · rintro ⟨pair, member, isPlain, inside⟩
    exact ⟨isPlain, .paired member inside⟩

/-- An empty text, a zero and a false truth value are leaves like any other. -/
theorem isUndefined_iff_leaves {value : Value} :
    value.isUndefined = true ↔ ∀ leaf, IsLeaf leaf value → leaf = .null := by
  induction value using membersInduction with
  | plain value isPlain =>
      simp only [isLeaf_iff_eq isPlain, forall_eq]
      cases value with
      | sequence => cases isPlain
      | stream => cases isPlain
      | mapping => cases isPlain
      | null => exact iff_of_true rfl rfl
      | _ => exact iff_of_false Bool.false_ne_true nofun
  | sequence form items inductionHypothesis =>
      simp only [isLeaf_sequence_iff, forall_exists_index, and_imp]
      rw [isUndefined, itemsUndefined_iff_forall, forall₂_congr inductionHypothesis]
      exact ⟨fun members leaf item member => members item member leaf,
        fun leaves item member leaf => leaves leaf item member⟩
  | stream items inductionHypothesis =>
      simp only [isLeaf_stream_iff, forall_exists_index, and_imp]
      rw [isUndefined, itemsUndefined_iff_forall, forall₂_congr inductionHypothesis]
      exact ⟨fun members leaf item member => members item member leaf,
        fun leaves item member leaf => leaves leaf item member⟩
  | mapping pairs inductionHypothesis =>
      simp only [isLeaf_mapping_iff, forall_exists_index, and_imp]
      rw [isUndefined, pairsUndefined_iff_forall, forall₂_congr inductionHypothesis]
      exact ⟨fun members leaf pair member => members pair member leaf,
        fun leaves pair member leaf => leaves leaf pair member⟩

section Kinds

variable {value : Value} (streamless : value.hasStream = false)

include streamless

/-- What is classified as a sequence has a defined item. -/
theorem definedItems_ne_nil_of_kind (isSequence : value.kind = .sequence) :
    ∃ form items, value = .sequence form items ∧ definedItems items ≠ [] := by
  unfold kind at isSequence
  split at isSequence
  case isTrue => cases isSequence
  case isFalse isDefined =>
      cases value with
      | sequence form items => exact ⟨form, items, rfl, mt itemsUndefined_iff.mpr isDefined⟩
      | stream => cases streamless
      | _ => cases isSequence

/-- What is classified as a mapping has a pair with a defined value. -/
theorem definedPairs_ne_nil_of_kind (isMapping : value.kind = .mapping) :
    ∃ pairs, value = .mapping pairs ∧ definedPairs pairs ≠ [] := by
  unfold kind at isMapping
  split at isMapping
  case isTrue => cases isMapping
  case isFalse isDefined =>
      cases value with
      | mapping pairs => exact ⟨pairs, rfl, mt pairsUndefined_iff.mpr isDefined⟩
      | stream => cases streamless
      | _ => cases isMapping

end Kinds

end UriTemplate.Value
