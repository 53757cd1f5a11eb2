import UriTemplate.Proofs.Expansion.OperatorTable
import UriTemplate.Proofs.Value.Leaves
import UriTemplate.Proofs.Value.Settled

namespace UriTemplate

namespace Expansion

/-- The texts that a value has to show: one of a scalar, and one of each defined member of a
collection. -/
def shownTexts (operator : Operator) (reference : Variable) : Value → List Text
  | .null => []
  | .sequence _ items =>
      (Value.definedItems items).map (if reference.isExploded then
        explodedItem operator reference.name else item operator)
  | .mapping pairs =>
      (Value.definedPairs pairs).map (if reference.isExploded then
        explodedPair operator else pair operator)
  | value => [scalar operator reference value.toText]

/-- The name in front of a collection that is not exploded, and all its texts. -/
def contribution (operator : Operator) (reference : Variable) (value : Value) : Text :=
  (if value.isCollection && !reference.isExploded then nameBefore operator reference.name
    else []) ++
    Text.join (if reference.isExploded then operator.separator else ",")
      (shownTexts operator reference value)

/-- The variables that have a text to show. -/
def contributors (operator : Operator) (resolved : List (Variable × Value)) :
    List (Variable × Value) :=
  resolved.filter fun entry => shownTexts operator entry.1 entry.2 ≠ []

section Variable

variable (operator : Operator) (reference : Variable) {value : Value}
  (streamless : value.hasStream = false)

include streamless

/-- The deep test passes over a variable exactly if nothing would be left of it at one level. -/
theorem shownTexts_eq_nil_iff :
    shownTexts operator reference value = [] ↔ value.isUndefined = true := by
  cases value with
  | null => exact iff_of_true rfl rfl
  | sequence form items =>
      rw [shownTexts, List.map_eq_nil_iff]
      exact Value.itemsUndefined_iff.symm
  | stream => cases streamless
  | mapping pairs =>
      rw [shownTexts, List.map_eq_nil_iff]
      exact Value.pairsUndefined_iff.symm
  | _ => exact iff_of_false (List.cons_ne_nil _ _) Bool.false_ne_true

/-- A defined variable writes its contribution. -/
theorem variableText_eq_contribution (isDefined : value.isUndefined = false) :
    variableText operator reference value = contribution operator reference value := by
  have single (separator text : Text) : Text.join separator [text] = text := by
    rw [Text.join_eq_flatMap]
    exact List.append_nil text
  cases value with
  | null => cases isDefined
  | sequence form items =>
      rw [variableText, contribution, shownTexts]
      cases reference.isExploded <;> rfl
  | stream => cases streamless
  | mapping pairs =>
      rw [variableText, contribution, shownTexts]
      cases reference.isExploded <;> rfl
  | _ => exact (single (if reference.isExploded then operator.separator else ",") _).symm

end Variable

/-- What is read for an expression is settled, so it has no stream. -/
theorem hasStream_of_mem_resolve {bindings : Bindings} {references : List Variable}
    {entry : Variable × Value} (member : entry ∈ (resolve bindings references).1) :
    entry.2.hasStream = false := by
  induction references generalizing bindings with
  | nil => exact absurd member List.not_mem_nil
  | cons reference rest inductionHypothesis =>
      rcases List.mem_cons.mp member with rfl | later
      · exact Value.hasStream_settled _
      · exact inductionHypothesis later

/-- The texts of the defined variables are the contributions, in their order. -/
theorem definedTexts_eq_contributions (operator : Operator) {resolved : List (Variable × Value)}
    (streamless : ∀ entry ∈ resolved, entry.2.hasStream = false) :
    definedTexts operator resolved =
      (contributors operator resolved).map fun entry => contribution operator entry.1 entry.2 := by
  have sameEntries : (resolved.filter fun entry => !entry.2.isUndefined) =
      contributors operator resolved := by
    refine List.filter_congr fun entry member => ?_
    have isNothing := shownTexts_eq_nil_iff operator entry.1 (streamless entry member)
    rw [Bool.eq_iff_iff, decide_eq_true_eq, ne_eq, isNothing, Bool.not_eq_true', Bool.not_eq_true]
  rw [definedTexts, sameEntries]
  refine List.map_congr_left fun entry member => ?_
  have isThere : entry ∈ resolved := List.mem_of_mem_filter member
  have isDefined : entry.2.isUndefined = false := by
    rw [← sameEntries] at member
    simpa using (List.mem_filter.mp member).2
  exact variableText_eq_contribution operator entry.1 (streamless entry isThere) isDefined

/-- An opening or a separator stands only in front of a variable that has a text to show. -/
theorem expression_eq_contributions (bindings : Bindings) (expression : Expression) :
    Expansion.expression bindings expression =
      let present := contributors expression.operator (resolve bindings expression.references).1
      if present = [] then []
      else expression.operator.opening ++ Text.join expression.operator.separator
        (present.map fun entry => contribution expression.operator entry.1 entry.2) := by
  have streamless : ∀ entry ∈ (resolve bindings expression.references).1,
      entry.2.hasStream = false := fun _ => hasStream_of_mem_resolve
  rw [Expansion.expression, expressionText, variableTexts_eq,
    definedTexts_eq_contributions expression.operator streamless]
  simp only [List.map_eq_nil_iff, if_true]

end Expansion

/-- A value is undefined exactly if all its leaves are null, however deep they lie. What counts as a
sequence or as a mapping therefore has a defined member, and every expression writes its opening,
its separators and the names of collections only in front of members that follow them. -/
theorem Value.undefined_iff_leaves_null :
    (∀ value : Value, value.hasStream = false →
      (value.isUndefined = true ↔ ∀ leaf, IsLeaf leaf value → leaf = .null) ∧
      (value.kind = .sequence →
        ∃ form items, value = .sequence form items ∧ definedItems items ≠ []) ∧
      (value.kind = .mapping → ∃ pairs, value = .mapping pairs ∧ definedPairs pairs ≠ [])) ∧
    ∀ (bindings : Bindings) (expression : Expression),
      Expansion.expression bindings expression =
        let present := Expansion.contributors expression.operator
          (Expansion.resolve bindings expression.references).1
        if present = [] then []
        else expression.operator.opening ++ Text.join expression.operator.separator
          (present.map fun entry =>
            Expansion.contribution expression.operator entry.1 entry.2) :=
  ⟨fun _ streamless => ⟨isUndefined_iff_leaves, definedItems_ne_nil_of_kind streamless,
    definedPairs_ne_nil_of_kind streamless⟩, Expansion.expression_eq_contributions⟩

theorem Value.undefined_iff_leaves_null_nested :
    let hollow : Value :=
      .sequence .list [.null, .mapping [(.text "k", .sequence .tuple [.null])]]
    let whole : Value :=
      .mapping [(.text "a", hollow), (.text "b", .sequence .tuple [.null, .text []])]
    let query : Expression := ⟨.query, [⟨"h", .none, by decide⟩, ⟨"w", .none, by decide⟩], none⟩
    hollow.isUndefined = true ∧ (∀ leaf, IsLeaf leaf hollow → leaf = .null) ∧
      whole.kind = .mapping ∧ (∃ pairs, whole = .mapping pairs ∧ definedPairs pairs ≠ []) ∧
      Expansion.expression [("h", hollow), ("w", whole)] query = "?w=b,%28None%2C%20%27%27%29" ∧
      (Expansion.contributors .query
        [(⟨"h", .none, by decide⟩, hollow), (⟨"w", .none, by decide⟩, whole)]).length = 1 := by
  intro hollow whole query
  obtain ⟨leaves, -, -⟩ := undefined_iff_leaves_null.1 hollow (by decide)
  obtain ⟨-, -, members⟩ := undefined_iff_leaves_null.1 whole (by decide)
  have isUndefined : hollow.isUndefined = true := by decide
  have isMapping : whole.kind = .mapping := by decide
  exact ⟨isUndefined, leaves.mp isUndefined, isMapping, members isMapping, by decide +kernel,
    by decide +kernel⟩

end UriTemplate
