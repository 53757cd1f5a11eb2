import UriTemplate.Proofs.Expansion.OperatorTable
import UriTemplate.Proofs.Value.Undefined

namespace UriTemplate

namespace Bindings

/-- The name has no binding, or one with nothing in it at any depth. -/
def IsVacant (bindings : Bindings) (name : Text) : Prop :=
  ∀ value ∈ bindings.lookup name, value.IsHollow

/-- A vacant name has an undefined value. -/
theorem isVacant_iff {bindings : Bindings} {name : Text} :
    bindings.IsVacant name ↔ (bindings.value name).isUndefined = true := by
  unfold IsVacant value
  cases bindings.lookup name with
  | none => simp [Value.isUndefined]
  | some value => simp [Value.isUndefined_iff_isHollow]

instance (bindings : Bindings) (name : Text) : Decidable (bindings.IsVacant name) :=
  decidable_of_iff _ isVacant_iff.symm

end Bindings

namespace Expression

/-- The expression with the variables that have a value and without the others. -/
def withoutVacant (bindings : Bindings) (expression : Expression) : Expression :=
  { expression with references :=
      expression.references.filter fun reference => ¬ bindings.IsVacant reference.name }

end Expression

namespace Expansion

/-- Whether the opening or a separator comes next does not depend on undefined variables. -/
theorem variableTexts_filter (operator : Operator) (isFirst : Bool)
    (resolved : List (Variable × Value)) :
    variableTexts operator isFirst (resolved.filter fun entry => !entry.2.isUndefined) =
      variableTexts operator isFirst resolved := by
  have sameTexts : definedTexts operator (resolved.filter fun entry => !entry.2.isUndefined) =
      definedTexts operator resolved := by
    simp only [definedTexts, List.filter_filter, Bool.and_self]
  rw [variableTexts_eq, variableTexts_eq, sameTexts]

/-- No text is left just if every value is undefined. -/
theorem definedTexts_eq_nil_iff {operator : Operator} {resolved : List (Variable × Value)} :
    definedTexts operator resolved = [] ↔ ∀ entry ∈ resolved, entry.2.isUndefined = true := by
  simp [definedTexts, List.filter_eq_nil_iff]

section Streamless

variable {bindings : Bindings} (streamless : bindings.Streamless) (operator : Operator)
  (references : List Variable)

include streamless

/-- Variables with vacant names can be left out. -/
theorem expressionText_filter :
    expressionText operator
        (resolve bindings (references.filter fun reference =>
          ¬ bindings.IsVacant reference.name)).1 =
      expressionText operator (resolve bindings references).1 := by
  have sameVariables : (references.filter fun reference =>
        ¬ bindings.IsVacant reference.name).map
          (fun reference => (reference, bindings.value reference.name)) =
      (references.map fun reference => (reference, bindings.value reference.name)).filter
        fun entry => !entry.2.isUndefined := by
    rw [List.filter_map]
    congr 1
    apply List.filter_congr
    intro reference _
    simp [Bindings.isVacant_iff]
  rw [resolve_of_streamless streamless, resolve_of_streamless streamless, sameVariables]
  exact variableTexts_filter operator true _

/-- If all names are vacant, nothing is written. -/
theorem expressionText_of_vacant
    (areVacant : ∀ reference ∈ references, bindings.IsVacant reference.name) :
    expressionText operator (resolve bindings references).1 = [] := by
  have isNothing : definedTexts operator
      (references.map fun reference => (reference, bindings.value reference.name)) = [] := by
    refine definedTexts_eq_nil_iff.mpr (List.forall_mem_map.mpr fun reference member => ?_)
    exact Bindings.isVacant_iff.mp (areVacant reference member)
  rw [resolve_of_streamless streamless, expressionText, variableTexts_eq, if_pos isNothing]

/-- One name that is not vacant brings the opening. -/
theorem exists_expressionText_of_not_vacant
    (isSomething : ∃ reference ∈ references, ¬ bindings.IsVacant reference.name) :
    ∃ texts, expressionText operator (resolve bindings references).1 =
      operator.opening ++ Text.join operator.separator texts := by
  rw [resolve_of_streamless streamless, expressionText, variableTexts_eq]
  split
  case isTrue isNothing =>
      obtain ⟨reference, member, isDefined⟩ := isSomething
      have areUndefined := List.forall_mem_map.mp (definedTexts_eq_nil_iff.mp isNothing)
      exact absurd (Bindings.isVacant_iff.mpr (areUndefined reference member)) isDefined
  case isFalse => exact ⟨_, rfl⟩

end Streamless

/-- Variables without a value can be left out of an expression. Nothing is left of an expression
that has no other variables, and any other one starts with the symbol of its operator, unless it
is one of the two operators that write none. -/
theorem expression_withoutVacant (expression : Expression) {bindings : Bindings}
    (streamless : bindings.Streamless) :
    Expansion.expression bindings (expression.withoutVacant bindings) =
        Expansion.expression bindings expression ∧
      ((∀ reference ∈ expression.references, bindings.IsVacant reference.name) →
        Expansion.expression bindings expression = []) ∧
      ((∃ reference ∈ expression.references, ¬ bindings.IsVacant reference.name) →
        expression.operator ≠ .simple → expression.operator ≠ .reserved →
        ∃ symbol, expression.operator.symbol = [symbol] ∧
          (Expansion.expression bindings expression).head? = some symbol) := by
  refine ⟨expressionText_filter streamless _ _, expressionText_of_vacant streamless _ _, ?_⟩
  intro isSomething isNoSimple isNoReserved
  obtain ⟨symbol, isSymbol⟩ := Operator.exists_symbol isNoSimple
  obtain ⟨texts, isText⟩ :=
    exists_expressionText_of_not_vacant streamless expression.operator _ isSomething
  have opensWithSymbol : expression.operator.opening = expression.operator.symbol := by
    cases isOperator : expression.operator with
    | simple => exact absurd isOperator isNoSimple
    | reserved => exact absurd isOperator isNoReserved
    | _ => rfl
  refine ⟨symbol, isSymbol, ?_⟩
  rw [Expansion.expression, isText, opensWithSymbol, isSymbol]
  rfl

theorem expression_withoutVacant_query :
    let expression : Expression := ⟨.query, [⟨"l", .explode, by decide⟩,
      ⟨"t", ⟨.cut, 1⟩, by decide⟩, ⟨"m", .none, by decide⟩, ⟨"l", .none, by decide⟩,
      ⟨"t", .none, by decide⟩], none⟩
    let bindings : Bindings := [("t", .text "a b"),
      ("l", .sequence .list [.null, .mapping [(.text "k", .sequence .tuple [])]])]
    Expansion.expression bindings expression = "?t=a&t=a%20b" ∧
      (expression.withoutVacant bindings).references =
        [⟨"t", ⟨.cut, 1⟩, by decide⟩, ⟨"t", .none, by decide⟩] ∧
      Expansion.expression bindings (expression.withoutVacant bindings) =
        Expansion.expression bindings expression ∧
      (Expansion.expression bindings expression).head? = some (CodePoint.ofChar '?') ∧
      Expansion.expression [] expression = [] := by
  intro expression bindings
  obtain ⟨same, -, opens⟩ := @expression_withoutVacant expression bindings (by decide)
  have isSomething : ∃ reference ∈ expression.references,
      ¬ bindings.IsVacant reference.name := by decide +kernel
  obtain ⟨symbol, isSymbol, isFirst⟩ := opens isSomething (by decide) (by decide)
  obtain rfl : CodePoint.ofChar '?' = symbol := (List.cons.inj isSymbol).1
  have isNothing := (@expression_withoutVacant expression [] (by decide)).2.1 (by decide +kernel)
  exact ⟨by decide +kernel, by decide +kernel, same, isFirst, isNothing⟩

end Expansion

end UriTemplate
