import UriTemplate.Proofs.Expansion.OperatorTable

namespace UriTemplate

open PercentEncoding

namespace Value

/-- A scalar is defined and no collection. -/
theorem kind_eq_scalar_iff {value : Value} :
    value.kind = .scalar ↔ value.isUndefined = false ∧ value.isSequence = false ∧
      ∀ pairs, value ≠ .mapping pairs := by
  unfold kind
  split
  case isTrue isUndefined => simp [isUndefined]
  case isFalse isDefined =>
      rw [Bool.not_eq_true] at isDefined
      cases value <;> simp [isDefined, isSequence]

end Value

namespace Expansion

variable {operator : Operator} {name : Text} {nonempty : name ≠ []}

/-- The variable of a scalar is expanded as its text. -/
theorem variableText_of_isScalar {value : Value} (isScalar : value.kind = .scalar)
    (reference : Variable) :
    variableText operator reference value = scalar operator reference value.toText := by
  obtain ⟨-, isNoSequence, isNoMapping⟩ := Value.kind_eq_scalar_iff.mp isScalar
  cases value with
  | sequence form items => cases isNoSequence
  | mapping pairs => exact absurd rfl (isNoMapping pairs)
  | _ => rfl

/-- Cutting comes before encoding, and leaves nothing only of an empty text. -/
theorem scalar_cut {length : Nat} (positive : 0 < length) (text : Text) :
    scalar operator ⟨name, ⟨.cut, length⟩, nonempty⟩ text =
      scalar operator ⟨name, .none, nonempty⟩ (text.take length) := by
  have isLimit : (⟨.cut, length⟩ : Modifier).limit? = some length :=
    if_pos (Int.natCast_pos.mpr positive)
  have noLimit : Modifier.none.limit? = none := rfl
  have sameEmpty : (text.take length).isEmpty = text.isEmpty := by
    rw [Bool.eq_iff_iff]
    simp [List.take_eq_nil_iff, Nat.ne_of_gt positive]
  simp only [scalar, isLimit, noLimit, Option.getD_some, Option.getD_none,
    encodeFirst_eq_encode_take, List.take_length, labelled, sameEmpty]

/-- Only the form of a collection depends on a modifier, and a length does not change it. -/
theorem variableText_cut_of_ne_scalar {value : Value} (streamless : value.hasStream = false)
    (isNoScalar : value.kind ≠ .scalar) (isDefined : value.isUndefined = false) (length : Nat) :
    variableText operator ⟨name, ⟨.cut, length⟩, nonempty⟩ value =
      variableText operator ⟨name, .none, nonempty⟩ value := by
  cases value with
  | sequence form items => rfl
  | mapping pairs => rfl
  | stream items => cases streamless
  | null => cases isDefined
  | _ => exact absurd rfl isNoScalar

/-- One variable is expanded with the value that stands first in the bindings. -/
theorem expression_single {value : Value} (streamless : value.hasStream = false)
    (others : Bindings) (modifier : Modifier) (span : Option Span) :
    Expansion.expression ((name, value) :: others)
        ⟨operator, [⟨name, modifier, nonempty⟩], span⟩ =
      if value.isUndefined then []
      else operator.opening ++ variableText operator ⟨name, modifier, nonempty⟩ value := by
  have isRead : (Bindings.read ((name, value) :: others) name).1 = value := by
    rw [Bindings.read, Bindings.value, List.lookup_cons_self]
    exact Value.settled_of_streamless streamless
  simp only [Expansion.expression, expressionText, resolve, isRead, variableTexts, if_true,
    List.append_nil]

/-- A length acts on scalars alone: their text is cut to so many code points before anything is
encoded. Exploding acts on collections alone. -/
theorem expression_modifier (operator : Operator) {name : Text} (nonempty : name ≠ [])
    {value : Value} (streamless : value.hasStream = false) (others : Bindings)
    (span : Option Span) :
    let expanded (value : Value) (modifier : Modifier) : Text :=
      Expansion.expression ((name, value) :: others)
        ⟨operator, [⟨name, modifier, nonempty⟩], span⟩
    (value.kind = .scalar →
      (∀ length : Nat, 0 < length → expanded value ⟨.cut, length⟩ =
        expanded (.text (value.toText.take length)) .none) ∧
      expanded value .explode = expanded value .none) ∧
    (value.kind ≠ .scalar →
      ∀ length : Nat, expanded value ⟨.cut, length⟩ = expanded value .none) := by
  intro expanded
  have alone (modifier : Modifier) :=
    @expression_single operator name nonempty value streamless others modifier span
  refine ⟨fun isScalar => ⟨fun length positive => ?_, ?_⟩, fun isNoScalar length => ?_⟩
  · have isDefined := (Value.kind_eq_scalar_iff.mp isScalar).1
    simp only [expanded]
    rw [alone, expression_single rfl, isDefined, variableText_of_isScalar isScalar,
      scalar_cut positive]
    rfl
  · simp only [expanded, alone, variableText_of_isScalar isScalar]
    rfl
  · simp only [expanded, alone]
    by_cases isUndefined : value.isUndefined = true
    · rw [if_pos isUndefined, if_pos isUndefined]
    · rw [variableText_cut_of_ne_scalar streamless isNoScalar (by simpa using isUndefined)]

theorem expression_modifier_triplet :
    let text : Text := ⟨0xD800, by decide⟩ :: Text.ofString "é%41"
    let list : Value := .sequence .list [.text text, .null]
    let expanded (value : Value) (modifier : Modifier) : Text :=
      Expansion.expression [("v", value)] ⟨.parameter, [⟨"v", modifier, by decide⟩], none⟩
    (Value.text text).kind = .scalar ∧ list.kind ≠ .scalar ∧
      expanded (.text text) ⟨.cut, 4⟩ = ";v=%ED%A0%80%C3%A9%254" ∧
      expanded (.text text) ⟨.cut, 4⟩ = expanded (.text (text.take 4)) .none ∧
      expanded (.text text) .explode = expanded (.text text) .none ∧
      expanded list ⟨.cut, 4⟩ = expanded list .none := by
  intro text list expanded
  have isNoScalar : list.kind ≠ .scalar := by decide
  obtain ⟨onScalars, -⟩ :=
    @expression_modifier .parameter "v" (by decide) (.text text) rfl [] none
  obtain ⟨-, onOthers⟩ := @expression_modifier .parameter "v" (by decide) list rfl [] none
  exact ⟨rfl, isNoScalar, by decide +kernel, (onScalars rfl).1 4 (by decide), (onScalars rfl).2,
    onOthers isNoScalar 4⟩

end Expansion

end UriTemplate
