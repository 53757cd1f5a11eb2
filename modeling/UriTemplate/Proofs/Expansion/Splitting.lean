import UriTemplate.Proofs.Expansion.Definedness

namespace UriTemplate

namespace Bindings

/-- One of the variables has a value. -/
def FillsAny (bindings : Bindings) (references : List Variable) : Prop :=
  ∃ reference ∈ references, ¬ bindings.IsVacant reference.name

instance (bindings : Bindings) (references : List Variable) :
    Decidable (bindings.FillsAny references) :=
  inferInstanceAs (Decidable (∃ reference ∈ references, ¬ bindings.IsVacant reference.name))

end Bindings

namespace Expansion

/-- An expansion without the number sign that a fragment opens with. -/
def withoutNumberSign (operator : Operator) (expanded : Text) : Text :=
  if operator = .fragment then (expanded.dropPrefix? "#").getD expanded else expanded

/-- The later variables only need to know whether all earlier ones are undefined. -/
theorem variableTexts_append (operator : Operator) (isFirst : Bool)
    (before behind : List (Variable × Value)) :
    variableTexts operator isFirst (before ++ behind) =
      variableTexts operator isFirst before ++
        variableTexts operator (isFirst && before.all fun entry => entry.2.isUndefined) behind := by
  induction before generalizing isFirst with
  | nil => simp [variableTexts]
  | cons entry rest inductionHypothesis =>
      obtain ⟨reference, value⟩ := entry
      rw [List.cons_append, variableTexts, variableTexts]
      by_cases isUndefined : value.isUndefined = true
      · simp [isUndefined, inductionHypothesis]
      · simp [isUndefined, inductionHypothesis]

/-- If the opening is the separator, the first variable is like the others. -/
theorem variableTexts_of_opening_eq {operator : Operator}
    (same : operator.opening = operator.separator) (isFirst : Bool)
    (resolved : List (Variable × Value)) :
    variableTexts operator isFirst resolved = variableTexts operator true resolved := by
  rw [variableTexts_eq, variableTexts_eq, same, ite_self, ite_self]

/-- The two query operators differ in nothing but the opening. -/
theorem variableTexts_query (resolved : List (Variable × Value)) :
    variableTexts .query false resolved = variableTexts .continuation true resolved := by
  have sameText (reference : Variable) (value : Value) :
      variableText .query reference value = variableText .continuation reference value := by
    cases value <;> rfl
  have sameTexts : definedTexts .query resolved = definedTexts .continuation resolved := by
    simp only [definedTexts, sameText]
  have sameSeparator : Operator.query.separator = Operator.continuation.separator := rfl
  have opensLikeSeparator : Operator.continuation.opening = Operator.continuation.separator := rfl
  simp only [variableTexts_eq, sameTexts, sameSeparator, opensLikeSeparator, ite_self,
    Bool.false_eq_true, if_false]

theorem withoutNumberSign_nil (operator : Operator) : withoutNumberSign operator [] = [] := by
  have nothing (start : Text) : (([] : Text).dropPrefix? start).getD [] = [] := by
    cases start <;> rfl
  rw [withoutNumberSign, nothing, ite_self]

/-- Without the number sign, nothing is left of these openings. -/
theorem withoutNumberSign_opening {operator : Operator}
    (member : operator ∈ [Operator.fragment, .simple, .reserved]) (expanded : Text) :
    withoutNumberSign operator (operator.opening ++ expanded) = expanded := by
  simp only [List.mem_cons, List.not_mem_nil, or_false] at member
  rcases member with rfl | rfl | rfl
  · exact congrArg (Option.getD · _) (List.dropPrefix?_append_of_beq expanded (beq_self_eq_true _))
  · rfl
  · rfl

/-- Between variables these operators write a comma, and no opening behind it. -/
theorem variableTexts_comma {operator : Operator}
    (member : operator ∈ [Operator.fragment, .simple, .reserved])
    (resolved : List (Variable × Value)) :
    variableTexts operator false resolved =
      (if definedTexts operator resolved = [] then [] else Text.ofString ",") ++
        withoutNumberSign operator (variableTexts operator true resolved) := by
  have isComma : operator.separator = "," := by
    simp only [List.mem_cons, List.not_mem_nil, or_false] at member
    rcases member with rfl | rfl | rfl <;> rfl
  rw [variableTexts_eq, variableTexts_eq]
  by_cases isNothing : definedTexts operator resolved = []
  · rw [if_pos isNothing, if_pos isNothing, if_pos isNothing, withoutNumberSign_nil]
    rfl
  · rw [if_neg isNothing, if_neg isNothing, if_neg isNothing, if_pos rfl,
      withoutNumberSign_opening member, isComma]
    rfl

/-- A variable has a value just if some text is written. -/
theorem fillsAny_iff {bindings : Bindings} {references : List Variable} (operator : Operator) :
    bindings.FillsAny references ↔ definedTexts operator
      (references.map fun reference => (reference, bindings.value reference.name)) ≠ [] := by
  simp [Bindings.FillsAny, definedTexts_eq_nil_iff, Bindings.isVacant_iff]

/-- All values are undefined just if no variable has one. -/
theorem all_isUndefined_eq (bindings : Bindings) (references : List Variable) :
    ((references.map fun reference => (reference, bindings.value reference.name)).all
      fun entry => entry.2.isUndefined) = !decide (bindings.FillsAny references) := by
  rw [Bool.eq_iff_iff]
  simp [Bindings.FillsAny, Bindings.isVacant_iff]

section Streamless

variable {bindings : Bindings} (streamless : bindings.Streamless)

include streamless

/-- An expression is the texts of its variables, the opening first. -/
theorem expression_eq_variableTexts (operator : Operator) (references : List Variable)
    (span : Option Span) :
    Expansion.expression bindings ⟨operator, references, span⟩ =
      variableTexts operator true
        (references.map fun reference => (reference, bindings.value reference.name)) := by
  rw [Expansion.expression, resolve_of_streamless streamless, expressionText]

/-- The second half of an expression goes on where the first half left off. -/
theorem expression_append_eq (operator : Operator) (first second : List Variable)
    (span : Option Span) :
    Expansion.expression bindings ⟨operator, first ++ second, span⟩ =
      Expansion.expression bindings ⟨operator, first, span⟩ ++
        variableTexts operator (!decide (bindings.FillsAny first))
          (second.map fun reference => (reference, bindings.value reference.name)) := by
  rw [expression_eq_variableTexts streamless, expression_eq_variableTexts streamless,
    List.map_append, variableTexts_append, all_isUndefined_eq, Bool.true_and]

end Streamless

/-- An expression can be cut between any two of its variables. Where the opening of the operator is
its separator, the parts stand one behind the other. The second part of a query goes on as a
continuation if the first one has written anything, and the other operators put a comma between two
parts that have both written something. -/
theorem expression_split {bindings : Bindings} (streamless : bindings.Streamless)
    (first second : List Variable) (span : Option Span) :
    let expanded (operator : Operator) (references : List Variable) : Text :=
      Expansion.expression bindings ⟨operator, references, span⟩
    (∀ operator ∈ [Operator.label, .path, .parameter, .continuation],
      expanded operator (first ++ second) = expanded operator first ++ expanded operator second) ∧
    expanded .query (first ++ second) = expanded .query first ++
      expanded (if bindings.FillsAny first then .continuation else .query) second ∧
    ∀ operator ∈ [Operator.fragment, .simple, .reserved],
      expanded operator (first ++ second) = expanded operator first ++
        (if bindings.FillsAny first ∧ bindings.FillsAny second then Text.ofString "," else []) ++
        (if bindings.FillsAny first then withoutNumberSign operator (expanded operator second)
          else expanded operator second) := by
  intro expanded
  have behind (operator : Operator) := expression_append_eq streamless operator first second span
  have alone (operator : Operator) := expression_eq_variableTexts streamless operator second span
  -- All that is left is what stands in front of the second part.
  refine ⟨fun operator member => ?_, ?_, fun operator member => ?_⟩
  · have same : operator.opening = operator.separator := by
      simp only [List.mem_cons, List.not_mem_nil, or_false] at member
      rcases member with rfl | rfl | rfl | rfl <;> rfl
    simp only [expanded, behind, alone, variableTexts_of_opening_eq same]
  · by_cases fills : bindings.FillsAny first
    · simp only [expanded, behind, alone, fills, if_true, decide_true, Bool.not_true,
        variableTexts_query]
    · simp only [expanded, behind, alone, fills, if_false, decide_false, Bool.not_false]
  · by_cases fills : bindings.FillsAny first
    · simp only [expanded, behind, alone, fills, if_true, true_and, decide_true, Bool.not_true,
        variableTexts_comma member, fillsAny_iff operator, ne_eq, ite_not, List.append_assoc]
    · simp only [expanded, behind, alone, fills, if_false, false_and, decide_false, Bool.not_false,
        List.append_nil]

theorem expression_split_undefined :
    let u : Variable := ⟨"u", .none, by decide⟩
    let t : Variable := ⟨"t", ⟨.cut, 1⟩, by decide⟩
    let l : Variable := ⟨"l", .explode, by decide⟩
    let bindings : Bindings := [("t", .text "#b"), ("u", .sequence .list [.null]),
      ("l", .sequence .tuple [.text "x", .null, .text []])]
    let expanded (operator : Operator) (references : List Variable) : Text :=
      Expansion.expression bindings ⟨operator, references, none⟩
    bindings.Streamless ∧ ¬ bindings.FillsAny [u] ∧ bindings.FillsAny [u, t] ∧
      bindings.FillsAny [l, u] ∧
      expanded .parameter [u, t, l, u] = ";t=%23;l=x;l" ∧
      expanded .parameter [u, t, l, u] = expanded .parameter [u, t] ++ expanded .parameter [l, u] ∧
      expanded .query [u, t, l, u] = "?t=%23&l=x&l=" ∧
      expanded .query [u, t, l, u] = expanded .query [u, t] ++ expanded .continuation [l, u] ∧
      expanded .query [u, t, l, u] = expanded .query [u] ++ expanded .query [t, l, u] ∧
      expanded .fragment [u, t, l, u] = "##,x," ∧
      expanded .fragment [u, t, l, u] = expanded .fragment [u, t] ++ Text.ofString "," ++
        withoutNumberSign .fragment (expanded .fragment [l, u]) := by
  intro u t l bindings expanded
  have streamless : bindings.Streamless := by decide
  have isVacant : ¬ bindings.FillsAny [u] := by decide +kernel
  have fills : bindings.FillsAny [u, t] := by decide +kernel
  have fillsBehind : bindings.FillsAny [l, u] := by decide +kernel
  obtain ⟨inTurn, asQuery, withComma⟩ := expression_split streamless [u, t] [l, u] none
  obtain ⟨-, asFirst, -⟩ := expression_split streamless [u] [t, l, u] none
  rw [if_pos fills] at asQuery
  rw [if_neg isVacant] at asFirst
  have asFragment := withComma .fragment (by decide)
  rw [if_pos ⟨fills, fillsBehind⟩, if_pos fills] at asFragment
  exact ⟨streamless, isVacant, fills, fillsBehind, by decide +kernel,
    inTurn .parameter (by decide), by decide +kernel, asQuery, asFirst, by decide +kernel,
    asFragment⟩

end Expansion

end UriTemplate
