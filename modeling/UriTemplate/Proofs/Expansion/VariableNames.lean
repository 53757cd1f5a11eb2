import UriTemplate.Proofs.Expansion.Members
import UriTemplate.Proofs.Expansion.Rereading
import UriTemplate.Proofs.UriReference.Components

namespace UriTemplate

namespace Template

/-! The names are listed in the order in which they occur for the first time. -/

/-- A further name is kept if it is new. -/
theorem distinct_concat (names : List Text) (name : Text) :
    distinct (names ++ [name]) =
      if name ∈ distinct names then distinct names else distinct names ++ [name] := by
  simp only [distinct, List.foldl_append, List.foldl_cons, List.foldl_nil, List.contains_iff_mem]

/-- No name gets lost. -/
theorem mem_distinct {names : List Text} {name : Text} : name ∈ distinct names ↔ name ∈ names := by
  induction names using List.reverseRecOn with
  | nil => exact Iff.rfl
  | append_singleton names last inductionHypothesis =>
      rw [distinct_concat, List.mem_append, List.mem_singleton, ← inductionHypothesis]
      split
      · next isOld => exact (or_iff_left_of_imp fun same => same ▸ isOld).symm
      · rw [List.mem_append, List.mem_singleton]

/-- The names stand in the order in which they come up first. -/
theorem distinct_in_order (names : List Text) :
    (distinct names).Pairwise fun first second => names.idxOf first < names.idxOf second := by
  induction names using List.reverseRecOn with
  | nil => exact List.Pairwise.nil
  | append_singleton names last inductionHypothesis =>
      -- A name that was there keeps its first place when another one is written behind it.
      have samePlace {name : Text} (isOld : name ∈ distinct names) :
          (names ++ [last]).idxOf name = names.idxOf name :=
        List.idxOf_append_of_mem (mem_distinct.mp isOld)
      have stillOrdered : (distinct names).Pairwise fun first second =>
          (names ++ [last]).idxOf first < (names ++ [last]).idxOf second := by
        refine inductionHypothesis.imp_of_mem fun isFirst isSecond before => ?_
        rw [samePlace isFirst, samePlace isSecond]
        exact before
      rw [distinct_concat]
      split
      · exact stillOrdered
      · next isNew =>
          refine List.pairwise_append.mpr ⟨stillOrdered, List.pairwise_singleton _ _, ?_⟩
          intro first isFirst second isLast
          obtain rfl := List.mem_singleton.mp isLast
          rw [samePlace isFirst, List.idxOf_append_of_notMem (mt mem_distinct.mpr isNew)]
          exact Nat.lt_add_right _ (List.idxOf_lt_length_iff.mpr (mem_distinct.mp isFirst))

/-- The names are those of the variables of all expressions. -/
theorem mem_variableNames {template : Template} {name : Text} :
    name ∈ template.variableNames ↔
      ∃ expression ∈ template.expressions, ∃ reference ∈ expression.references,
        reference.name = name := by
  rw [variableNames, mem_distinct]
  simp only [List.mem_flatMap, List.mem_map]

/-- No name is listed twice. -/
theorem nodup_variableNames (template : Template) : template.variableNames.Nodup := by
  refine (distinct_in_order _).imp fun before same => ?_
  rw [same] at before
  exact Nat.lt_irrefl _ before

end Template

namespace Bindings

/-- The name has the same value in both bindings, or there is nothing in it in either. -/
def AgreeOn (first second : Bindings) (name : Text) : Prop :=
  first.lookup name = second.lookup name ∨ (first.IsVacant name ∧ second.IsVacant name)

/-- Where bindings agree, a variable is expanded alike. -/
theorem AgreeOn.expandsLike {first second : Bindings} {name : Text}
    (agree : first.AgreeOn second name) :
    (first.value name).ExpandsLike (second.value name) := by
  rcases agree with same | ⟨firstVacant, secondVacant⟩
  · rw [value, value, same]
    exact ⟨rfl, fun _ _ _ => rfl⟩
  · exact .of_undefined (isVacant_iff.mp firstVacant) (isVacant_iff.mp secondVacant)

/-- A further binding hides the older ones of its name. -/
theorem value_cons (bindings : Bindings) (name other : Text) (bound : Value) :
    value ((name, bound) :: bindings) other =
      if other = name then bound else bindings.value other := by
  rw [value, List.lookup_cons, value]
  by_cases same : other = name
  · rw [if_pos same, beq_iff_eq.mpr same]
    rfl
  · rw [if_neg same, beq_eq_false_iff_ne.mpr same]

/-- A further binding without streams keeps the bindings streamless. -/
theorem streamless_cons {bindings : Bindings} (streamless : bindings.Streamless) {bound : Value}
    (noStream : bound.hasStream = false) (name : Text) :
    Streamless ((name, bound) :: bindings) :=
  List.forall_mem_cons.mpr ⟨noStream, streamless⟩

end Bindings

namespace Expansion

/-- Every occurrence of a name adds the mark of the list that the name is bound to. -/
theorem marks_add_count_le (bindings : Bindings) (name : Text) (operator : Operator)
    (references : List Variable) :
    marks ((name, .null) :: bindings) operator references +
        (references.map Variable.name).count name ≤
      marks ((name, markedList) :: bindings) operator references := by
  induction references with
  | nil => exact Nat.le_refl _
  | cons reference rest inductionHypothesis =>
      rw [marks, marks, List.map_cons, Bindings.value_cons, Bindings.value_cons]
      by_cases same : reference.name = name
      · have isThere : 1 ≤ (variableText operator reference markedList).count mark :=
          List.one_le_count_iff.mpr (mark_mem_variableText operator reference)
        have isDefined : ¬markedList.isUndefined = true := by decide
        rw [if_pos same, if_pos same, if_neg isDefined, same, List.count_cons_self,
          show Value.null.isUndefined = true from rfl, if_pos rfl]
        omega
      · rw [if_neg same, if_neg same, List.count_cons_of_ne same]
        omega

/-- Every occurrence of a name adds a mark when the marked list is bound to it. -/
theorem count_templateFrom_add_le {bindings : Bindings} (streamless : bindings.Streamless)
    (name raw : Text) (previous : Nat) (expressions : List Expression) :
    (templateFrom raw previous ((name, .null) :: bindings) expressions).count mark +
        (occurrences expressions).count name ≤
      (templateFrom raw previous ((name, markedList) :: bindings) expressions).count mark := by
  have withoutStreamless :=
    Bindings.streamless_cons streamless (rfl : Value.null.hasStream = false) name
  have withStreamless :=
    Bindings.streamless_cons streamless (rfl : markedList.hasStream = false) name
  induction expressions generalizing previous with
  | nil => exact Nat.le_refl _
  | cons expression rest inductionHypothesis =>
      have here := marks_add_count_le bindings name expression.operator expression.references
      have others := inductionHypothesis expression.stop
      simp only [templateFrom, occurrences, List.flatMap_cons, expressionText,
        resolve_of_streamless withoutStreamless, resolve_of_streamless withStreamless,
        List.count_append, count_variableTexts] at others ⊢
      omega

/-- A name that occurs has two values between which every other binding lets the template tell. -/
theorem template_ne_of_mem {template : Template} {name : Text}
    (occurs : name ∈ template.variableNames) {bindings : Bindings}
    (streamless : bindings.Streamless) :
    Expansion.template template ((name, .null) :: bindings) ≠
      Expansion.template template ((name, markedList) :: bindings) := by
  intro same
  have counted := count_templateFrom_add_le streamless name template.raw 0 template.expressions
  have isThere : 1 ≤ (occurrences template.expressions).count name :=
    List.one_le_count_iff.mpr (Template.mem_distinct.mp occurs)
  change (Expansion.template template ((name, .null) :: bindings)).count mark + _ ≤ _ at counted
  rw [same] at counted
  change _ ≤ (Expansion.template template ((name, markedList) :: bindings)).count mark at counted
  omega

end Expansion

/-- A checked text is found in what the check returns, be it the text or an error. -/
theorem UriReference.validate_inj {first second : Text} (same : validate first = validate second) :
    first = second := by
  rcases validate_cases first with isFirst | ⟨fault, isFirst⟩
  · rcases validate_cases second with isSecond | ⟨other, isSecond⟩
    · rw [isFirst, isSecond] at same
      exact Except.ok.inj same
    · rw [isFirst, isSecond] at same
      cases same
  · rcases validate_cases second with isSecond | ⟨other, isSecond⟩
    · rw [isFirst, isSecond] at same
      cases same
    · rw [isFirst, isSecond] at same
      exact congrArg Invalid.uri (Except.error.inj same)

namespace Template

/-- An error carries the expansion, so equal outcomes come from equal expansions. -/
theorem template_eq_of_expand_eq {template : Template} {first second : Bindings} {strict : Bool}
    (same : template.expand first strict = template.expand second strict) :
    Expansion.template template first = Expansion.template template second := by
  cases strict with
  | false => exact Except.ok.inj same
  | true => exact UriReference.validate_inj same

/-- A template lists every name that occurs in it once, in the order of the first occurrences. It
expands alike under bindings that agree on these names. Under all bindings whatever, some other
value of each of them changes the outcome. -/
theorem expand_depends_on_variableNames (template : Template) :
    (template.variableNames.Nodup ∧
      (∀ name, name ∈ template.variableNames ↔ ∃ expression ∈ template.expressions,
        ∃ reference ∈ expression.references, reference.name = name) ∧
      template.variableNames.Pairwise fun first second =>
        (Expansion.occurrences template.expressions).idxOf first <
          (Expansion.occurrences template.expressions).idxOf second) ∧
    (∀ first second : Bindings, first.Streamless → second.Streamless →
      (∀ name ∈ template.variableNames, first.AgreeOn second name) →
      ∀ strict, template.expand first strict = template.expand second strict) ∧
    ∀ name ∈ template.variableNames, ∀ bindings : Bindings, bindings.Streamless →
      ∃ other : Value, other.hasStream = false ∧ ∀ strict,
        template.expand ((name, other) :: bindings) strict ≠ template.expand bindings strict := by
  refine ⟨⟨nodup_variableNames template, fun _ => mem_variableNames, distinct_in_order _⟩, ?_, ?_⟩
  · intro first second firstStreamless secondStreamless agree strict
    have sameText : Expansion.template template first = Expansion.template template second := by
      apply Expansion.templateFrom_congr firstStreamless secondStreamless
      intro expression isExpression reference isReference
      apply Bindings.AgreeOn.expandsLike
      exact agree _ (mem_variableNames.mpr ⟨expression, isExpression, reference, isReference, rfl⟩)
    rw [expand, expand, sameText]
  · intro name occurs bindings streamless
    -- Two values that lead to different texts cannot both lead to the text there is now.
    have different := Expansion.template_ne_of_mem occurs streamless
    by_cases isNull : Expansion.template template ((name, .null) :: bindings) =
        Expansion.template template bindings
    · refine ⟨Expansion.markedList, by decide, fun strict same => different ?_⟩
      exact isNull.trans (template_eq_of_expand_eq same).symm
    · exact ⟨.null, rfl, fun strict same => isNull (template_eq_of_expand_eq same)⟩

theorem expand_depends_on_variableNames_repeated :
    let template : Template := ⟨"\x7bb,a:2\x7d\x7b?a*,b\x7d",
      [⟨.simple, [⟨"b", .none, by decide⟩, ⟨"a", ⟨.cut, 2⟩, by decide⟩], some ⟨0, 7, 1, 1⟩⟩,
        ⟨.query, [⟨"a", .explode, by decide⟩, ⟨"b", .none, by decide⟩], some ⟨7, 14, 1, 8⟩⟩]⟩
    let first : Bindings := [("a", .text "x y"), ("c", .integer 1)]
    let second : Bindings := [("b", .sequence .tuple [.null, .mapping []]), ("a", .text "x y")]
    Template.parse template.raw = .ok template ∧ template.variableNames = ["b", "a"] ∧
      first.Streamless ∧ second.Streamless ∧
      (∀ name ∈ template.variableNames, first.AgreeOn second name) ∧
      template.expand first true = .ok "x%20?a=x%20y" ∧
      template.expand second true = template.expand first true ∧
      ∃ other : Value, ∀ strict,
        template.expand (("b", other) :: first) strict ≠ template.expand first strict := by
  intro template first second
  have names : template.variableNames = ["b", "a"] := by decide +kernel
  have firstStreamless : first.Streamless := by decide
  have secondStreamless : second.Streamless := by decide
  have agree : ∀ name ∈ template.variableNames, first.AgreeOn second name := by
    rw [names]
    refine List.forall_mem_cons.mpr ⟨.inr ⟨by decide, by decide⟩, ?_⟩
    exact List.forall_mem_singleton.mpr (.inl rfl)
  obtain ⟨_, alike, changes⟩ := expand_depends_on_variableNames template
  have isListed : (Text.ofString "b") ∈ template.variableNames := by
    rw [names]
    exact List.mem_cons_self
  obtain ⟨other, _, changed⟩ := changes "b" isListed first firstStreamless
  exact ⟨by decide +kernel, names, firstStreamless, secondStreamless, agree, by decide +kernel,
    (alike first second firstStreamless secondStreamless agree true).symm, other, changed⟩

end Template

end UriTemplate
