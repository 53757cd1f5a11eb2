import UriTemplate.Proofs.PercentEncoding.Alphabet
import UriTemplate.Proofs.Syntax.RoundTrip
import UriTemplate.Template

namespace UriTemplate

open PercentEncoding

/-- The test admits all that an operator puts around names and between them. -/
structure Operator.WritesOnly (operator : Operator) (test : CodePoint → Bool) : Prop where
  kept : ∀ codePoint, isKept operator.allowsReserved codePoint = true → test codePoint = true
  marks : ∀ mark ∈ operator.opening ++ operator.separator ++ Text.ofString "=,",
    test mark = true

structure Expression.WritesOnly (expression : Expression) (test : CodePoint → Bool) : Prop where
  operator : expression.operator.WritesOnly test
  names : ∀ reference ∈ expression.references, IsMadeOf test (encodeLiteral reference.name)

namespace Expansion

section Variables

variable {test : CodePoint → Bool} {operator : Operator} (writes : operator.WritesOnly test)

include writes

/-- The test admits the opening of an expansion. -/
theorem isMadeOf_opening : IsMadeOf test operator.opening :=
  .of_forall fun mark member => writes.marks mark (by simp [member])

theorem isMadeOf_separator : IsMadeOf test operator.separator :=
  .of_forall fun mark member => writes.marks mark (by simp [member])

theorem isMadeOf_equals : IsMadeOf test equals :=
  .of_forall fun mark member => writes.marks mark (by simp_all [equals, Text.ofString])

theorem isMadeOf_comma : IsMadeOf test "," :=
  .of_forall fun mark member => writes.marks mark (by simp_all [Text.ofString])

/-- Every encoded item is admitted. -/
theorem isMadeOf_item (value : Value) : IsMadeOf test (item operator value) :=
  isMadeOf_encode fun codePoint _ => writes.kept codePoint

/-- Keys keep fewer characters than items, so they are admitted as well. -/
theorem isMadeOf_key (key : Text) : IsMadeOf test (encode false key) :=
  isMadeOf_encode fun codePoint _ kept => writes.kept codePoint (isKept_of_isKept_false kept)

/-- With its label and the equals sign, an encoded text is still admitted. -/
theorem isMadeOf_labelled {label encoded : Text} (labelIsMadeOf : IsMadeOf test label)
    (encodedIsMadeOf : IsMadeOf test encoded) (forced : Bool) (text : Text) :
    IsMadeOf test (labelled forced label text encoded) := by
  unfold labelled
  split
  · exact (labelIsMadeOf.append (isMadeOf_equals writes)).append encodedIsMadeOf
  · exact (labelIsMadeOf.append .empty).append encodedIsMadeOf

theorem isMadeOf_pair (pair : Value × Value) : IsMadeOf test (Expansion.pair operator pair) :=
  ((isMadeOf_key writes _).append (isMadeOf_comma writes)).append (isMadeOf_item writes _)

theorem isMadeOf_explodedPair (pair : Value × Value) :
    IsMadeOf test (explodedPair operator pair) :=
  isMadeOf_labelled writes (isMadeOf_key writes _) (isMadeOf_item writes _) _ _

variable {reference : Variable} (nameIsMadeOf : IsMadeOf test (encodeLiteral reference.name))

include nameIsMadeOf

theorem isMadeOf_nameBefore : IsMadeOf test (nameBefore operator reference.name) := by
  unfold nameBefore
  split
  · exact nameIsMadeOf.append (isMadeOf_equals writes)
  · exact .empty

theorem isMadeOf_explodedItem (value : Value) :
    IsMadeOf test (explodedItem operator reference.name value) := by
  unfold explodedItem
  split
  · exact isMadeOf_labelled writes nameIsMadeOf (isMadeOf_item writes value) _ _
  · exact isMadeOf_item writes value

theorem isMadeOf_scalar (text : Text) : IsMadeOf test (scalar operator reference text) := by
  have encodedIsMadeOf (window : Nat) :
      IsMadeOf test (encodeFirst operator.allowsReserved window text) := by
    rw [encodeFirst_eq_encode_take]
    exact isMadeOf_encode fun codePoint _ => writes.kept codePoint
  unfold scalar
  split
  · exact isMadeOf_labelled writes nameIsMadeOf (encodedIsMadeOf _) _ _
  · exact encodedIsMadeOf _

/-- Whatever its value is, the text of a variable is admitted. -/
theorem isMadeOf_variableText (value : Value) :
    IsMadeOf test (variableText operator reference value) := by
  unfold variableText
  split
  case h_1 pairs =>
      split
      · refine .join (isMadeOf_separator writes) (List.forall_mem_map.mpr ?_)
        exact fun pair _ => isMadeOf_explodedPair writes pair
      · refine (isMadeOf_nameBefore writes nameIsMadeOf).append ?_
        refine .join (isMadeOf_comma writes) (List.forall_mem_map.mpr ?_)
        exact fun pair _ => isMadeOf_pair writes pair
  case h_2 form items =>
      split
      · refine .join (isMadeOf_separator writes) (List.forall_mem_map.mpr ?_)
        exact fun value _ => isMadeOf_explodedItem writes nameIsMadeOf value
      · refine (isMadeOf_nameBefore writes nameIsMadeOf).append ?_
        refine .join (isMadeOf_comma writes) (List.forall_mem_map.mpr ?_)
        exact fun value _ => isMadeOf_item writes value
  case h_3 => exact isMadeOf_scalar writes nameIsMadeOf _

end Variables

section Expressions

variable {test : CodePoint → Bool}

/-- The texts of several variables are admitted with what stands between them. -/
theorem isMadeOf_variableTexts {operator : Operator} (writes : operator.WritesOnly test)
    (isFirst : Bool) {resolved : List (Variable × Value)}
    (names : ∀ entry ∈ resolved, IsMadeOf test (encodeLiteral entry.1.name)) :
    IsMadeOf test (variableTexts operator isFirst resolved) := by
  induction resolved generalizing isFirst with
  | nil => exact .empty
  | cons entry rest inductionHypothesis =>
      obtain ⟨reference, value⟩ := entry
      have ⟨here, others⟩ := List.forall_mem_cons.mp names
      rw [variableTexts]
      split
      · exact inductionHypothesis isFirst others
      · refine (IsMadeOf.append ?_ (isMadeOf_variableText writes here value)).append
          (inductionHypothesis false others)
        split
        · exact isMadeOf_opening writes
        · exact isMadeOf_separator writes

/-- Every resolved variable stands in the expression, whatever reading does to the bindings. -/
theorem mem_of_mem_resolve {bindings : Bindings} {references : List Variable}
    {entry : Variable × Value} (member : entry ∈ (resolve bindings references).1) :
    entry.1 ∈ references := by
  induction references generalizing bindings with
  | nil => exact absurd member List.not_mem_nil
  | cons reference rest inductionHypothesis =>
      rcases List.mem_cons.mp member with rfl | later
      · exact List.mem_cons_self
      · exact List.mem_cons_of_mem _ (inductionHypothesis later)

/-- The expansion of an expression is admitted. -/
theorem isMadeOf_expressionText {expression : Expression} (writes : expression.WritesOnly test)
    (bindings : Bindings) :
    IsMadeOf test
      (expressionText expression.operator (resolve bindings expression.references).1) :=
  isMadeOf_variableTexts writes.operator true fun _ member =>
    writes.names _ (mem_of_mem_resolve member)

/-- A template is admitted from any point on if its literal texts are. The induction follows the
expressions. -/
theorem isMadeOf_templateFrom {raw : Text} {previous : Nat} {expressions : List Expression}
    (literals : ∀ range ∈ Template.rangesFrom previous raw.length expressions,
      IsMadeOf test (encodeLiteral (raw.slice range.1 range.2)))
    (writes : ∀ expression ∈ expressions, expression.WritesOnly test) (bindings : Bindings) :
    IsMadeOf test (templateFrom raw previous bindings expressions) := by
  induction expressions generalizing previous bindings with
  | nil =>
      rw [templateFrom, encodeRange_eq_encode_slice]
      exact literals _ List.mem_cons_self
  | cons expression rest inductionHypothesis =>
      have ⟨literal, otherLiterals⟩ := List.forall_mem_cons.mp literals
      have ⟨here, others⟩ := List.forall_mem_cons.mp writes
      rw [templateFrom, encodeRange_eq_encode_slice]
      exact (literal.append (isMadeOf_expressionText here bindings)).append
        (inductionHypothesis otherLiterals others _)

end Expressions

/-! All characters of a URI are reserved or unreserved. -/

/-- Every expression writes characters that are kept, in names and in marks too. -/
theorem writesOnly_isKept (expression : Expression) : expression.WritesOnly (isKept true) where
  operator.kept codePoint kept := by
    revert kept
    cases expression.operator.allowsReserved with
    | false => exact isKept_of_isKept_false
    | true => exact id
  operator.marks := by cases expression.operator <;> decide
  names _ _ := isMadeOf_encode fun _ _ => id

/-- Every expansion is made of URI characters and complete triplets. -/
theorem isMadeOf_template (template : Template) (bindings : Bindings) :
    IsMadeOf (isKept true) (Expansion.template template bindings) :=
  isMadeOf_templateFrom (fun _ _ => isMadeOf_encode fun _ _ => id)
    (fun expression _ => writesOnly_isKept expression) bindings

/-- A template without expressions is its own literal text. -/
theorem template_of_isMadeOf {text : Text} (isMadeOf : IsMadeOf (isKept true) text)
    (bindings : Bindings) : Expansion.template ⟨text, []⟩ bindings = text := by
  rw [Expansion.template, templateFrom, encodeRange_eq_encode_slice, Text.slice, List.drop_zero]
  exact (congrArg (encode true) List.take_length).trans (encode_of_isMadeOf isMadeOf)

/-- No URI character opens an expression. -/
theorem openBrace_not_mem {text : Text} (isMadeOf : IsMadeOf (isKept true) text) :
    Expression.openBrace ∉ text :=
  isMadeOf.not_mem (by decide) (by decide)

end Expansion

/-- Every result consists of unreserved characters, reserved characters and complete triplets.
Encoding leaves it alone, and it is a template without expressions that always expands to
itself. -/
theorem Template.expand_idempotent (template : Template) (bindings : Bindings) :
    ∃ result, template.expand bindings false = .ok result ∧
      IsMadeOf (fun codePoint => codePoint.isUnreserved || codePoint.isReserved) result ∧
      (∀ before behind, result = before ++ CodePoint.ofChar '%' :: behind →
        ∃ high low rest, behind = high :: low :: rest ∧ high.isHexDigit = true ∧
          low.isHexDigit = true) ∧
      encodeLiteral result = result ∧
      ∃ closed, Template.parse result = .ok closed ∧ closed.expressions = [] ∧
        ∀ others, closed.expand others false = .ok result := by
  have isMadeOf := Expansion.isMadeOf_template template bindings
  refine ⟨_, rfl, ?_, ?_, encode_of_isMadeOf isMadeOf, ?_⟩
  · exact isMadeOf.imp fun codePoint _ kept => by simpa [isKept_eq] using kept
  · rintro before behind written
    rw [written] at isMadeOf
    exact isMadeOf.hex_behind_percent (by decide)
  · have wellFormed : (Layout.last (Expansion.template template bindings)).IsWellFormed :=
      Expansion.openBrace_not_mem isMadeOf
    exact ⟨_, Template.parse_written wellFormed, rfl, fun others =>
      congrArg Except.ok (Expansion.template_of_isMadeOf isMadeOf others)⟩

end UriTemplate
