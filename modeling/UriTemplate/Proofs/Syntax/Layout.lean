import UriTemplate.Proofs.Syntax.Grammar
import UriTemplate.Proofs.Text.Numeral
import UriTemplate.Syntax.Template

namespace UriTemplate

open Grammar

/-- The modifiers that template text can express. -/
inductive Modifier.IsWellFormed : Modifier → Prop
  | none : IsWellFormed .none
  | explode : IsWellFormed .explode
  | cut {length : Nat} (positive : 1 ≤ length) (bounded : length ≤ 9999) :
      IsWellFormed ⟨.cut, length⟩

structure Variable.IsWellFormed (reference : Variable) : Prop where
  name : IsName reference.name
  modifier : reference.modifier.IsWellFormed

structure Expression.IsWellFormed (expression : Expression) : Prop where
  nonempty : expression.references ≠ []
  references : ∀ reference ∈ expression.references, reference.IsWellFormed

/-- The expression with the span of its text at a position. -/
def Expression.placedAt (expression : Expression) (position : Position) : Expression :=
  { expression with span := some (Span.covering position expression.written) }

@[simp] theorem Expression.written_placedAt (expression : Expression) (position : Position) :
    (expression.placedAt position).written = expression.written := rfl

@[simp] theorem Expression.content_placedAt (expression : Expression) (position : Position) :
    (expression.placedAt position).content = expression.content := rfl

/-- Literal texts and expressions in turn; a literal text stands first and last. -/
inductive Layout
  | last (literal : Text)
  | before (literal : Text) (expression : Expression) (rest : Layout)

namespace Layout

def literals : Layout → List Text
  | last literal => [literal]
  | before literal _ rest => literal :: rest.literals

def expressions : Layout → List Expression
  | last _ => []
  | before _ expression rest => expression :: rest.expressions

def written : Layout → Text
  | last literal => literal
  | before literal expression rest => literal ++ expression.written ++ rest.written

/-- The expressions with their spans, when the text of the layout starts at a position. -/
def placed (position : Position) : Layout → List Expression
  | last _ => []
  | before literal expression rest =>
      expression.placedAt (position.after literal) ::
        rest.placed (position.after (literal ++ expression.written))

def IsWellFormed : Layout → Prop
  | last literal => Expression.openBrace ∉ literal
  | before literal expression rest =>
      Expression.openBrace ∉ literal ∧ expression.IsWellFormed ∧ rest.IsWellFormed

/-- The template that the text of the layout is read as. -/
def template (layout : Layout) : Template :=
  ⟨layout.written, layout.placed Position.start⟩

/-- The last literal text of the first layout and the first of the second become one. -/
def append : Layout → Layout → Layout
  | last literal, last next => last (literal ++ next)
  | last literal, before next expression rest => before (literal ++ next) expression rest
  | before literal expression rest, second => before literal expression (rest.append second)

theorem written_append (first second : Layout) :
    (first.append second).written = first.written ++ second.written := by
  induction first with
  | last literal => cases second <;> simp [append, written]
  | before literal expression rest inductionHypothesis =>
      simp [append, written, inductionHypothesis]

/-- The second layout is placed behind the first. -/
theorem placed_append (position : Position) (first second : Layout) :
    (first.append second).placed position =
      first.placed position ++ second.placed (position.after first.written) := by
  induction first generalizing position with
  | last literal => cases second <;> simp [append, placed, written, Position.after_append]
  | before literal expression rest inductionHypothesis =>
      simp [append, placed, written, inductionHypothesis, Position.after_append]

theorem IsWellFormed.append {first second : Layout} (firstWellFormed : first.IsWellFormed)
    (secondWellFormed : second.IsWellFormed) : (first.append second).IsWellFormed := by
  induction first with
  | last literal =>
      cases second with
      | last next => exact List.not_mem_append firstWellFormed secondWellFormed
      | before next expression rest =>
          exact ⟨List.not_mem_append firstWellFormed secondWellFormed.1, secondWellFormed.2⟩
  | before literal expression rest inductionHypothesis =>
      exact ⟨firstWellFormed.1, firstWellFormed.2.1, inductionHypothesis firstWellFormed.2.2⟩

/-- The expressions of a well-formed layout are well-formed wherever it is placed. -/
theorem IsWellFormed.of_mem_placed {layout : Layout} (wellFormed : layout.IsWellFormed)
    {position : Position} {expression : Expression}
    (member : expression ∈ layout.placed position) : expression.IsWellFormed := by
  induction layout generalizing position with
  | last literal => exact absurd member List.not_mem_nil
  | before literal first rest inductionHypothesis =>
      rcases List.mem_cons.mp member with rfl | later
      · exact ⟨wellFormed.2.1.nonempty, wellFormed.2.1.references⟩
      · exact inductionHypothesis wellFormed.2.2 later

/-- An expression between two empty literal texts. -/
def single (expression : Expression) : Layout :=
  before [] expression (last [])

theorem written_single (expression : Expression) :
    (single expression).written = expression.written := by
  simp [single, written]

/-- The layout of a well-formed expression is well-formed. -/
theorem isWellFormed_single {expression : Expression} (wellFormed : expression.IsWellFormed) :
    (single expression).IsWellFormed :=
  ⟨List.not_mem_nil, wellFormed, List.not_mem_nil⟩

end Layout

/-! The texts of the grammar are the texts that well-formed trees write. -/

namespace Grammar

/-- A prefix length is written without leading zeros. -/
theorem IsMaxLength.isLeading {digits : Text} (isMaxLength : IsMaxLength digits) :
    Numeral.IsLeading digits := by
  cases isMaxLength with
  | @digits first rest firstInRange short restIsDigits =>
      simp only [CodePoint.isBetween, Bool.and_eq_true, decide_eq_true_eq] at firstInRange
      have one : '1'.toNat = 49 := rfl
      have nine : '9'.toNat = 57 := rfl
      have firstIsDigit : first.isDigit = true := CodePoint.isDigit_iff.mpr (by omega)
      refine ⟨List.cons_ne_nil first rest, ?_, ?_⟩
      · intro digit member
        rcases List.mem_cons.mp member with rfl | later
        · exact firstIsDigit
        · exact restIsDigits digit later
      · intro isZero
        have sameValue : first.value = 48 := congrArg CodePoint.value (Option.some.inj isZero)
        omega

/-- The prefix lengths are the numerals of the numbers from 1 to 9999. -/
theorem isMaxLength_iff {text : Text} :
    IsMaxLength text ↔
      ∃ length : Nat, 1 ≤ length ∧ length ≤ 9999 ∧ Numeral.ofNat length = text := by
  constructor
  · intro isMaxLength
    have leading := isMaxLength.isLeading
    have written := Numeral.ofNat_value leading
    refine ⟨Numeral.value text, Numeral.value_pos leading, ?_, written⟩
    have short : (Numeral.ofNat (Numeral.value text)).length ≤ 4 := by
      rw [written]
      cases isMaxLength with
      | digits firstInRange short restIsDigits => exact Nat.succ_le_succ short
    have bounded := (Numeral.length_ofNat_le_iff (by decide)).mp short
    omega
  · rintro ⟨length, positive, bounded, rfl⟩
    have short : (Numeral.ofNat length).length ≤ 4 :=
      (Numeral.length_ofNat_le_iff (by decide)).mpr (by omega)
    have ⟨nonempty, isDigit, headNeZero⟩ := Numeral.isLeading_ofNat positive
    cases digits : Numeral.ofNat length with
    | nil => exact absurd digits nonempty
    | cons first rest =>
        rw [digits] at short isDigit headNeZero
        have ⟨lowest, highest⟩ := CodePoint.isDigit_iff.mp (isDigit first List.mem_cons_self)
        have isNoZero : first.value ≠ 48 := by
          intro equal
          exact headNeZero (congrArg some (CodePoint.ext_value equal))
        refine .digits ?_ (Nat.le_of_succ_le_succ short)
          fun digit member => isDigit digit (List.mem_cons_of_mem _ member)
        have one : '1'.toNat = 49 := rfl
        have nine : '9'.toNat = 57 := rfl
        simp only [CodePoint.isBetween, Bool.and_eq_true, decide_eq_true_eq]
        omega

/-- The grammar derives the texts of well-formed variables. -/
theorem isVarspec_iff {text : Text} :
    IsVarspec text ↔ ∃ reference : Variable, reference.IsWellFormed ∧ reference.written = text := by
  constructor
  · intro isVarspec
    cases isVarspec with
    | plain isName =>
        refine ⟨⟨_, .none, isName.ne_nil⟩, ⟨isName, .none⟩, ?_⟩
        simp [Variable.written, Modifier.written, Modifier.none]
    | exploded isName => exact ⟨⟨_, .explode, isName.ne_nil⟩, ⟨isName, .explode⟩, rfl⟩
    | cut isName isMaxLength =>
        obtain ⟨length, positive, bounded, rfl⟩ := isMaxLength_iff.mp isMaxLength
        exact ⟨⟨_, ⟨.cut, length⟩, isName.ne_nil⟩, ⟨isName, .cut positive bounded⟩, rfl⟩
  · rintro ⟨⟨name, modifier, nonempty⟩, ⟨isName, modifierWellFormed⟩, rfl⟩
    cases modifierWellFormed with
    | none =>
        simpa [Variable.written, Modifier.written, Modifier.none] using IsVarspec.plain isName
    | explode => exact .exploded isName
    | cut positive bounded =>
        exact .cut isName (isMaxLength_iff.mpr ⟨_, positive, bounded, rfl⟩)

/-- The grammar derives lists of well-formed variables. -/
theorem isVariableList_iff {text : Text} :
    IsVariableList text ↔ ∃ references : List Variable, references ≠ [] ∧
      (∀ reference ∈ references, reference.IsWellFormed) ∧
      Text.join "," (references.map Variable.written) = text := by
  constructor
  · intro isList
    induction isList with
    | single isVarspec =>
        obtain ⟨reference, wellFormed, rfl⟩ := isVarspec_iff.mp isVarspec
        exact ⟨[reference], by simp, by simpa using wellFormed, by simp [Text.join]⟩
    | cons isVarspec isList inductionHypothesis =>
        obtain ⟨reference, wellFormed, rfl⟩ := isVarspec_iff.mp isVarspec
        obtain ⟨references, nonempty, allWellFormed, rfl⟩ := inductionHypothesis
        refine ⟨reference :: references, by simp, ?_, ?_⟩
        · simpa using ⟨wellFormed, allWellFormed⟩
        · rw [List.map_cons, Text.join_cons _ _ (by simpa using nonempty), List.append_assoc]
          rfl
  · rintro ⟨references, nonempty, allWellFormed, rfl⟩
    induction references with
    | nil => exact absurd rfl nonempty
    | cons reference rest inductionHypothesis =>
        have wellFormed := allWellFormed reference List.mem_cons_self
        have isVarspec := isVarspec_iff.mpr ⟨reference, wellFormed, rfl⟩
        by_cases isLast : rest = []
        · subst isLast
          simpa [Text.join] using IsVariableList.single isVarspec
        · have isList := inductionHypothesis isLast
            fun other member => allWellFormed other (List.mem_cons_of_mem _ member)
          rw [List.map_cons, Text.join_cons _ _ (by simpa using isLast), List.append_assoc]
          exact .cons isVarspec isList

/-- The symbols of the grammar are those of the operators. -/
theorem mem_symbols_iff {symbol : CodePoint} :
    symbol ∈ Text.ofString "+#./;?&" ↔ ∃ operator : Operator, operator.symbol = [symbol] := by
  constructor
  · intro isSymbol
    simp [Text.ofString] at isSymbol
    rcases isSymbol with rfl | rfl | rfl | rfl | rfl | rfl | rfl
    · exact ⟨.reserved, rfl⟩
    · exact ⟨.fragment, rfl⟩
    · exact ⟨.label, rfl⟩
    · exact ⟨.path, rfl⟩
    · exact ⟨.parameter, rfl⟩
    · exact ⟨.query, rfl⟩
    · exact ⟨.continuation, rfl⟩
  · rintro ⟨operator, isSymbol⟩
    cases operator <;> cases isSymbol <;> decide

/-- The grammar derives the texts of well-formed expressions. -/
theorem isExpression_iff {text : Text} :
    IsExpression text ↔
      ∃ expression : Expression, expression.IsWellFormed ∧ expression.written = text := by
  constructor
  · intro isExpression
    cases isExpression with
    | plain isList =>
        obtain ⟨references, nonempty, allWellFormed, rfl⟩ := isVariableList_iff.mp isList
        exact ⟨⟨.simple, references, none⟩, ⟨nonempty, allWellFormed⟩, rfl⟩
    | operated isSymbol isList =>
        obtain ⟨operator, sameSymbol⟩ := mem_symbols_iff.mp isSymbol
        obtain ⟨references, nonempty, allWellFormed, rfl⟩ := isVariableList_iff.mp isList
        refine ⟨⟨operator, references, none⟩, ⟨nonempty, allWellFormed⟩, ?_⟩
        simp [Expression.written, sameSymbol]
  · rintro ⟨⟨operator, references, span⟩, ⟨nonempty, allWellFormed⟩, rfl⟩
    have isList := isVariableList_iff.mpr ⟨references, nonempty, allWellFormed, rfl⟩
    by_cases isSimple : operator = .simple
    · subst isSimple
      exact .plain isList
    · obtain ⟨symbol, sameSymbol⟩ := Operator.exists_symbol isSimple
      have isSymbol := mem_symbols_iff.mpr ⟨operator, sameSymbol⟩
      rw [Expression.written, sameSymbol]
      exact .operated isSymbol isList

/-- Literal text in front of a template is a template. -/
theorem IsTemplate.of_literal_append {literal rest : Text}
    (isLiteral : Expression.openBrace ∉ literal) (isTemplate : IsTemplate rest) :
    IsTemplate (literal ++ rest) := by
  induction literal with
  | nil => exact isTemplate
  | cons first others inductionHypothesis =>
      simp only [List.mem_cons, not_or] at isLiteral
      exact .literal (Ne.symm isLiteral.1) (inductionHypothesis isLiteral.2)

/-- The grammar derives the texts of well-formed layouts. -/
theorem isTemplate_iff {text : Text} :
    IsTemplate text ↔ ∃ layout : Layout, layout.IsWellFormed ∧ layout.written = text := by
  constructor
  · intro isTemplate
    induction isTemplate with
    | empty => exact ⟨.last [], List.not_mem_nil, rfl⟩
    | @literal codePoint rest isLiteral isTemplate inductionHypothesis =>
        obtain ⟨layout, wellFormed, rfl⟩ := inductionHypothesis
        have literalWellFormed : (Layout.last [codePoint]).IsWellFormed :=
          fun member => isLiteral (List.mem_singleton.mp member).symm
        exact ⟨(Layout.last [codePoint]).append layout, literalWellFormed.append wellFormed,
          Layout.written_append _ _⟩
    | expression isExpression isTemplate inductionHypothesis =>
        obtain ⟨expression, expressionWellFormed, rfl⟩ := isExpression_iff.mp isExpression
        obtain ⟨layout, wellFormed, rfl⟩ := inductionHypothesis
        refine ⟨(Layout.single expression).append layout,
          (Layout.isWellFormed_single expressionWellFormed).append wellFormed, ?_⟩
        rw [Layout.written_append, Layout.written_single]
  · rintro ⟨layout, wellFormed, rfl⟩
    induction layout with
    | last literal =>
        have same : literal ++ [] = literal := List.append_nil literal
        exact same ▸ .of_literal_append wellFormed .empty
    | before literal expression rest inductionHypothesis =>
        obtain ⟨isLiteral, expressionWellFormed, restWellFormed⟩ := wellFormed
        rw [Layout.written, List.append_assoc]
        exact .of_literal_append isLiteral
          (.expression (isExpression_iff.mpr ⟨expression, expressionWellFormed, rfl⟩)
            (inductionHypothesis restWellFormed))

end Grammar

end UriTemplate
