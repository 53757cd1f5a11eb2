import UriTemplate.Proofs.Syntax.ParserInvariant

namespace UriTemplate

/-- The members of two lists in turn, starting with the first list. -/
def alternate {α : Type} : List α → List α → List α
  | [], others => others
  | first :: rest, [] => first :: rest
  | first :: rest, second :: others => first :: second :: alternate rest others

/-- The ranges lead from the first offset to the last, without a gap and without an overlap. -/
inductive Tiles : Nat → Nat → List (Nat × Nat) → Prop
  | done (offset : Nat) : Tiles offset offset []
  | next {start middle stop : Nat} {ranges : List (Nat × Nat)} (forward : start ≤ middle)
      (others : Tiles middle stop ranges) : Tiles start stop ((start, middle) :: ranges)

def Expression.range (expression : Expression) : Nat × Nat :=
  (expression.start, expression.stop)

/-- The texts at the literal ranges. -/
def Template.literalTexts (template : Template) : List Text :=
  template.literalRanges.map fun range => template.raw.slice range.1 range.2

@[simp] theorem Expression.start_placedAt (expression : Expression) (position : Position) :
    (expression.placedAt position).start = position.offset := rfl

@[simp] theorem Expression.stop_placedAt (expression : Expression) (position : Position) :
    (expression.placedAt position).stop = position.offset + expression.written.length := rfl

namespace Layout

/-- No literal text of a well-formed layout has an opening brace. -/
theorem not_mem_of_mem_literals {layout : Layout} (wellFormed : layout.IsWellFormed)
    {literal : Text} (member : literal ∈ layout.literals) : Expression.openBrace ∉ literal := by
  induction layout with
  | last text => exact List.mem_singleton.mp member ▸ wellFormed
  | before text expression rest inductionHypothesis =>
      rcases List.mem_cons.mp member with rfl | later
      · exact wellFormed.1
      · exact inductionHypothesis wellFormed.2.2 later

/-- Placing the expressions changes nothing in them but their places. -/
theorem content_placed (layout : Layout) (position : Position) :
    (layout.placed position).map Expression.content =
      layout.expressions.map Expression.content := by
  induction layout generalizing position with
  | last literal => rfl
  | before literal expression rest inductionHypothesis =>
      simp [placed, expressions, inductionHypothesis]

/-! The text of a layout, behind any other text, holds its parts where they are placed. -/

section Placed

variable {before : Text} {position : Position}

/-- The offset counts the text in front. -/
theorem offset_behind (isBehind : position.offset = before.length) (text : Text) :
    (position.after text).offset = (before ++ text).length := by
  rw [Position.offset_after, isBehind, List.length_append]

/-- From any point on, the canonical text of a layout is its text. -/
theorem canonicalFrom_placed (isBehind : position.offset = before.length) (layout : Layout) :
    Template.canonicalFrom (before ++ layout.written) before.length (layout.placed position) =
      layout.written := by
  induction layout generalizing before position with
  | last literal => exact List.drop_left
  | before literal expression rest inductionHypothesis =>
      have others := inductionHypothesis (offset_behind isBehind (literal ++ expression.written))
      rw [placed, Template.canonicalFrom, Expression.start_placedAt, Expression.stop_placedAt,
        Expression.written_placedAt, offset_behind isBehind]
      simp only [written, List.append_assoc, List.length_append, Nat.add_assoc] at others ⊢
      rw [Text.slice_append, others]

/-- The slices at the literal ranges are the literal texts. -/
theorem rangesFrom_placed (isBehind : position.offset = before.length) (layout : Layout) :
    (Template.rangesFrom before.length (before ++ layout.written).length
      (layout.placed position)).map
        (fun range => (before ++ layout.written).slice range.1 range.2) = layout.literals := by
  induction layout generalizing before position with
  | last literal =>
      have whole := Text.slice_append before literal []
      rw [List.append_nil, ← List.length_append] at whole
      exact congrArg (· :: []) whole
  | before literal expression rest inductionHypothesis =>
      have others := inductionHypothesis (offset_behind isBehind (literal ++ expression.written))
      rw [placed, Template.rangesFrom, List.map_cons, Expression.start_placedAt,
        Expression.stop_placedAt, offset_behind isBehind]
      simp only [written, List.append_assoc, List.length_append, Nat.add_assoc] at others ⊢
      rw [Text.slice_append, others, literals]

/-- Literal ranges and expressions tile the text of the layout. -/
theorem tiles_placed (isBehind : position.offset = before.length) (layout : Layout) :
    Tiles before.length (before ++ layout.written).length
      (alternate
        (Template.rangesFrom before.length (before ++ layout.written).length
          (layout.placed position))
        ((layout.placed position).map Expression.range)) := by
  induction layout generalizing before position with
  | last literal =>
      refine .next ?_ (.done _)
      rw [List.length_append]
      exact Nat.le_add_right _ _
  | before literal expression rest inductionHypothesis =>
      have others := inductionHypothesis (offset_behind isBehind (literal ++ expression.written))
      rw [placed, Template.rangesFrom, List.map_cons, alternate, Expression.range,
        Expression.start_placedAt, Expression.stop_placedAt, offset_behind isBehind]
      simp only [written, List.append_assoc, List.length_append, Nat.add_assoc] at others ⊢
      refine .next ?_ (.next ?_ others)
      · omega
      · omega

/-- The slice at an expression is its text. -/
theorem slice_placed (isBehind : position.offset = before.length) (layout : Layout) :
    ∀ expression ∈ layout.placed position,
      (before ++ layout.written).slice expression.start expression.stop = expression.written := by
  induction layout generalizing before position with
  | last literal =>
      intro expression member
      exact absurd member List.not_mem_nil
  | before literal expression rest inductionHypothesis =>
      have others := inductionHypothesis (offset_behind isBehind (literal ++ expression.written))
      have here := Text.slice_append (before ++ literal) expression.written rest.written
      simp only [written, List.append_assoc] at others here ⊢
      intro other member
      rcases List.mem_cons.mp member with rfl | later
      · rw [Expression.start_placedAt, Expression.stop_placedAt, Expression.written_placedAt,
          offset_behind isBehind]
        exact here
      · exact others other later

end Placed

/-! The same for a layout whose text is the whole source. -/

theorem offset_start : Position.start.offset = List.length ([] : Text) := rfl

theorem literalTexts_template (layout : Layout) :
    layout.template.literalTexts = layout.literals :=
  rangesFrom_placed offset_start layout

theorem canonical_template (layout : Layout) : layout.template.canonical = layout.written :=
  canonicalFrom_placed offset_start layout

theorem tiles_template (layout : Layout) :
    Tiles 0 layout.written.length
      (alternate layout.template.literalRanges
        (layout.template.expressions.map Expression.range)) :=
  tiles_placed offset_start layout

theorem slice_template (layout : Layout) :
    ∀ expression ∈ layout.template.expressions,
      layout.written.slice expression.start expression.stop = expression.written :=
  slice_placed offset_start layout

end Layout

namespace Template

/-- Only well-formed expressions are read. -/
theorem isWellFormed_of_parse {source : Text} {template : Template}
    (read : parse source = .ok template) {expression : Expression}
    (member : expression ∈ template.expressions) : expression.IsWellFormed := by
  obtain ⟨layout, wellFormed, -, rfl⟩ := parse_eq_ok_iff.mp read
  exact wellFormed.of_mem_placed member

/-- There is one literal range more than there are expressions. -/
theorem length_rangesFrom (previous length : Nat) (expressions : List Expression) :
    (rangesFrom previous length expressions).length = expressions.length + 1 := by
  induction expressions generalizing previous with
  | nil => rfl
  | cons expression rest inductionHypothesis =>
      rw [rangesFrom, List.length_cons, inductionHypothesis, List.length_cons]

/-- A text is read as a template if the grammar derives it, and is reported as malformed if the
grammar does not; nothing else happens. -/
theorem parse_accepts_grammar (source : Text) :
    ((∃ template, parse source = .ok template) ↔ Grammar.IsTemplate source) ∧
      ((∃ error, parse source = .error (.malformed error)) ↔ ¬ Grammar.IsTemplate source) := by
  have accepted : (∃ template, parse source = .ok template) ↔ Grammar.IsTemplate source := by
    rw [Grammar.isTemplate_iff]
    constructor
    · rintro ⟨template, read⟩
      obtain ⟨layout, wellFormed, written, -⟩ := parse_eq_ok_iff.mp read
      exact ⟨layout, wellFormed, written⟩
    · rintro ⟨layout, wellFormed, written⟩
      exact ⟨layout.template, parse_eq_ok_iff.mpr ⟨layout, wellFormed, written, rfl⟩⟩
  refine ⟨accepted, ?_⟩
  rw [← accepted]
  constructor
  · rintro ⟨error, refused⟩ ⟨template, read⟩
    rw [refused] at read
    cases read
  · intro isNoTemplate
    rcases parse_layout_or_malformed source with ⟨layout, wellFormed, written, read⟩ | refused
    · exact absurd ⟨layout.template, read⟩ isNoTemplate
    · exact refused

/-- A template keeps every character of the text it was read from: written anew it is that text,
and its literal ranges and its expressions cover the text in turn. -/
theorem parse_lossless {source : Text} {template : Template}
    (read : parse source = .ok template) :
    template.canonical = source ∧
      template.literalRanges.length = template.expressions.length + 1 ∧
      Tiles 0 source.length
        (alternate template.literalRanges (template.expressions.map Expression.range)) ∧
      (∀ expression ∈ template.expressions,
        source.slice expression.start expression.stop = expression.written) ∧
      (∀ range ∈ template.literalRanges, Expression.openBrace ∉ source.slice range.1 range.2) ∧
      parse template.canonical = .ok template := by
  obtain ⟨layout, wellFormed, rfl, rfl⟩ := parse_eq_ok_iff.mp read
  have writtenAnew := layout.canonical_template
  refine ⟨writtenAnew, length_rangesFrom _ _ _, layout.tiles_template,
    layout.slice_template, ?_, ?_⟩
  · intro range member
    have isLiteral : layout.written.slice range.1 range.2 ∈ layout.template.literalTexts :=
      List.mem_map_of_mem member
    rw [layout.literalTexts_template] at isLiteral
    exact Layout.not_mem_of_mem_literals wellFormed isLiteral
  · rw [writtenAnew]
    exact read

theorem parse_lossless_query :
    let source := Text.ofString "/find\x7b?word,page*,part:3\x7d\x7d"
    let template : Template := ⟨source, [⟨.query, [⟨"word", .none, by decide⟩,
      ⟨"page", .explode, by decide⟩, ⟨"part", ⟨.cut, 3⟩, by decide⟩], some ⟨5, 25, 1, 6⟩⟩]⟩
    parse source = .ok template ∧ template.canonical = source ∧
      Tiles 0 26 [(0, 5), (5, 25), (25, 26)] ∧ parse template.canonical = .ok template := by
  intro source template
  have read : parse source = .ok template := by decide +kernel
  have ⟨writtenAnew, _, tiles, _, _, readAgain⟩ := parse_lossless read
  exact ⟨read, writtenAnew, tiles, readAgain⟩

/-- What is written from literal texts and expressions is read as them again. -/
theorem parse_written_parts {layout : Layout} (wellFormed : layout.IsWellFormed) :
    ∃ template, parse layout.written = .ok template ∧
      template.expressions.map Expression.content =
        layout.expressions.map Expression.content ∧
      template.literalTexts = layout.literals :=
  ⟨layout.template, parse_written wellFormed, layout.content_placed Position.start,
    layout.literalTexts_template⟩

theorem parse_written_parts_label :
    let expression : Expression :=
      ⟨.label, [⟨"%41.b", ⟨.cut, 9999⟩, by decide⟩, ⟨"0", .explode, by decide⟩], none⟩
    ∃ template, parse "%\x7d\x7b.%41.b:9999,0*\x7d" = .ok template ∧
      template.expressions.map Expression.content = [expression.content] ∧
      template.literalTexts = [Text.ofString "%\x7d", []] := by
  intro expression
  have triplet : Grammar.IsVarchar "%41" := .triplet rfl rfl
  have dotted : Grammar.IsNameTail ".b" := .dotted (.letter rfl) .done
  have zero : Grammar.IsName "0" := .starting (.digit rfl) .done
  have expressionWellFormed : expression.IsWellFormed := by
    refine ⟨by decide, ?_⟩
    intro reference member
    simp only [expression, List.mem_cons, List.not_mem_nil, or_false] at member
    rcases member with rfl | rfl
    · exact ⟨.starting triplet dotted, .cut (by decide) (by decide)⟩
    · exact ⟨zero, .explode⟩
  have wellFormed : (Layout.before "%\x7d" expression (.last [])).IsWellFormed :=
    ⟨by decide, expressionWellFormed, List.not_mem_nil⟩
  exact parse_written_parts wellFormed

end Template

end UriTemplate
