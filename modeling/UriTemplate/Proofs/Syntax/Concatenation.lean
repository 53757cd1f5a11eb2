import UriTemplate.Proofs.Syntax.RoundTrip

namespace UriTemplate

/-- The span moves with its text when another text is put in front. Only what stands in the line in
which the other text ends changes its column. -/
def Span.behind (text : Text) (span : Span) : Span where
  start := text.length + span.start
  stop := text.length + span.stop
  line := (Position.start.after text).line + (span.line - 1)
  column :=
    if span.line = 1 then (Position.start.after text).column + (span.column - 1)
    else span.column

def Expression.behind (text : Text) (expression : Expression) : Expression :=
  { expression with span := expression.span.map (Span.behind text) }

namespace Position

/-- The last character of a text moves the position last. -/
theorem after_concat (position : Position) (text : Text) (last : CodePoint) :
    position.after (text ++ [last]) = (position.after text).advance last :=
  position.after_append text [last]

/-- Lines and columns are counted from one. -/
theorem one_le_after (text : Text) :
    1 ≤ (start.after text).line ∧ 1 ≤ (start.after text).column := by
  induction text using List.reverseRecOn with
  | nil => decide
  | append_singleton text last inductionHypothesis =>
      rw [after_concat, advance]
      split
      · exact ⟨Nat.le_add_left 1 _, Nat.le_refl 1⟩
      · exact ⟨inductionHypothesis.1, Nat.le_add_left 1 _⟩

/-- The lines of two texts add up but for the one they share. -/
theorem line_after_append (before text : Text) :
    (start.after (before ++ text)).line =
      (start.after before).line + ((start.after text).line - 1) := by
  -- The last character decides where the text ends, so the text grows at its end.
  induction text using List.reverseRecOn with
  | nil => rw [List.append_nil]; rfl
  | append_singleton text last inductionHypothesis =>
      have positive := (one_le_after text).1
      rw [← List.append_assoc, after_concat, after_concat, advance, advance]
      split
      · dsimp only
        omega
      · exact inductionHypothesis

/-- The first line of the second text goes on in the last line of the first. -/
theorem column_after_append (before text : Text) :
    (start.after (before ++ text)).column =
      if (start.after text).line = 1 then
        (start.after before).column + ((start.after text).column - 1)
      else (start.after text).column := by
  induction text using List.reverseRecOn with
  | nil => rw [List.append_nil]; rfl
  | append_singleton text last inductionHypothesis =>
      have positive := one_le_after text
      rw [← List.append_assoc, after_concat, after_concat, advance, advance]
      split
      · dsimp only
        rw [if_neg (by omega)]
      · dsimp only
        rw [inductionHypothesis]
        split <;> omega

end Position

/-- Wherever the text ends up, its span behind another text is the span moved behind it. -/
theorem Span.covering_behind (text before written : Text) :
    Span.covering (Position.start.after (text ++ before)) written =
      (Span.covering (Position.start.after before) written).behind text := by
  have offset : (Position.start.after (text ++ before)).offset =
      text.length + (Position.start.after before).offset := by
    rw [Position.offset_after, Position.offset_after, List.length_append]
    exact Nat.add_left_comm 0 text.length before.length
  rw [covering, covering, behind, offset, Position.line_after_append,
    Position.column_after_append, Nat.add_assoc]

namespace Layout

/-- A layout behind a text has its expressions further on. -/
theorem placed_behind (text before : Text) (layout : Layout) :
    layout.placed (Position.start.after (text ++ before)) =
      (layout.placed (Position.start.after before)).map (Expression.behind text) := by
  induction layout generalizing before with
  | last literal => rfl
  | before literal expression rest inductionHypothesis =>
      have moved := Span.covering_behind text (before ++ literal) expression.written
      have others := inductionHypothesis (before ++ (literal ++ expression.written))
      rw [← List.append_assoc, Position.after_append, Position.after_append _ before] at moved
      rw [← List.append_assoc, Position.after_append, Position.after_append _ before] at others
      rw [placed, placed, List.map_cons, others]
      simp only [Expression.placedAt, Expression.behind, moved, Option.map_some]

/-! The literal texts at the two ends of a layout, and the text beyond them. -/

def firstLiteral : Layout → Text
  | last literal => literal
  | before literal _ _ => literal

def lastLiteral : Layout → Text
  | last literal => literal
  | before _ _ rest => rest.lastLiteral

def behindFirst : Layout → Text
  | last _ => []
  | before _ expression rest => expression.written ++ rest.written

def beforeLast : Layout → Text
  | last _ => []
  | before literal expression rest => literal ++ expression.written ++ rest.beforeLast

/-- A layout is its first literal text and what is behind it. -/
theorem firstLiteral_append (layout : Layout) :
    layout.firstLiteral ++ layout.behindFirst = layout.written := by
  cases layout with
  | last literal => exact List.append_nil literal
  | before literal expression rest => exact (List.append_assoc _ _ _).symm

/-- A layout is what is in front of its last literal text and that text. -/
theorem append_lastLiteral (layout : Layout) :
    layout.beforeLast ++ layout.lastLiteral = layout.written := by
  induction layout with
  | last literal => rfl
  | before literal expression rest inductionHypothesis =>
      rw [beforeLast, lastLiteral, List.append_assoc, inductionHypothesis, written]

/-- The ranges of the literal texts, when the text of the layout starts at an offset. -/
def ranges (offset : Nat) : Layout → List (Nat × Nat)
  | last literal => [(offset, offset + literal.length)]
  | before literal expression rest =>
      (offset, offset + literal.length) ::
        rest.ranges (offset + (literal ++ expression.written).length)

/-- The literal ranges of placed expressions are those of the layout. -/
theorem rangesFrom_eq_ranges (layout : Layout) (position : Position) :
    Template.rangesFrom position.offset (position.offset + layout.written.length)
      (layout.placed position) = layout.ranges position.offset := by
  induction layout generalizing position with
  | last literal => rfl
  | before literal expression rest inductionHypothesis =>
      have others := inductionHypothesis (position.after (literal ++ expression.written))
      rw [Position.offset_after] at others
      rw [placed, Template.rangesFrom, ranges, ← others, Expression.start_placedAt,
        Expression.stop_placedAt, Position.offset_after]
      simp only [written, List.length_append, Nat.add_assoc]

/-- No literal range starts before the layout. -/
theorem le_of_mem_ranges {layout : Layout} {offset : Nat} {range : Nat × Nat}
    (member : range ∈ layout.ranges offset) : offset ≤ range.1 := by
  induction layout generalizing offset with
  | last literal =>
      obtain rfl := List.mem_singleton.mp member
      exact Nat.le_refl _
  | before literal expression rest inductionHypothesis =>
      rcases List.mem_cons.mp member with rfl | later
      · exact Nat.le_refl _
      · exact Nat.le_trans (Nat.le_add_right _ _) (inductionHypothesis later)

/-- Of the literal ranges only the one at the seam reaches over it. -/
theorem mem_ranges_append_iff (first second : Layout) (offset : Nat) (range : Nat × Nat)
    (before : range.1 < offset + first.written.length)
    (behind : offset + first.written.length < range.2) :
    range ∈ (first.append second).ranges offset ↔
      range = (offset + first.beforeLast.length,
        offset + first.written.length + second.firstLiteral.length) := by
  -- The ranges in front of the seam end there at the latest, and those behind it start later.
  induction first generalizing offset with
  | last literal =>
      cases second with
      | last next =>
          rw [append, ranges, List.mem_singleton, List.length_append, ← Nat.add_assoc]
          rfl
      | before next expression rest =>
          rw [append, ranges, List.mem_cons, List.length_append, ← Nat.add_assoc]
          apply or_iff_left
          intro later
          have isLater := le_of_mem_ranges later
          simp only [written, List.length_append] at before isLater
          omega
  | before literal expression rest inductionHypothesis =>
      have whole : offset + (Layout.before literal expression rest).written.length =
          offset + (literal ++ expression.written).length + rest.written.length := by
        rw [written, List.length_append, Nat.add_assoc]
      have front : offset + (Layout.before literal expression rest).beforeLast.length =
          offset + (literal ++ expression.written).length + rest.beforeLast.length := by
        rw [beforeLast, List.length_append, Nat.add_assoc]
      rw [whole] at before behind
      rw [append, ranges, List.mem_cons, inductionHypothesis _ before behind, whole, front]
      apply or_iff_right
      rintro rfl
      simp only [List.length_append] at behind
      omega

/-- The template of a layout has the literal ranges of the layout. -/
theorem literalRanges_template (layout : Layout) :
    layout.template.literalRanges = layout.ranges 0 := by
  have ranges := layout.rangesFrom_eq_ranges Position.start
  rw [offset_start, List.length_nil, Nat.zero_add] at ranges
  exact ranges

end Layout

end UriTemplate
