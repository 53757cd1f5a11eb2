import Mathlib.Data.List.DropRight
import UriTemplate.Diagnostic
import UriTemplate.Proofs.Syntax.Concatenation
import UriTemplate.Proofs.Text.Splitting

namespace UriTemplate

namespace Text

/-- The first piece reaches up to the first separator. -/
theorem head?_splitOn (separator : CodePoint) (text : Text) :
    (splitOn separator text).head? = some (text.takeWhile (· ≠ separator)) := by
  induction text with
  | nil => rfl
  | cons first rest inductionHypothesis =>
      rw [splitOn]
      by_cases isSeparator : first = separator
      · simp [isSeparator]
      · obtain ⟨piece, pieces, isSplit⟩ := List.exists_cons_of_ne_nil
          (splitOn_eq_listSplitOn separator rest ▸ List.splitOn_ne_nil separator rest)
        rw [isSplit, List.head?_cons, Option.some_inj] at inductionHypothesis
        simp [isSeparator, isSplit, inductionHypothesis]

/-- There is one piece more than there are separators. -/
theorem length_splitOn (separator : CodePoint) (text : Text) :
    (splitOn separator text).length = text.count separator + 1 := by
  induction text with
  | nil => rfl
  | cons first rest inductionHypothesis =>
      rw [splitOn]
      by_cases isSeparator : first = separator
      · simp [isSeparator, inductionHypothesis]
      · obtain ⟨piece, pieces, isSplit⟩ := List.exists_cons_of_ne_nil
          (splitOn_eq_listSplitOn separator rest ▸ List.splitOn_ne_nil separator rest)
        rw [isSplit, List.length_cons] at inductionHypothesis
        simp [isSeparator, isSplit, inductionHypothesis]

/-- A text can be split at any of its separators first. -/
theorem splitOn_append_cons (separator : CodePoint) (before behind : Text) :
    splitOn separator (before ++ separator :: behind) =
      splitOn separator before ++ splitOn separator behind := by
  simp only [splitOn_eq_listSplitOn, List.splitOn_eq_splitOnP]
  exact List.splitOnP_append_cons _ _ (beq_self_eq_true separator)

/-- The separators in front of a place number the piece that holds the place. -/
theorem getElem?_splitOn_count (separator : CodePoint) (before behind : Text) :
    (splitOn separator (before ++ behind))[before.count separator]? =
      some (before.rtakeWhile (· ≠ separator) ++ behind.takeWhile (· ≠ separator)) := by
  -- The last character in front of the place decides whether the piece begins there.
  induction before using List.reverseRecOn generalizing behind with
  | nil =>
      rw [List.nil_append, List.count_nil, ← List.head?_eq_getElem?, head?_splitOn]
      rfl
  | append_singleton before last inductionHypothesis =>
      rw [List.append_assoc, List.singleton_append]
      by_cases isSeparator : last = separator
      · subst isSeparator
        have count : (before ++ [last]).count last = (splitOn last before).length := by
          rw [length_splitOn, List.count_append, List.count_singleton_self]
        have begins : (before ++ [last]).rtakeWhile (· ≠ last) = [] :=
          List.rtakeWhile_concat_neg _ _ _ (by simp)
        rw [splitOn_append_cons, count, List.getElem?_append_right (Nat.le_refl _), Nat.sub_self,
          ← List.head?_eq_getElem?, head?_splitOn, begins, List.nil_append]
      · have count : (before ++ [last]).count separator = before.count separator := by
          simp [List.count_append, isSeparator]
        have continues : (before ++ [last]).rtakeWhile (· ≠ separator) =
            before.rtakeWhile (· ≠ separator) ++ [last] :=
          List.rtakeWhile_concat_pos _ _ _ (by simpa using isSeparator)
        rw [count, inductionHypothesis, continues, List.append_assoc]
        simp [isSeparator]

/-- The characters in front of an offset, back to the last line feed. -/
def lineBefore (text : Text) (offset : Nat) : Text :=
  (text.take offset).rtakeWhile (· ≠ CodePoint.ofChar '\n')

/-- The characters from an offset on, up to the next line feed. -/
def lineFrom (text : Text) (offset : Nat) : Text :=
  (text.drop offset).takeWhile (· ≠ CodePoint.ofChar '\n')

/-- The line that holds an offset. A line feed belongs to the line that it ends. -/
def lineAround (text : Text) (offset : Nat) : Text :=
  text.lineBefore offset ++ text.lineFrom offset

/-- Line feeds in front of an offset count up to its line. -/
theorem getElem?_lines_count (text : Text) (offset : Nat) :
    text.lines[(text.take offset).count (CodePoint.ofChar '\n')]? =
      some (text.lineAround offset) := by
  have found := getElem?_splitOn_count (CodePoint.ofChar '\n') (text.take offset)
    (text.drop offset)
  rw [List.take_append_drop] at found
  exact found

/-- The character at an offset stands behind the part of its line that precedes the offset. -/
theorem getElem?_lineAround {text : Text} {offset : Nat} {codePoint : CodePoint}
    (isThere : text[offset]? = some codePoint) (isNoLineFeed : codePoint ≠ CodePoint.ofChar '\n') :
    (text.lineAround offset)[(text.lineBefore offset).length]? = some codePoint := by
  obtain ⟨inRange, rfl⟩ := List.getElem?_eq_some_iff.mp isThere
  rw [lineAround, List.getElem?_append_right (Nat.le_refl _), Nat.sub_self, lineFrom,
    List.drop_eq_getElem_cons inRange, List.takeWhile_cons_of_pos (by simpa using isNoLineFeed)]
  rfl

end Text

namespace Position

/-- The line is counted by line feeds. -/
theorem line_after_start (text : Text) :
    (start.after text).line = 1 + text.count (CodePoint.ofChar '\n') := by
  induction text using List.reverseRecOn with
  | nil => rfl
  | append_singleton text last inductionHypothesis =>
      rw [after_concat, advance, List.count_append, List.count_singleton]
      split
      · simp [*, Nat.add_assoc]
      · simp [*]

/-- The column is counted from the last line feed. -/
theorem column_after_start (text : Text) :
    (start.after text).column =
      1 + (text.rtakeWhile (· ≠ CodePoint.ofChar '\n')).length := by
  induction text using List.reverseRecOn with
  | nil => rfl
  | append_singleton text last inductionHypothesis =>
      rw [after_concat, advance, List.rtakeWhile_concat]
      split
      · simp [*]
      · simp [*, Nat.add_assoc]

end Position

namespace Span

/-- The line and the column of a span are those of its start in a text. -/
structure IsNumberedIn (span : Span) (text : Text) : Prop where
  line : span.line = 1 + (text.take span.start).count (CodePoint.ofChar '\n')
  column : span.column = 1 + (text.lineBefore span.start).length

/-- A range starts behind the text in front of it. -/
theorem start_covering (before marked : Text) :
    (covering (Position.start.after before) marked).start = before.length := by
  rw [covering, Position.offset_after]
  exact Nat.zero_add _

theorem stop_covering (before marked : Text) :
    (covering (Position.start.after before) marked).stop = before.length + marked.length := by
  rw [← start_covering before marked]
  rfl

theorem single_eq_covering (position : Position) (codePoint : CodePoint) :
    single position = covering position [codePoint] := rfl

/-- A span behind a part of a text is numbered in the whole text. -/
theorem isNumberedIn_covering (before marked behind : Text) :
    (covering (Position.start.after before) marked).IsNumberedIn (before ++ behind) where
  line := by
    rw [start_covering, List.take_left]
    exact Position.line_after_start before
  column := by
    rw [start_covering, Text.lineBefore, List.take_left]
    exact Position.column_after_start before

end Span

namespace Diagnostic

/-- A numbered span is shown with the line that holds its start, and a caret below its start. -/
theorem excerpt_of_isNumberedIn {source : Text} {span : Span}
    (isNumbered : span.IsNumberedIn source) :
    excerpt source span = .ok ["   | " ++ source.lineAround span.start,
      "   | " ++ List.replicate (source.lineBefore span.start).length (CodePoint.ofChar ' ') ++
        "^"] := by
  have found : line? source.lines span.line = some (source.lineAround span.start) := by
    rw [isNumbered.line, Nat.add_comm]
    exact source.getElem?_lines_count span.start
  rw [excerpt, found, isNumbered.column, Nat.add_sub_cancel_left]

/-- A numbered fault is shown with its line and a caret under its column. -/
theorem format_of_isNumberedIn {source : Text} {fault : SyntaxFault}
    (isNumbered : fault.span.IsNumberedIn source) :
    (SyntaxError.diagnostic ⟨fault, some source⟩).format = .ok (Text.join "\n"
      (["TemplateSyntaxError: " ++ fault.cause.message, "  --> " ++ fault.span.written,
        "   | " ++ source.lineAround fault.span.start,
        "   | " ++ List.replicate (source.lineBefore fault.span.start).length
          (CodePoint.ofChar ' ') ++ "^"] ++
        suggestionLines (SyntaxError.diagnostic ⟨fault, some source⟩))) := by
  have shown := excerpt_of_isNumberedIn isNumbered
  simp only [format, locationLines, SyntaxError.diagnostic, shown]
  rfl

end Diagnostic

end UriTemplate
