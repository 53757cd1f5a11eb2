import UriTemplate.Proofs.Expansion.OperatorTable
import UriTemplate.Proofs.PercentEncoding.Seam
import UriTemplate.Proofs.Syntax.Concatenation

namespace UriTemplate

open PercentEncoding

/-- A slice inside the middle part is the slice of that part. -/
theorem Text.slice_middle (before : Text) {middle : Text} {stop : Nat}
    (inside : stop ≤ middle.length) (behind : Text) (start : Nat) :
    (before ++ (middle ++ behind)).slice (before.length + start) (before.length + stop) =
      middle.slice start stop := by
  rw [slice, List.take_length_add_append, List.drop_length_add_append,
    List.take_append_of_le_length inside, slice]

namespace Layout

variable {bindings : Bindings}

/-- The text that the layout expands to. -/
def expanded (bindings : Bindings) : Layout → Text
  | last literal => encode true literal
  | before literal expression rest =>
      encode true literal ++ Expansion.expression bindings expression ++ rest.expanded bindings

/-- A layout behind any text expands to its own expansion. -/
theorem templateFrom_placed {before : Text} {position : Position}
    (isBehind : position.offset = before.length) (streamless : bindings.Streamless)
    (layout : Layout) :
    Expansion.templateFrom (before ++ layout.written) before.length bindings
      (layout.placed position) = layout.expanded bindings := by
  induction layout generalizing before position with
  | last literal =>
      have whole := Text.slice_append before literal []
      rw [List.append_nil, ← List.length_append] at whole
      rw [written, placed, Expansion.templateFrom, encodeRange_eq_encode_slice,
        Option.getD_none, whole, expanded]
  | before literal expression rest inductionHypothesis =>
      have others := inductionHypothesis (offset_behind isBehind (literal ++ expression.written))
      have here := Text.slice_append before literal (expression.written ++ rest.written)
      have unchanged : (Expansion.resolve bindings
          (expression.placedAt (position.after literal)).references).2 = bindings :=
        congrArg Prod.snd (Expansion.resolve_of_streamless streamless expression.references)
      rw [placed, Expansion.templateFrom, Expression.start_placedAt, Expression.stop_placedAt,
        offset_behind isBehind, encodeRange_eq_encode_slice, Option.getD_some]
      simp only [written, List.append_assoc, List.length_append, Nat.add_assoc] at others here ⊢
      rw [here, unchanged, others, expanded, List.append_assoc]
      rfl

/-- The template of a layout expands to the expansion of the layout. -/
theorem template_expanded (streamless : bindings.Streamless) (layout : Layout) :
    Expansion.template layout.template bindings = layout.expanded bindings :=
  templateFrom_placed offset_start streamless layout

/-- Two layouts expand apart if their literal texts at the seam are encoded apart. -/
theorem expanded_append_iff (first second : Layout) :
    (first.append second).expanded bindings =
        first.expanded bindings ++ second.expanded bindings ↔
      encode true (first.lastLiteral ++ second.firstLiteral) =
        encode true first.lastLiteral ++ encode true second.firstLiteral := by
  induction first with
  | last literal =>
      cases second with
      | last next => exact Iff.rfl
      | before next expression rest =>
          simp only [append, expanded, lastLiteral, firstLiteral, ← List.append_assoc,
            List.append_cancel_right_eq]
  | before literal expression rest inductionHypothesis =>
      rw [lastLiteral, ← inductionHypothesis]
      simp only [append, expanded, List.append_assoc, List.append_cancel_left_eq]

/-- A triplet across the seam lies in the literal text that the two layouts have in common. -/
theorem straddles_iff (first second : Layout) :
    Straddles first.lastLiteral second.firstLiteral ↔
      ∃ start, start < first.written.length ∧ first.written.length < start + 3 ∧
        (∃ range ∈ (first.append second).template.literalRanges,
          range.1 ≤ start ∧ start + 3 ≤ range.2) ∧
        isTripletText ((first.written ++ second.written).slice start (start + 3)) = true := by
  have whole : first.written ++ second.written = first.beforeLast ++
      ((first.lastLiteral ++ second.firstLiteral) ++ second.behindFirst) := by
    rw [← first.append_lastLiteral, ← second.firstLiteral_append]
    simp only [List.append_assoc]
  have length : first.written.length = first.beforeLast.length + first.lastLiteral.length := by
    rw [← first.append_lastLiteral, List.length_append]
  have seam {range : Nat × Nat} (before : range.1 < first.written.length)
      (behind : first.written.length < range.2) :
      range ∈ (first.append second).ranges 0 ↔
        range = (first.beforeLast.length, first.written.length + second.firstLiteral.length) := by
    have isSeam := mem_ranges_append_iff first second 0 range
    simp only [Nat.zero_add] at isSeam
    exact isSeam before behind
  rw [literalRanges_template, whole]
  constructor
  · rintro ⟨start, inside, across, isTriplet⟩
    have fits := le_length_of_isTripletText isTriplet
    rw [List.length_append] at fits
    have covers : (first.beforeLast.length, first.written.length + second.firstLiteral.length) ∈
        (first.append second).ranges 0 :=
      (seam (by dsimp only; omega) (by dsimp only; omega)).mpr rfl
    refine ⟨first.beforeLast.length + start, by omega, by omega, ⟨_, covers, ?_, ?_⟩, ?_⟩
    · exact Nat.le_add_right _ _
    · dsimp only
      omega
    · rw [Nat.add_assoc, Text.slice_middle]
      · exact isTriplet
      · rw [List.length_append]
        exact fits
  · rintro ⟨start, inside, across, ⟨range, member, starts, stops⟩, isTriplet⟩
    obtain rfl := (seam (by omega) (by omega)).mp member
    dsimp only at starts stops
    refine ⟨start - first.beforeLast.length, by omega, by omega, ?_⟩
    have isShifted : start = first.beforeLast.length + (start - first.beforeLast.length) := by omega
    rw [isShifted, Nat.add_assoc, Text.slice_middle] at isTriplet
    · exact isTriplet
    · rw [List.length_append]
      omega

end Layout

/-- Templates can be read one behind the other: the expressions of the second one move by the
length of the first text. Without streams they also expand one behind the other, unless a triplet
of literal text lies across the seam. -/
theorem Template.parse_append {first second : Text} {left right : Template}
    (readFirst : parse first = .ok left) (readSecond : parse second = .ok right) :
    ∃ whole, parse (first ++ second) = .ok whole ∧
      whole.expressions = left.expressions ++ right.expressions.map (Expression.behind first) ∧
      ∀ bindings : Bindings, bindings.Streamless →
        (Expansion.template whole bindings =
            Expansion.template left bindings ++ Expansion.template right bindings ↔
          ¬∃ start, start < first.length ∧ first.length < start + 3 ∧
            (∃ range ∈ whole.literalRanges, range.1 ≤ start ∧ start + 3 ≤ range.2) ∧
            isTripletText ((first ++ second).slice start (start + 3)) = true) := by
  obtain ⟨firstLayout, firstWellFormed, rfl, rfl⟩ := parse_eq_ok_iff.mp readFirst
  obtain ⟨secondLayout, secondWellFormed, rfl, rfl⟩ := parse_eq_ok_iff.mp readSecond
  let whole := firstLayout.append secondLayout
  refine ⟨whole.template, ?_, ?_, fun bindings streamless => ?_⟩
  · rw [← Layout.written_append]
    exact parse_written (firstWellFormed.append secondWellFormed)
  · have moved := secondLayout.placed_behind firstLayout.written []
    rw [List.append_nil] at moved
    change whole.placed Position.start = _
    rw [Layout.placed_append, moved]
    rfl
  · rw [← Layout.straddles_iff, ← encode_append_iff, ← Layout.expanded_append_iff,
      Layout.template_expanded streamless, Layout.template_expanded streamless,
      Layout.template_expanded streamless]

theorem Template.parse_append_cut_triplet :
    let first : Text := "\x7ba\x7d\n%4"
    let second : Text := "1\x7bb\x7d"
    let a : Variable := ⟨"a", .none, by decide⟩
    let b : Variable := ⟨"b", .none, by decide⟩
    let left : Template := ⟨first, [⟨.simple, [a], some ⟨0, 3, 1, 1⟩⟩]⟩
    let right : Template := ⟨second, [⟨.simple, [b], some ⟨1, 4, 1, 2⟩⟩]⟩
    let whole : Template := ⟨first ++ second,
      [⟨.simple, [a], some ⟨0, 3, 1, 1⟩⟩, ⟨.simple, [b], some ⟨7, 10, 2, 4⟩⟩]⟩
    parse first = .ok left ∧ parse second = .ok right ∧ parse (first ++ second) = .ok whole ∧
      whole.expressions = left.expressions ++ right.expressions.map (Expression.behind first) ∧
      ∀ bindings : Bindings, bindings.Streamless →
        Expansion.template whole bindings ≠
          Expansion.template left bindings ++ Expansion.template right bindings := by
  intro first second a b left right whole
  have readFirst : parse first = .ok left := by decide +kernel
  have readSecond : parse second = .ok right := by decide +kernel
  have readWhole : parse (first ++ second) = .ok whole := by decide +kernel
  obtain ⟨found, read, expressions, apart⟩ := parse_append readFirst readSecond
  obtain rfl : whole = found := Except.ok.inj (readWhole.symm.trans read)
  refine ⟨readFirst, readSecond, readWhole, expressions, fun bindings streamless => ?_⟩
  rw [ne_eq, apart bindings streamless, not_not]
  exact ⟨4, by decide, by decide, ⟨(3, 7), by decide +kernel, by decide, by decide⟩, by decide⟩

end UriTemplate
