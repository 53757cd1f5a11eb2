import UriTemplate.Text.Basic

namespace UriTemplate.Text

variable {separator : CodePoint}

/-- Splitting a text is splitting the list of its characters. -/
theorem splitOn_eq_listSplitOn (separator : CodePoint) (text : Text) :
    splitOn separator text = List.splitOn separator text := by
  induction text with
  | nil => rfl
  | cons first rest inductionHypothesis =>
      rw [splitOn, inductionHypothesis, List.splitOn_cons_eq_if_modifyHead]
      by_cases isSeparator : first = separator
      · simp [isSeparator]
      · obtain ⟨piece, pieces, isSplit⟩ :=
          List.exists_cons_of_ne_nil (List.splitOn_ne_nil separator rest)
        simp [isSeparator, isSplit]

/-- Pieces without the separator are found again, as long as there is any piece. -/
theorem splitOn_join {pieces : List Text} (nonempty : pieces ≠ [])
    (separatorless : ∀ piece ∈ pieces, separator ∉ piece) :
    splitOn separator (join [separator] pieces) = pieces := by
  rw [splitOn_eq_listSplitOn]
  exact List.splitOn_intercalate separator separatorless nonempty

/-- Joining groups of pieces with one separator is joining all the pieces with it. -/
theorem join_join {groups : List (List Text)} (separator : Text)
    (nonempty : ∀ group ∈ groups, group ≠ []) :
    join separator (groups.map (join separator)) = join separator groups.flatten := by
  induction groups with
  | nil => rfl
  | cons group rest inductionHypothesis =>
      have ⟨here, others⟩ := List.forall_mem_cons.mp nonempty
      obtain ⟨first, pieces, rfl⟩ := List.exists_cons_of_ne_nil here
      by_cases isLast : rest = []
      · simp [isLast, join]
      · have joinedRest := inductionHypothesis others
        obtain ⟨next, later, rfl⟩ := List.exists_cons_of_ne_nil isLast
        obtain ⟨second, following, rfl⟩ :=
          List.exists_cons_of_ne_nil (List.forall_mem_cons.mp others).1
        rw [List.map_cons, join_cons _ _ (by simp), joinedRest]
        simp [join_eq_flatMap]

/-- A run of characters with a property ends in front of a text that starts with none. -/
theorem takeWhile_dropWhile_append {test : CodePoint → Bool} {taken rest : Text}
    (allPass : ∀ codePoint ∈ taken, test codePoint = true)
    (stops : ∀ first ∈ rest.head?, test first = false) :
    (taken ++ rest).takeWhile test = taken ∧ (taken ++ rest).dropWhile test = rest := by
  rw [List.takeWhile_append_of_pos allPass, List.dropWhile_append_of_pos allPass]
  cases rest with
  | nil => simp
  | cons first rest => simp [stops first rfl]

/-- The part before the first separator ends where the separator stands, and the other part starts
behind it. -/
theorem cut_eq (separator : CodePoint) (text : Text) :
    cut separator text = (text.takeWhile fun codePoint => codePoint ≠ separator,
      if separator ∈ text then some ((text.dropWhile fun codePoint => codePoint ≠ separator).drop 1)
      else none) := by
  induction text with
  | nil => rfl
  | cons first rest inductionHypothesis =>
      rw [cut, inductionHypothesis]
      by_cases same : first = separator
      · simp [same]
      · simp [same, Ne.symm same]

/-- A text is cut at its first separator. -/
theorem cut_append_cons {before : Text} (separatorless : separator ∉ before) (behind : Text) :
    cut separator (before ++ separator :: behind) = (before, some behind) := by
  induction before with
  | nil => simp [cut]
  | cons first rest inductionHypothesis =>
      simp only [List.mem_cons, not_or] at separatorless
      simp [cut, Ne.symm separatorless.1, inductionHypothesis separatorless.2]

/-- Without a separator nothing is cut off. -/
theorem cut_of_not_mem {text : Text} (separatorless : separator ∉ text) :
    cut separator text = (text, none) := by
  induction text with
  | nil => rfl
  | cons first rest inductionHypothesis =>
      simp only [List.mem_cons, not_or] at separatorless
      simp [cut, Ne.symm separatorless.1, inductionHypothesis separatorless.2]

end UriTemplate.Text
