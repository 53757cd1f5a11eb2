import Mathlib.Data.List.TakeWhile
import UriTemplate.Proofs.PercentEncoding.Alphabet
import UriTemplate.Proofs.Text.Splitting
import UriTemplate.UriReference

namespace UriTemplate

namespace Text

/-- Cutting finds the first separator or leaves the text whole. -/
theorem cut_cases (separator : CodePoint) (text : Text) :
    separator ∉ text ∧ cut separator text = (text, none) ∨
      ∃ before behind, separator ∉ before ∧ text = before ++ separator :: behind ∧
        cut separator text = (before, some behind) := by
  by_cases member : separator ∈ text
  · obtain ⟨before, behind, rfl, separatorless⟩ := List.eq_append_cons_of_mem member
    exact .inr ⟨before, behind, separatorless, rfl, cut_append_cons separatorless behind⟩
  · exact .inl ⟨member, cut_of_not_mem member⟩

end Text

namespace UriReference

open PercentEncoding

/-! Splitting. -/

/-- The run is free of delimiters, and a delimiter ends it if anything does. -/
theorem splitBefore_cases (delimiters text : Text) :
    ∃ run rest, splitBefore delimiters text = (run, rest) ∧ text = run ++ rest ∧
      (∀ codePoint ∈ run, codePoint ∉ delimiters) ∧
      ∀ first ∈ rest.head?, first ∈ delimiters := by
  refine ⟨_, _, rfl, List.takeWhile_append_dropWhile.symm, ?_, ?_⟩
  · intro codePoint member
    simpa using List.mem_takeWhile_imp member
  · intro first isFirst
    have stops := List.head?_dropWhile_not (fun codePoint => !delimiters.contains codePoint) text
    rw [Option.mem_def.mp isFirst] at stops
    simpa using stops

/-- A run ends at the first delimiter. -/
theorem splitBefore_append {delimiters run rest : Text}
    (isFree : ∀ codePoint ∈ run, codePoint ∉ delimiters)
    (ending : ∀ first ∈ rest.head?, first ∈ delimiters) :
    splitBefore delimiters (run ++ rest) = (run, rest) := by
  have passes : ∀ codePoint ∈ run, (!delimiters.contains codePoint) = true := by
    intro codePoint member
    simpa using isFree codePoint member
  have stops : ∀ first ∈ rest.head?, (!delimiters.contains first) = false := by
    intro first isFirst
    simpa using ending first isFirst
  have ⟨taken, dropped⟩ := Text.takeWhile_dropWhile_append passes stops
  rw [splitBefore, taken, dropped]

/-- No scheme holds a delimiter. -/
theorem not_mem_of_isSchemeText {scheme : Text} (isScheme : isSchemeText scheme = true) :
    ∀ codePoint ∈ scheme, codePoint ∉ Text.ofString ":/?#" := by
  have delimiters : ∀ delimiter ∈ Text.ofString ":/?#", delimiter.isLetter = false ∧
      delimiter.isDigit = false ∧ delimiter ∉ Text.ofString "+.-" := by decide
  intro codePoint member isDelimiter
  obtain ⟨isNoLetter, isNoDigit, isNoMark⟩ := delimiters codePoint isDelimiter
  cases scheme with
  | nil => exact absurd member List.not_mem_nil
  | cons first rest =>
      have ⟨startsWithLetter, othersPass⟩ := Bool.and_eq_true_iff.mp isScheme
      rcases List.mem_cons.mp member with rfl | later
      · exact absurd startsWithLetter (by simp [isNoLetter])
      · exact absurd (List.all_eq_true.mp othersPass codePoint later)
          (by simp [isNoLetter, isNoDigit, isNoMark])

/-- A scheme and a colon are split off. -/
theorem splitScheme_append {scheme : Text} (behind : Text)
    (isScheme : isSchemeText scheme = true) :
    splitScheme (scheme ++ CodePoint.ofChar ':' :: behind) = (some scheme, behind) := by
  have nonempty : scheme ≠ [] := by
    rintro rfl
    cases isScheme
  have isSplit : splitBefore ":/?#" (scheme ++ CodePoint.ofChar ':' :: behind) =
      (scheme, CodePoint.ofChar ':' :: behind) :=
    splitBefore_append (not_mem_of_isSchemeText isScheme) (by rintro _ ⟨⟩; decide)
  simp [splitScheme, isSplit, nonempty]

/-- An authority stands between two slashes and the next delimiter. -/
theorem splitAuthority_slashes (text : Text) :
    splitAuthority ("//" ++ text) =
      (some (splitBefore "/?#" text).1, (splitBefore "/?#" text).2) := by
  simp [splitAuthority, Text.startsWith, Text.ofString]

/-- A character that is no percent sign is tested by itself. -/
theorem consistsOf_cons {test : CodePoint → Bool} {first : CodePoint}
    (isNoPercent : first ≠ CodePoint.ofChar '%') (rest : Text) :
    consistsOf test (first :: rest) = (test first && consistsOf test rest) := by
  rcases rest with _ | ⟨second, _ | ⟨third, rest⟩⟩
  · rfl
  · rfl
  · simp [consistsOf, isTriplet, isNoPercent]

/-- The check of a component admits its characters and triplets. -/
theorem consistsOf_iff {test : CodePoint → Bool} {text : Text}
    (isNoCharacter : test (CodePoint.ofChar '%') = false) :
    consistsOf test text = true ↔ IsMadeOf test text := by
  constructor
  · intro consists
    fun_induction consistsOf test text with
    | case1 => exact .empty
    | case2 first second third rest isTriplet inductionHypothesis =>
        obtain ⟨rfl, highIsHex, lowIsHex⟩ := isTriplet_iff.mp isTriplet
        exact .triplet highIsHex lowIsHex (inductionHypothesis consists)
    | case3 first second third rest isNoTriplet inductionHypothesis =>
        have ⟨passes, others⟩ := Bool.and_eq_true_iff.mp consists
        exact .character passes (inductionHypothesis others)
    | case4 first rest short inductionHypothesis =>
        have ⟨passes, others⟩ := Bool.and_eq_true_iff.mp consists
        exact .character passes (inductionHypothesis others)
  · intro isMadeOf
    induction isMadeOf with
    | empty => rfl
    | @character first rest passes _ inductionHypothesis =>
        have isNoPercent : first ≠ CodePoint.ofChar '%' := by
          rintro rfl
          exact absurd passes (by simp [isNoCharacter])
        rw [consistsOf_cons isNoPercent, passes, inductionHypothesis]
        rfl
    | triplet highIsHex lowIsHex _ inductionHypothesis =>
        simp [consistsOf, isTriplet_iff, highIsHex, lowIsHex, inductionHypothesis]

/-- What is accepted as it is needs no line feed overlooked. -/
theorem upToFinalLineFeed_of_accepts {accepts : Text → Bool} {text : Text}
    (isAccepted : accepts text = true) : upToFinalLineFeed accepts text = true := by
  simp [upToFinalLineFeed, isAccepted]

/-- A requirement is met if its condition holds. -/
theorem require_eq_ok_iff {condition : Bool} {fault : Fault} :
    require condition fault = .ok () ↔ condition = true := by
  cases condition <;> simp [require]

/-- A component is checked if it is there. -/
theorem checkOptional_eq_ok_iff {component : Option Text} {check : Text → Except Fault Unit} :
    checkOptional component check = .ok () ↔ ∀ text ∈ component, check text = .ok () := by
  cases component <;> simp [checkOptional]

/-- Checks in a row pass if each of them does. -/
theorem bind_eq_ok_iff {first : Except Fault Unit} {others : Unit → Except Fault Unit} :
    (first >>= others) = .ok () ↔ first = .ok () ∧ others () = .ok () := by
  cases first with
  | error fault => simp [bind, Except.bind]
  | ok _ => simp [bind, Except.bind]

/-- All components pass their checks. -/
theorem check_eq_ok_iff {reference : UriReference} :
    reference.check = .ok () ↔
      (∀ text ∈ reference.scheme, upToFinalLineFeed isSchemeText text = true) ∧
      (∀ text ∈ reference.authority, checkAuthority text = .ok ()) ∧
      upToFinalLineFeed (consistsOf isPathCharacter) reference.path = true ∧
      reference.hasColonFirst = false ∧
      (∀ text ∈ reference.query,
        upToFinalLineFeed (consistsOf isQueryCharacter) text = true) ∧
      ∀ text ∈ reference.fragment,
        upToFinalLineFeed (consistsOf isQueryCharacter) text = true := by
  simp only [check, bind_eq_ok_iff, checkOptional_eq_ok_iff, require_eq_ok_iff,
    Bool.not_eq_true']

/-- A text is accepted if its components pass. -/
theorem validate_eq_ok_iff {text : Text} :
    validate text = .ok text ↔ (split text).check = .ok () := by
  unfold validate
  split <;> simp_all

/-- A text is accepted as it is, or an error carries it. -/
theorem validate_cases (text : Text) :
    validate text = .ok text ∨ ∃ fault, validate text = .error ⟨text, fault⟩ := by
  unfold validate
  split
  · exact .inl rfl
  · exact .inr ⟨_, rfl⟩

end UriReference

end UriTemplate
