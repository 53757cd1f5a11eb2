import UriTemplate.Proofs.UriReference.Authority

namespace UriTemplate.UriReference

open PercentEncoding

/-- A component with its marks; a component that is not there has none. -/
def marked (opening closing : Text) : Option Text → Text
  | some text => opening ++ text ++ closing
  | none => []

/-- The query and the fragment with their marks. -/
def ending (reference : UriReference) : Text :=
  marked "?" [] reference.query ++ marked "#" [] reference.fragment

def written (reference : UriReference) : Text :=
  marked [] ":" reference.scheme ++
    (marked "//" [] reference.authority ++ (reference.path ++ reference.ending))

def IsPath : Text → Prop := IsMadeOf (isDataOr ":@/")

/-- The path continues an authority, or it must not be taken for an authority or a scheme. -/
structure IsWellFormed (reference : UriReference) : Prop where
  scheme : ∀ text ∈ reference.scheme, IsScheme text
  authority : ∀ text ∈ reference.authority, IsAuthority text
  path : IsPath reference.path
  rooted : reference.authority ≠ none → ∀ first ∈ reference.path.head?, first = '/'
  slashless : reference.authority = none → ¬ Text.ofString "//" <+: reference.path
  colonless : reference.scheme = none → reference.authority = none →
    CodePoint.ofChar ':' ∉ (Text.cut '/' reference.path).1
  query : ∀ text ∈ reference.query, IsQuery text
  fragment : ∀ text ∈ reference.fragment, IsQuery text

/-- The check of schemes is their rule. -/
theorem isSchemeText_iff {text : Text} : isSchemeText text = true ↔ IsScheme text := by
  have sameMarks (codePoint : CodePoint) :
      codePoint ∈ Text.ofString "+.-" ↔ codePoint ∈ Text.ofString "+-." :=
    List.Perm.mem_iff (by decide)
  have passes (rest : Text) : (rest.all fun codePoint => codePoint.isLetter || codePoint.isDigit ||
        (Text.ofString "+.-").contains codePoint) = true ↔
      ∀ codePoint ∈ rest, codePoint.isLetter = true ∨ codePoint.isDigit = true ∨
        codePoint ∈ Text.ofString "+-." := by
    simp only [List.all_eq_true, Bool.or_eq_true, List.contains_iff_mem, sameMarks, or_assoc]
  constructor
  · intro isSchemeText
    cases text with
    | nil => cases isSchemeText
    | cons first rest =>
        have ⟨startsWithLetter, others⟩ := Bool.and_eq_true_iff.mp isSchemeText
        exact .letter startsWithLetter ((passes rest).mp others)
  · rintro ⟨startsWithLetter, others⟩
    exact Bool.and_eq_true_iff.mpr ⟨startsWithLetter, (passes _).mpr others⟩

/-! Splitting what was put together. -/

/-- A marked component starts with its mark. -/
theorem head?_marked {mark : CodePoint} (part : Option Text) :
    ∀ first ∈ (marked [mark] [] part).head?, first = mark := by
  cases part with
  | none => simp [marked]
  | some text => simp [marked]

/-- A marked component is split off again. -/
theorem splitMarked_marked {mark : CodePoint} {delimiters rest : Text} {part : Option Text}
    (isFree : ∀ text ∈ part, ∀ codePoint ∈ text, codePoint ∉ delimiters)
    (ending : ∀ first ∈ rest.head?, first ∈ delimiters) (isNoEnd : mark ∉ delimiters) :
    splitMarked mark delimiters (marked [mark] [] part ++ rest) = (part, rest) := by
  cases part with
  | some text =>
      have isSplit := splitBefore_append (isFree text rfl) ending
      simp [marked, splitMarked, isSplit]
  | none =>
      cases rest with
      | nil => rfl
      | cons first rest =>
          have isOther : first ≠ mark := fun same => isNoEnd (same ▸ ending first rfl)
          simp [marked, splitMarked, isOther]

/-- Behind the path stands a question mark or a number sign. -/
theorem head?_ending (reference : UriReference) :
    ∀ first ∈ reference.ending.head?, first ∈ Text.ofString "?#" := by
  intro first isFirst
  cases isQuery : reference.query with
  | some query => simp_all [ending, marked, Text.ofString]
  | none =>
      have noQuery : reference.ending = marked "#" [] reference.fragment := by
        simp [ending, isQuery, marked]
      have isMark : first = '#' := head?_marked _ first (noQuery ▸ isFirst)
      simp [isMark, Text.ofString]

/-- Behind a path that is empty or starts with a slash only a delimiter can come next. -/
theorem head?_path_ending {reference : UriReference}
    (rooted : ∀ first ∈ reference.path.head?, first = '/') :
    ∀ first ∈ (reference.path ++ reference.ending).head?, first ∈ Text.ofString "/?#" := by
  intro first isFirst
  cases isPath : reference.path with
  | nil =>
      have delimiters : Text.ofString "?#" ⊆ Text.ofString "/?#" := by decide
      exact delimiters (head?_ending reference first (by simpa [isPath] using isFirst))
  | cons head rest =>
      obtain rfl : head = first := by simpa [isPath] using isFirst
      obtain rfl : head = '/' := rooted head (by simp [isPath])
      decide

/-- No colon ends the run in front of the first delimiter. -/
theorem splitScheme_of_segment {segment behind : Text}
    (isFree : ∀ codePoint ∈ segment, codePoint ∉ Text.ofString ":/?#")
    (isEnd : ∀ first ∈ behind.head?, first ∈ Text.ofString "/?#") :
    splitScheme (segment ++ behind) = (none, segment ++ behind) := by
  have delimiters : Text.ofString "/?#" ⊆ Text.ofString ":/?#" := by decide
  have isSplit := splitBefore_append isFree fun first isFirst => delimiters (isEnd first isFirst)
  have isNoColon : behind.head? ≠ some (CodePoint.ofChar ':') := fun isColon =>
    absurd (isEnd _ isColon) (by decide)
  simp [splitScheme, isSplit, isNoColon]

namespace IsWellFormed

variable {reference : UriReference} (wellFormed : reference.IsWellFormed)

include wellFormed

/-- No path holds a question mark or a number sign. -/
theorem path_free : ∀ codePoint ∈ reference.path, codePoint ∉ Text.ofString "?#" :=
  not_mem_of_isMadeOf wellFormed.path (by decide)

/-- Without a scheme and an authority the path starts with a segment without a colon. -/
theorem splitScheme_path (isSchemeless : reference.scheme = none)
    (isAuthorityless : reference.authority = none) :
    splitScheme (reference.path ++ reference.ending) =
      (none, reference.path ++ reference.ending) := by
  have colonless := wellFormed.colonless isSchemeless isAuthorityless
  have isFree {segment : Text} (isSubset : segment ⊆ reference.path)
      (colonless : CodePoint.ofChar ':' ∉ segment) (slashless : CodePoint.ofChar '/' ∉ segment) :
      ∀ codePoint ∈ segment, codePoint ∉ Text.ofString ":/?#" := by
    intro codePoint member isDelimiter
    have isNoMark := wellFormed.path_free codePoint (isSubset member)
    simp only [Text.ofString, String.reduceToList, List.map_cons, List.map_nil, List.mem_cons,
      List.not_mem_nil, or_false, not_or] at isDelimiter isNoMark
    rcases isDelimiter with rfl | rfl | isMark | isMark
    · exact colonless member
    · exact slashless member
    · exact isNoMark.1 isMark
    · exact isNoMark.2 isMark
  rcases Text.cut_cases '/' reference.path with
    ⟨slashless, isCut⟩ | ⟨segment, behind, slashless, isPath, isCut⟩
  · rw [isCut] at colonless
    have delimiters : Text.ofString "?#" ⊆ Text.ofString "/?#" := by decide
    exact splitScheme_of_segment (isFree (List.Subset.refl _) colonless slashless)
      fun first isFirst => delimiters (head?_ending reference first isFirst)
  · rw [isCut] at colonless
    have isSubset : segment ⊆ reference.path := by simp [isPath]
    rw [isPath, List.append_assoc]
    exact splitScheme_of_segment (isFree isSubset colonless slashless) (by rintro _ ⟨⟩; decide)

/-- The scheme is split off again. -/
theorem splitScheme_written :
    splitScheme reference.written = (reference.scheme,
      marked "//" [] reference.authority ++ (reference.path ++ reference.ending)) := by
  unfold written
  cases isScheme : reference.scheme with
  | some scheme =>
      have isSchemeText := isSchemeText_iff.mpr (wellFormed.scheme scheme isScheme)
      simpa [marked, Text.ofString] using splitScheme_append _ isSchemeText
  | none =>
      cases isAuthority : reference.authority with
      | none => exact wellFormed.splitScheme_path isScheme isAuthority
      | some authority =>
          exact @splitScheme_of_segment [] _ (by simp) (by rintro _ ⟨⟩; decide)

/-- Behind an authority stands a path from the root, or what follows the path. -/
theorem head?_behind_authority (hasAuthority : reference.authority ≠ none) :
    ∀ first ∈ (reference.path ++ reference.ending).head?, first ∈ Text.ofString "/?#" :=
  head?_path_ending (wellFormed.rooted hasAuthority)

/-- Nothing behind the path makes an authority of it. -/
theorem not_startsWith_slashes (isAuthorityless : reference.authority = none) :
    ¬ Text.ofString "//" <+: reference.path ++ reference.ending := by
  have slashless := wellFormed.slashless isAuthorityless
  have isNoSlash : reference.ending.head? ≠ some (CodePoint.ofChar '/') := fun isSlash =>
    absurd (head?_ending reference _ isSlash) (by decide)
  rintro ⟨behind, isText⟩
  have startsWithSlashes : CodePoint.ofChar '/' :: CodePoint.ofChar '/' :: behind =
      reference.path ++ reference.ending := isText
  rcases isPath : reference.path with _ | ⟨first, _ | ⟨second, rest⟩⟩
  · rw [isPath, List.nil_append] at startsWithSlashes
    exact isNoSlash (startsWithSlashes ▸ rfl)
  · rw [isPath, List.singleton_append] at startsWithSlashes
    obtain ⟨-, isEnding⟩ := List.cons.inj startsWithSlashes
    exact isNoSlash (isEnding ▸ rfl)
  · rw [isPath] at startsWithSlashes
    obtain ⟨rfl, others⟩ := List.cons.inj startsWithSlashes
    obtain ⟨rfl, -⟩ := List.cons.inj others
    exact slashless ⟨rest, isPath.symm⟩

/-- The authority is split off again. -/
theorem splitAuthority_written :
    splitAuthority (marked "//" [] reference.authority ++ (reference.path ++ reference.ending)) =
      (reference.authority, reference.path ++ reference.ending) := by
  cases isAuthority : reference.authority with
  | some authority =>
      have isFree : ∀ codePoint ∈ authority, codePoint ∉ Text.ofString "/?#" :=
        not_mem_of_isMadeOf (wellFormed.authority authority isAuthority).isMadeOf (by decide)
      have isEnd := wellFormed.head?_behind_authority (by simp [isAuthority])
      have isSplit := splitAuthority_slashes (authority ++ (reference.path ++ reference.ending))
      rw [splitBefore_append isFree isEnd] at isSplit
      simpa [marked] using isSplit
  | none =>
      have isNoAuthority : ¬ Text.ofString "//" <+: reference.path ++ reference.ending :=
        wellFormed.not_startsWith_slashes isAuthority
      simp [marked, splitAuthority, Text.startsWith, isNoAuthority]

end IsWellFormed

/-- Well-formed components come back from their text. -/
theorem split_written {reference : UriReference} (wellFormed : reference.IsWellFormed) :
    split reference.written = reference := by
  have pathSplit : splitBefore "?#" (reference.path ++ reference.ending) =
      (reference.path, reference.ending) :=
    splitBefore_append wellFormed.path_free (head?_ending reference)
  have querySplit : splitMarked '?' "#" reference.ending =
      (reference.query, marked "#" [] reference.fragment) := by
    refine splitMarked_marked ?_ ?_ (by decide)
    · intro query isQuery
      exact not_mem_of_isMadeOf (wellFormed.query query isQuery) (by decide)
    · intro first isFirst
      exact List.mem_singleton.mpr (head?_marked _ first isFirst)
  have fragmentSplit : splitMarked '#' "" (marked "#" [] reference.fragment ++ []) =
      (reference.fragment, []) :=
    splitMarked_marked (fun _ _ _ _ => List.not_mem_nil) (by simp) List.not_mem_nil
  rw [List.append_nil] at fragmentSplit
  simp only [split, wellFormed.splitScheme_written, wellFormed.splitAuthority_written, pathSplit,
    querySplit, fragmentSplit]

/-! Every text is put together from its components. -/

/-- Splitting off a scheme loses nothing. -/
theorem splitScheme_cases (text : Text) :
    ∃ scheme rest, splitScheme text = (scheme, rest) ∧ text = marked [] ":" scheme ++ rest := by
  obtain ⟨run, rest, isSplit, isText, -, -⟩ := splitBefore_cases ":/?#" text
  by_cases isScheme : run ≠ [] ∧ rest.head? = some (CodePoint.ofChar ':')
  · obtain ⟨behind, rfl⟩ := List.head?_eq_some_iff.mp isScheme.2
    exact ⟨some run, behind, by simp [splitScheme, isSplit, isScheme.1],
      by simp [marked, isText, Text.ofString]⟩
  · refine ⟨none, text, ?_, rfl⟩
    simp only [splitScheme, isSplit]
    exact if_neg (by simpa using isScheme)

/-- Splitting off an authority loses nothing, and what is left does not look like another. -/
theorem splitAuthority_cases (text : Text) :
    ∃ authority rest, splitAuthority text = (authority, rest) ∧
      text = marked "//" [] authority ++ rest ∧
      (authority ≠ none → ∀ first ∈ rest.head?, first ∈ Text.ofString "/?#") ∧
      (authority = none → ¬ Text.ofString "//" <+: rest) := by
  by_cases startsWithSlashes : Text.ofString "//" <+: text
  · obtain ⟨behind, rfl⟩ := startsWithSlashes
    obtain ⟨run, rest, isSplit, rfl, -, isEnd⟩ := splitBefore_cases "/?#" behind
    exact ⟨some run, rest, by rw [splitAuthority_slashes, isSplit], by simp [marked],
      fun _ => isEnd, by simp⟩
  · exact ⟨none, text, by simp [splitAuthority, Text.startsWith, startsWithSlashes], rfl, by simp,
      fun _ => startsWithSlashes⟩

/-- Splitting off a marked component loses nothing. -/
theorem splitMarked_cases (mark : CodePoint) (delimiters text : Text) :
    ∃ part rest, splitMarked mark delimiters text = (part, rest) ∧
      text = marked [mark] [] part ++ rest ∧
      (part ≠ none → ∀ first ∈ rest.head?, first ∈ delimiters) ∧
      (part = none → rest.head? ≠ some mark) := by
  cases text with
  | nil => exact ⟨none, [], rfl, rfl, by simp, by simp⟩
  | cons first behind =>
      by_cases isMark : first = mark
      · obtain ⟨run, rest, isSplit, rfl, -, isEnd⟩ := splitBefore_cases delimiters behind
        exact ⟨some run, rest, by simp [splitMarked, isMark, isSplit],
          by simp [marked, isMark], fun _ => isEnd, by simp⟩
      · exact ⟨none, first :: behind, by simp [splitMarked, isMark], rfl, by simp,
          by simpa using isMark⟩

/-- What is left over behind a fragment is nothing. -/
theorem split_cases (text : Text) :
    text = (split text).written ∧
      ((split text).authority ≠ none → ∀ first ∈ (split text).path.head?, first = '/') ∧
      ((split text).authority = none → ¬ Text.ofString "//" <+: (split text).path) := by
  obtain ⟨scheme, afterScheme, schemeSplit, isText⟩ := splitScheme_cases text
  obtain ⟨authority, afterAuthority, authoritySplit, isAfterScheme, authorityEnd, slashless⟩ :=
    splitAuthority_cases afterScheme
  obtain ⟨path, afterPath, pathSplit, isAfterAuthority, isFree, pathEnd⟩ :=
    splitBefore_cases "?#" afterAuthority
  obtain ⟨query, afterQuery, querySplit, isAfterPath, queryEnd, isNoMark⟩ :=
    splitMarked_cases '?' "#" afterPath
  obtain ⟨fragment, afterFragment, fragmentSplit, isAfterQuery, fragmentEnd, isNoSign⟩ :=
    splitMarked_cases '#' "" afterQuery
  have components : split text = ⟨scheme, authority, path, query, fragment⟩ := by
    simp only [split, schemeSplit, authoritySplit, pathSplit, querySplit, fragmentSplit]
  have isSign : ∀ first ∈ afterQuery.head?, first = '#' := by
    intro first isFirst
    cases query with
    | some _ => exact List.mem_singleton.mp (queryEnd (by simp) first isFirst)
    | none =>
        have isDelimiter : first ∈ Text.ofString "?#" := pathEnd first (isAfterPath ▸ isFirst)
        have isOther : first ≠ '?' := fun same => isNoMark rfl (same ▸ isFirst)
        simpa [Text.ofString, isOther] using isDelimiter
  have isLast : afterFragment = [] := by
    cases isFirst : afterFragment.head? with
    | none => exact List.head?_eq_none_iff.mp isFirst
    | some first =>
        exfalso
        cases fragment with
        | some _ => exact List.not_mem_nil (fragmentEnd (by simp) first isFirst)
        | none =>
            have inQuery : first ∈ afterQuery.head? := isAfterQuery ▸ isFirst
            exact isNoSign rfl (isSign first inQuery ▸ isFirst)
  rw [components]
  refine ⟨?_, ?_, ?_⟩
  · rw [isText, isAfterScheme, isAfterAuthority, isAfterPath, isAfterQuery, isLast,
      List.append_nil]
    rfl
  · intro hasAuthority first isFirst
    have isDelimiter : first ∈ Text.ofString "/?#" := by
      refine authorityEnd hasAuthority first ?_
      simp [isAfterAuthority, List.head?_append, Option.mem_def.mp isFirst]
    have isNoMark := isFree first (List.mem_of_head? isFirst)
    simp only [Text.ofString, String.reduceToList, List.map_cons, List.map_nil, List.mem_cons,
      List.not_mem_nil, or_false, not_or] at isDelimiter isNoMark
    exact isDelimiter.resolve_right fun isMark => isMark.elim isNoMark.1 isNoMark.2
  · intro isAuthorityless startsWithSlashes
    refine slashless isAuthorityless (startsWithSlashes.trans ?_)
    exact isAfterAuthority ▸ List.prefix_append path afterPath

/-! Checking. -/

/-- A component is part of its marked text. -/
theorem subset_marked {component : Option Text} {text : Text} (isComponent : text ∈ component)
    (opening closing : Text) : text ⊆ marked opening closing component := by
  rw [Option.mem_def.mp isComponent, marked]
  exact fun _ member => List.mem_append_left _ (List.mem_append_right _ member)

/-- Line feeds in a component are line feeds in the text. -/
theorem not_mem_of_not_mem_written {reference : UriReference} {codePoint : CodePoint}
    (isOutside : codePoint ∉ reference.written) :
    (∀ text ∈ reference.scheme, codePoint ∉ text) ∧
      (∀ text ∈ reference.authority, codePoint ∉ text) ∧ codePoint ∉ reference.path ∧
      (∀ text ∈ reference.query, codePoint ∉ text) ∧
      ∀ text ∈ reference.fragment, codePoint ∉ text := by
  simp only [written, ending, List.mem_append, not_or] at isOutside
  obtain ⟨notInScheme, notInAuthority, notInPath, notInQuery, notInFragment⟩ := isOutside
  exact ⟨fun _ isScheme member => notInScheme (subset_marked isScheme _ _ member),
    fun _ isAuthority member => notInAuthority (subset_marked isAuthority _ _ member), notInPath,
    fun _ isQuery member => notInQuery (subset_marked isQuery _ _ member),
    fun _ isFragment member => notInFragment (subset_marked isFragment _ _ member)⟩

/-- Each component keeps its rule up to a line feed of its own at the end. -/
structure IsChecked (reference : UriReference) : Prop where
  scheme : ∀ text ∈ reference.scheme, UpToLineFeed IsScheme text
  authority : ∀ text ∈ reference.authority, IsCheckedAuthority text
  path : UpToLineFeed IsPath reference.path
  colonless : reference.scheme = none → reference.authority = none →
    CodePoint.ofChar ':' ∉ (Text.cut '/' reference.path).1
  query : ∀ text ∈ reference.query, UpToLineFeed IsQuery text
  fragment : ∀ text ∈ reference.fragment, UpToLineFeed IsQuery text

/-- The first segment matters only without a scheme and an authority. -/
theorem hasColonFirst_eq_false_iff {reference : UriReference} :
    reference.hasColonFirst = false ↔ (reference.scheme = none → reference.authority = none →
      CodePoint.ofChar ':' ∉ (Text.cut '/' reference.path).1) := by
  cases isScheme : reference.scheme <;> cases isAuthority : reference.authority <;>
    simp [hasColonFirst, isScheme, isAuthority]

/-- The checks accept what they are said to accept. -/
theorem check_iff_isChecked {reference : UriReference} :
    reference.check = .ok () ↔ reference.IsChecked := by
  have isQuery_iff {text : Text} : upToFinalLineFeed (consistsOf isQueryCharacter) text = true ↔
      UpToLineFeed IsQuery text :=
    upToFinalLineFeed_consistsOf isQueryCharacter_eq (by decide)
  have isPath_iff {text : Text} : upToFinalLineFeed (consistsOf isPathCharacter) text = true ↔
      UpToLineFeed IsPath text :=
    upToFinalLineFeed_consistsOf isPathCharacter_eq (by decide)
  have isScheme_iff {text : Text} : upToFinalLineFeed isSchemeText text = true ↔
      UpToLineFeed IsScheme text :=
    upToFinalLineFeed_iff_upToLineFeed fun _ => isSchemeText_iff
  simp only [check_eq_ok_iff, isScheme_iff, checkAuthority_iff, isPath_iff,
    hasColonFirst_eq_false_iff, isQuery_iff]
  constructor
  · rintro ⟨scheme, authority, path, colonless, query, fragment⟩
    exact ⟨scheme, authority, path, colonless, query, fragment⟩
  · rintro ⟨scheme, authority, path, colonless, query, fragment⟩
    exact ⟨scheme, authority, path, colonless, query, fragment⟩

/-- Well-formed components pass the checks. -/
theorem IsWellFormed.isChecked {reference : UriReference} (wellFormed : reference.IsWellFormed) :
    reference.IsChecked where
  scheme scheme isScheme := .whole (wellFormed.scheme scheme isScheme)
  authority authority isAuthority := (wellFormed.authority authority isAuthority).isCheckedAuthority
  path := .whole wellFormed.path
  colonless := wellFormed.colonless
  query query isQuery := .whole (wellFormed.query query isQuery)
  fragment fragment isFragment := .whole (wellFormed.fragment fragment isFragment)

/-- Without line feeds, checked components are well-formed. -/
theorem isWellFormed_of_isChecked {text : Text} (lineFeedless : CodePoint.ofChar '\n' ∉ text)
    (isChecked : (split text).IsChecked) : (split text).IsWellFormed := by
  obtain ⟨isWritten, rooted, slashless⟩ := split_cases text
  rw [isWritten] at lineFeedless
  obtain ⟨schemeIsFree, authorityIsFree, pathIsFree, queryIsFree, fragmentIsFree⟩ :=
    not_mem_of_not_mem_written lineFeedless
  exact {
    scheme := fun scheme isScheme =>
      (isChecked.scheme scheme isScheme).of_lineFeedless (schemeIsFree scheme isScheme)
    authority := fun authority isAuthority =>
      (isChecked.authority authority isAuthority).isAuthority
        (authorityIsFree authority isAuthority)
    path := isChecked.path.of_lineFeedless pathIsFree
    rooted := rooted
    slashless := slashless
    colonless := isChecked.colonless
    query := fun query isQuery =>
      (isChecked.query query isQuery).of_lineFeedless (queryIsFree query isQuery)
    fragment := fun fragment isFragment =>
      (isChecked.fragment fragment isFragment).of_lineFeedless
        (fragmentIsFree fragment isFragment) }

/-- A text is accepted if its components are checked ones. -/
theorem validate_iff_isChecked {text : Text} :
    validate text = .ok text ↔ (split text).IsChecked :=
  validate_eq_ok_iff.trans check_iff_isChecked

/-- What is put together from components that keep their rules is accepted. -/
theorem validate_written {reference : UriReference} (wellFormed : reference.IsWellFormed) :
    validate reference.written = .ok reference.written := by
  rw [validate_iff_isChecked, split_written wellFormed]
  exact wellFormed.isChecked

/-- A text is accepted exactly if components that keep their rules are put together to it. -/
theorem validate_eq_ok_iff_written {text : Text} (lineFeedless : CodePoint.ofChar '\n' ∉ text) :
    validate text = .ok text ↔
      ∃ reference : UriReference, reference.IsWellFormed ∧ reference.written = text := by
  constructor
  · intro isOk
    have wellFormed := isWellFormed_of_isChecked lineFeedless (validate_iff_isChecked.mp isOk)
    exact ⟨split text, wellFormed, (split_cases text).1.symm⟩
  · rintro ⟨reference, wellFormed, rfl⟩
    exact validate_written wellFormed

end UriTemplate.UriReference
