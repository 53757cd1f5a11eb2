import UriTemplate.Proofs.UriReference.Recomposition

namespace UriTemplate.UriReference

open PercentEncoding

/-! Paths. -/

/-- Slashes stand between segments. -/
theorem slash_not_mem_of_isSegment {segment : Text} (isSegment : IsSegment segment) :
    CodePoint.ofChar '/' ∉ segment :=
  IsMadeOf.not_mem isSegment (by decide) (by decide)

/-- A segment without colons is a segment. -/
theorem IsColonlessSegment.isSegment {segment : Text} (isColonless : IsColonlessSegment segment) :
    IsSegment segment :=
  isMadeOf_of_subset (by decide) isColonless

/-- What follows an authority is a path. -/
theorem IsPathAbempty.isPath {path : Text} (isAbempty : IsPathAbempty path) : IsPath path := by
  induction isAbempty with
  | empty => exact .empty
  | segment isSegment _ inductionHypothesis =>
      exact ((IsMadeOf.of_forall (by decide)).append
        (isMadeOf_of_subset (by decide) isSegment)).append inductionHypothesis

/-- What follows an authority starts with a slash. -/
theorem IsPathAbempty.head?_eq {path : Text} (isAbempty : IsPathAbempty path) :
    ∀ first ∈ path.head?, first = '/' := by
  cases isAbempty with
  | empty => simp
  | segment => rintro _ ⟨⟩; rfl

/-- A path is its first segment with the others behind it. -/
theorem IsPath.exists_segment {path : Text} (isPath : IsPath path) :
    ∃ segment rest, path = segment ++ rest ∧ IsSegment segment ∧ IsPathAbempty rest := by
  induction isPath with
  | empty => exact ⟨[], [], rfl, .empty, .empty⟩
  | @character first _ passes _ inductionHypothesis =>
      obtain ⟨segment, rest, rfl, isSegment, isAbempty⟩ := inductionHypothesis
      by_cases isSlash : first = '/'
      · subst isSlash
        exact ⟨[], _, rfl, .empty, .segment isSegment isAbempty⟩
      · refine ⟨first :: segment, rest, rfl, .character ?_ isSegment, isAbempty⟩
        simpa [isDataOr, Text.ofString, isSlash] using passes
  | triplet highIsHex lowIsHex _ inductionHypothesis =>
      obtain ⟨segment, rest, rfl, isSegment, isAbempty⟩ := inductionHypothesis
      exact ⟨_, rest, rfl, .triplet highIsHex lowIsHex isSegment, isAbempty⟩

/-- The first segment ends in front of the first slash. -/
theorem cut_segment {segment rest : Text} (isSegment : IsSegment segment)
    (isAbempty : IsPathAbempty rest) : (Text.cut '/' (segment ++ rest)).1 = segment := by
  have slashless := slash_not_mem_of_isSegment isSegment
  cases isAbempty with
  | empty => rw [List.append_nil, Text.cut_of_not_mem slashless]
  | segment others =>
      rw [List.append_assoc]
      exact congrArg Prod.fst (Text.cut_append_cons slashless _)

/-- The paths behind an authority are those that start with a slash, or nothing. -/
theorem isPathAbempty_iff {path : Text} :
    IsPathAbempty path ↔ IsPath path ∧ ∀ first ∈ path.head?, first = '/' := by
  constructor
  · intro isAbempty
    exact ⟨isAbempty.isPath, isAbempty.head?_eq⟩
  · rintro ⟨isPath, startsWithSlash⟩
    obtain ⟨segment, rest, rfl, isSegment, isAbempty⟩ := isPath.exists_segment
    cases segment with
    | nil => exact isAbempty
    | cons first others =>
        obtain rfl := startsWithSlash first rfl
        exact absurd List.mem_cons_self (slash_not_mem_of_isSegment isSegment)

/-- A path that no authority stands in front of. -/
inductive IsFreePath : Text → Prop
  | empty : IsFreePath []
  | absolute {path : Text} (isAbsolute : IsPathAbsolute path) : IsFreePath path
  | segment {segment rest : Text} (isSegment : IsSegment segment) (nonempty : segment ≠ [])
      (others : IsPathAbempty rest) : IsFreePath (segment ++ rest)

/-- A path that does not look like an authority may stand without one. -/
theorem IsFreePath.of_isPath {path : Text} (isPath : IsPath path)
    (slashless : ¬ Text.ofString "//" <+: path) : IsFreePath path := by
  obtain ⟨segment, rest, rfl, isSegment, isAbempty⟩ := isPath.exists_segment
  by_cases isEmpty : segment = []
  · subst isEmpty
    cases isAbempty with
    | empty => exact .empty
    | @segment next rest isNext others =>
        by_cases isRoot : next = []
        · subst isRoot
          cases others with
          | empty => exact .absolute .root
          | segment => exact absurd (List.prefix_append _ _) slashless
        · exact .absolute (.segment isNext isRoot others)
  · exact .segment isSegment isEmpty isAbempty

/-- What may stand without an authority is a path. -/
theorem IsFreePath.isPath {path : Text} (isFree : IsFreePath path) : IsPath path := by
  cases isFree with
  | empty => exact .empty
  | absolute isAbsolute =>
      cases isAbsolute with
      | root => exact .of_forall (by decide)
      | segment isSegment _ others => exact (IsPathAbempty.segment isSegment others).isPath
  | segment isSegment _ others =>
      exact (isMadeOf_of_subset (by decide) isSegment).append others.isPath

/-- What may stand without an authority does not look like one. -/
theorem IsFreePath.slashless {path : Text} (isFree : IsFreePath path) :
    ¬ Text.ofString "//" <+: path := by
  have isNoSlash {segment : Text} (isSegment : IsSegment segment) (nonempty : segment ≠ [])
      (rest : Text) : ∀ behind, CodePoint.ofChar '/' :: behind ≠ segment ++ rest := by
    obtain ⟨first, others, rfl⟩ := List.exists_cons_of_ne_nil nonempty
    intro behind same
    obtain ⟨rfl, -⟩ := List.cons.inj same
    exact slash_not_mem_of_isSegment isSegment List.mem_cons_self
  rintro ⟨behind, startsWithSlashes⟩
  cases isFree with
  | empty => cases startsWithSlashes
  | absolute isAbsolute =>
      cases isAbsolute with
      | root => cases startsWithSlashes
      | segment isSegment nonempty _ =>
          exact isNoSlash isSegment nonempty _ behind (List.cons.inj startsWithSlashes).2
  | segment isSegment nonempty _ => exact isNoSlash isSegment nonempty _ _ startsWithSlashes

/-- No colon stands in front of the first slash. -/
def IsColonlessFirst (path : Text) : Prop :=
  CodePoint.ofChar ':' ∉ (Text.cut '/' path).1

/-- A path from the root has an empty first segment. -/
theorem IsPathAbsolute.isColonlessFirst {path : Text} (isAbsolute : IsPathAbsolute path) :
    IsColonlessFirst path := by
  cases isAbsolute <;> exact List.not_mem_nil

/-- A first segment without colons looks like no scheme. -/
theorem IsColonlessSegment.isColonlessFirst {segment rest : Text}
    (isColonless : IsColonlessSegment segment) (others : IsPathAbempty rest) :
    IsColonlessFirst (segment ++ rest) := by
  rw [IsColonlessFirst, cut_segment isColonless.isSegment others]
  exact IsMadeOf.not_mem isColonless (by decide) (by decide)

/-! Parts. -/

/-- Behind a scheme stands an authority with its path, or a path by itself. -/
theorem isHierPart_iff {part : Text} :
    IsHierPart part ↔
      (∃ authority path, part = "//" ++ authority ++ path ∧ IsAuthority authority ∧
        IsPathAbempty path) ∨ IsFreePath part := by
  constructor
  · rintro (⟨isAuthority, isPath⟩ | isAbsolute | ⟨isSegment, nonempty, others⟩ | _)
    · exact .inl ⟨_, _, rfl, isAuthority, isPath⟩
    · exact .inr (.absolute isAbsolute)
    · exact .inr (.segment isSegment nonempty others)
    · exact .inr .empty
  · rintro (⟨authority, path, rfl, isAuthority, isPath⟩ | isFree)
    · exact .authority isAuthority isPath
    · cases isFree with
      | empty => exact .empty
      | absolute isAbsolute => exact .absolute isAbsolute
      | segment isSegment nonempty others => exact .rootless isSegment nonempty others

/-- Without a scheme, a path by itself must not look like one. -/
theorem isRelativePart_iff {part : Text} :
    IsRelativePart part ↔
      (∃ authority path, part = "//" ++ authority ++ path ∧ IsAuthority authority ∧
        IsPathAbempty path) ∨
      IsFreePath part ∧ IsColonlessFirst part := by
  constructor
  · rintro (⟨isAuthority, isPath⟩ | isAbsolute | ⟨isColonless, nonempty, others⟩ | _)
    · exact .inl ⟨_, _, rfl, isAuthority, isPath⟩
    · exact .inr ⟨.absolute isAbsolute, isAbsolute.isColonlessFirst⟩
    · exact .inr ⟨.segment isColonless.isSegment nonempty others,
        isColonless.isColonlessFirst others⟩
    · exact .inr ⟨.empty, List.not_mem_nil⟩
  · rintro (⟨authority, path, rfl, isAuthority, isPath⟩ | ⟨isFree, colonless⟩)
    · exact .authority isAuthority isPath
    · cases isFree with
      | empty => exact .empty
      | absolute isAbsolute => exact .absolute isAbsolute
      | segment isSegment nonempty others =>
          rw [IsColonlessFirst, cut_segment isSegment others] at colonless
          refine .noscheme (IsMadeOf.imp isSegment fun codePoint member isData => ?_) nonempty
            others
          have isNoColon : codePoint ≠ ':' := fun isColon => colonless (isColon ▸ member)
          simpa [isDataOr, Text.ofString, isNoColon] using isData

/-! References. -/

/-- An optional part is a component with its mark. -/
theorem isOptional_iff {mark : CodePoint} {rule : Text → Prop} {text : Text} :
    IsOptional mark rule text ↔
      ∃ component, text = marked [mark] [] component ∧ ∀ part ∈ component, rule part := by
  constructor
  · rintro (_ | @⟨part, isPart⟩)
    · exact ⟨none, rfl, by simp⟩
    · exact ⟨some part, by simp [marked], by simpa using isPart⟩
  · rintro ⟨component, rfl, areParts⟩
    cases component with
    | none => exact .absent
    | some part => simpa [marked] using IsOptional.present (areParts part rfl)

section Parts

variable {scheme query fragment : Option Text} (isScheme : ∀ text ∈ scheme, IsScheme text)
  (isQuery : ∀ text ∈ query, IsQuery text) (isFragment : ∀ text ∈ fragment, IsQuery text)

include isScheme isQuery isFragment

/-- A reference with an authority is well-formed. -/
theorem isWellFormed_of_authority {authority path : Text} (isAuthority : IsAuthority authority)
    (isPath : IsPathAbempty path) :
    IsWellFormed ⟨scheme, some authority, path, query, fragment⟩ where
  scheme := isScheme
  authority := by simpa using isAuthority
  path := isPath.isPath
  rooted _ := isPath.head?_eq
  slashless := by simp
  colonless := by simp
  query := isQuery
  fragment := isFragment

/-- A reference without an authority is well-formed. -/
theorem isWellFormed_of_isFreePath {path : Text} (isFree : IsFreePath path)
    (colonless : scheme = none → IsColonlessFirst path) :
    IsWellFormed ⟨scheme, none, path, query, fragment⟩ where
  scheme := isScheme
  authority := by simp
  path := isFree.isPath
  rooted := by simp
  slashless _ := isFree.slashless
  colonless isSchemeless _ := colonless isSchemeless
  query := isQuery
  fragment := isFragment

end Parts

/-- The grammar derives what well-formed components are written as. -/
theorem IsWellFormed.isReference {reference : UriReference}
    (wellFormed : reference.IsWellFormed) : IsReference reference.written := by
  have isQuery : IsOptional '?' IsQuery (marked "?" [] reference.query) :=
    isOptional_iff.mpr ⟨_, rfl, wellFormed.query⟩
  have isFragment : IsOptional '#' IsQuery (marked "#" [] reference.fragment) :=
    isOptional_iff.mpr ⟨_, rfl, wellFormed.fragment⟩
  have isWritten : reference.written = marked [] ":" reference.scheme ++
      (marked "//" [] reference.authority ++ reference.path) ++
      marked "?" [] reference.query ++ marked "#" [] reference.fragment := by
    simp only [written, ending, List.append_assoc]
  rw [isWritten]
  cases isAuthority : reference.authority with
  | some authority =>
      have isPath : IsPathAbempty reference.path :=
        isPathAbempty_iff.mpr ⟨wellFormed.path, wellFormed.rooted (by simp [isAuthority])⟩
      have isMarked : marked "//" [] (some authority) = "//" ++ authority := by simp [marked]
      rw [isMarked]
      have isAuthority := wellFormed.authority authority isAuthority
      cases isScheme : reference.scheme with
      | some scheme =>
          exact .uri (wellFormed.scheme scheme isScheme) (.authority isAuthority isPath) isQuery
            isFragment
      | none => exact .relative (.authority isAuthority isPath) isQuery isFragment
  | none =>
      have isFree : IsFreePath reference.path :=
        .of_isPath wellFormed.path (wellFormed.slashless isAuthority)
      cases isScheme : reference.scheme with
      | some scheme =>
          exact .uri (wellFormed.scheme scheme isScheme) (isHierPart_iff.mpr (.inr isFree))
            isQuery isFragment
      | none =>
          exact .relative (isRelativePart_iff.mpr
            (.inr ⟨isFree, wellFormed.colonless isScheme isAuthority⟩)) isQuery isFragment

end UriTemplate.UriReference
