import UriTemplate.Proofs.UriReference.Derivation

namespace UriTemplate

/-- A joined text has the characters of the separator and of the pieces. -/
theorem Text.forall_mem_join {property : CodePoint → Prop} {separator : Text} {pieces : List Text}
    (ofSeparator : ∀ codePoint ∈ separator, property codePoint)
    (ofPieces : ∀ piece ∈ pieces, ∀ codePoint ∈ piece, property codePoint) :
    ∀ codePoint ∈ Text.join separator pieces, property codePoint := by
  cases pieces with
  | nil => simp [join]
  | cons first rest =>
      rw [join_eq_flatMap]
      simp only [List.forall_mem_cons] at ofPieces
      intro codePoint member
      simp only [List.mem_append, List.mem_flatMap] at member
      rcases member with inFirst | ⟨piece, isPiece, inSeparator | inPiece⟩
      · exact ofPieces.1 codePoint inFirst
      · exact ofSeparator codePoint inSeparator
      · exact ofPieces.2 piece isPiece codePoint inPiece

namespace UriReference

open PercentEncoding

/-- Sixteen bits of an address. -/
structure IsGroup (group : Text) : Prop where
  nonempty : group ≠ []
  short : group.length ≤ 4
  digits : ∀ digit ∈ group, digit.isHexDigit = true

/-- So many groups with colons between them. The last two may be written as four numbers. -/
inductive IsGroups : Nat → Text → Prop
  | none : IsGroups 0 []
  | last {group : Text} (isGroup : IsGroup group) : IsGroups 1 group
  | numbers {first second third fourth : Nat}
      (areOctets : ∀ number ∈ [first, second, third, fourth], number < 256) :
      IsGroups 2 (Text.join "." ([first, second, third, fourth].map Numeral.ofNat))
  | group {count : Nat} {group rest : Text} (isGroup : IsGroup group)
      (others : IsGroups (count + 1) rest) : IsGroups (count + 2) (group ++ ":" ++ rest)

/-- Eight groups, or fewer with two colons in the place of one or more. -/
inductive IsSixthAddress : Text → Prop
  | whole {address : Text} (areGroups : IsGroups 8 address) : IsSixthAddress address
  | shortened {before : List Text} {count : Nat} {behind : Text}
      (areGroups : ∀ group ∈ before, IsGroup group) (othersAreGroups : IsGroups count behind)
      (fits : before.length + count ≤ 7) :
      IsSixthAddress (Text.join ":" before ++ "::" ++ behind)

inductive IsPublishedHost : Text → Prop
  | name {name : Text} (isRegName : IsRegName name) : IsPublishedHost name
  | numbers {first second third fourth : Nat}
      (areOctets : ∀ number ∈ [first, second, third, fourth], number < 256) :
      IsPublishedHost (Text.join "." ([first, second, third, fourth].map Numeral.ofNat))
  | sixth {address : Text} (isAddress : IsSixthAddress address) :
      IsPublishedHost ("[" ++ address ++ "]")
  | future {mark : CodePoint} {version address : Text} (isMark : mark ∈ Text.ofString "vV")
      (hasVersion : version ≠ []) (isVersion : ∀ digit ∈ version, digit.isHexDigit = true)
      (nonempty : address ≠ []) (isData : ∀ codePoint ∈ address, isDataOr ":" codePoint = true) :
      IsPublishedHost ("[" ++ (mark :: version ++ "." ++ address) ++ "]")

inductive IsPublishedAuthority : Text → Prop
  | server {host port : Text} (isHost : IsPublishedHost host)
      (isPort : IsOptional ':' IsPort port) : IsPublishedAuthority (host ++ port)
  | user {userinfo host port : Text} (isUserinfo : IsUserinfo userinfo)
      (isHost : IsPublishedHost host) (isPort : IsOptional ':' IsPort port) :
      IsPublishedAuthority (userinfo ++ "@" ++ (host ++ port))

/-- The five kinds of paths, each with what may stand in front of it. -/
inductive IsPublishedPath : (scheme authority : Option Text) → (path : Text) → Prop
  | abempty {scheme : Option Text} {authority path : Text} (isPath : IsPathAbempty path) :
      IsPublishedPath scheme (some authority) path
  | absolute {scheme : Option Text} {path : Text} (isPath : IsPathAbsolute path) :
      IsPublishedPath scheme none path
  | noscheme {segment rest : Text} (isSegment : IsColonlessSegment segment)
      (nonempty : segment ≠ []) (others : IsPathAbempty rest) :
      IsPublishedPath none none (segment ++ rest)
  | rootless {scheme segment rest : Text} (isSegment : IsSegment segment)
      (nonempty : segment ≠ []) (others : IsPathAbempty rest) :
      IsPublishedPath (some scheme) none (segment ++ rest)
  | empty {scheme : Option Text} : IsPublishedPath scheme none []

structure IsPublished (reference : UriReference) : Prop where
  scheme : ∀ text ∈ reference.scheme, IsScheme text
  authority : ∀ text ∈ reference.authority, IsPublishedAuthority text
  path : IsPublishedPath reference.scheme reference.authority reference.path
  query : ∀ text ∈ reference.query, IsQuery text
  fragment : ∀ text ∈ reference.fragment, IsQuery text

/-! Counted groups are characters of an address. -/

def IsAddressCharacter (codePoint : CodePoint) : Prop :=
  codePoint.isHexDigit = true ∨ codePoint ∈ Text.ofString ":."

/-- A group of an address has characters of addresses. -/
theorem IsGroup.characters {group : Text} (isGroup : IsGroup group) :
    ∀ codePoint ∈ group, IsAddressCharacter codePoint :=
  fun codePoint member => .inl (isGroup.digits codePoint member)

theorem IsGroups.characters {count : Nat} {groups : Text} (areGroups : IsGroups count groups) :
    ∀ codePoint ∈ groups, IsAddressCharacter codePoint := by
  have mark : ∀ mark ∈ Text.ofString ":.", IsAddressCharacter mark := fun _ isMark => .inr isMark
  induction areGroups with
  | none => simp
  | last isGroup => exact isGroup.characters
  | numbers areOctets =>
      refine Text.forall_mem_join (fun dot isDot => mark dot ?_) ?_
      · exact List.mem_cons_of_mem _ isDot
      · refine List.forall_mem_map.mpr fun number _ digit member => .inl ?_
        simp [CodePoint.isHexDigit, Numeral.isDigit_of_mem_ofNat member]
  | group isGroup _ inductionHypothesis =>
      intro codePoint member
      simp only [List.append_assoc, List.mem_append] at member
      rcases member with inGroup | isColon | inOthers
      · exact isGroup.characters codePoint inGroup
      · exact mark codePoint (List.mem_append_left _ isColon)
      · exact inductionHypothesis codePoint inOthers

theorem IsSixthAddress.characters {address : Text} (isAddress : IsSixthAddress address) :
    ∀ codePoint ∈ address, IsAddressCharacter codePoint := by
  have colon : ∀ mark ∈ Text.ofString "::", IsAddressCharacter mark := by
    intro mark isMark
    have colons : Text.ofString "::" ⊆ Text.ofString ":." := by decide
    exact .inr (colons isMark)
  cases isAddress with
  | whole areGroups => exact areGroups.characters
  | @shortened before _ behind areGroups othersAreGroups _ =>
      have beforeColons : ∀ codePoint ∈ Text.join ":" before, IsAddressCharacter codePoint :=
        Text.forall_mem_join (fun mark isMark => colon mark (List.mem_cons_of_mem _ isMark))
          fun group isGroup => (areGroups group isGroup).characters
      exact List.forall_mem_append.mpr
        ⟨List.forall_mem_append.mpr ⟨beforeColons, colon⟩, othersAreGroups.characters⟩

/-- No address is empty. -/
theorem IsSixthAddress.ne_nil {address : Text} (isAddress : IsSixthAddress address) :
    address ≠ [] := by
  cases isAddress with
  | whole areGroups =>
      cases areGroups with
      | group isGroup _ => simp [isGroup.nonempty]
  | shortened => simp [Text.ofString]

/-! What keeps the published rules keeps those of the checks. -/

/-- Every published host is a host. -/
theorem IsPublishedHost.isHost {host : Text} (isPublished : IsPublishedHost host) :
    IsHost host := by
  cases isPublished with
  | name isRegName => exact .name isRegName
  | numbers areOctets => exact .numbers areOctets
  | sixth isAddress => exact .address isAddress.ne_nil isAddress.characters
  | future isMark hasVersion isVersion nonempty isData =>
      exact .future isMark hasVersion isVersion nonempty isData

theorem IsPublishedAuthority.isAuthority {authority : Text}
    (isPublished : IsPublishedAuthority authority) : IsAuthority authority := by
  cases isPublished with
  | server isHost isPort => exact .server isHost.isHost isPort
  | user isUserinfo isHost isPort => exact .user isUserinfo isHost.isHost isPort

/-- Published references are well-formed. -/
theorem IsPublished.isWellFormed {reference : UriReference}
    (isPublished : reference.IsPublished) : reference.IsWellFormed := by
  obtain ⟨scheme, authority, path, query, fragment⟩ := reference
  obtain ⟨isScheme, isAuthority, isPath, isQuery, isFragment⟩ := isPublished
  cases isPath with
  | abempty isPath =>
      exact isWellFormed_of_authority isScheme isQuery isFragment
        (isAuthority _ rfl).isAuthority isPath
  | absolute isPath =>
      exact isWellFormed_of_isFreePath isScheme isQuery isFragment (.absolute isPath)
        fun _ => isPath.isColonlessFirst
  | noscheme isSegment nonempty others =>
      exact isWellFormed_of_isFreePath isScheme isQuery isFragment
        (.segment isSegment.isSegment nonempty others) fun _ => isSegment.isColonlessFirst others
  | rootless isSegment nonempty others =>
      exact isWellFormed_of_isFreePath isScheme isQuery isFragment
        (.segment isSegment nonempty others) (by simp)
  | empty =>
      exact isWellFormed_of_isFreePath isScheme isQuery isFragment .empty
        fun _ => List.not_mem_nil

/-- The text can be put together from components that keep the rules of the checks. -/
def IsComposed (text : Text) : Prop :=
  ∃ reference : UriReference, reference.IsWellFormed ∧ reference.written = text

/-- Without line feeds the accepted texts are those that can be composed, and all others are
refused. Every reference of the published grammar is accepted. -/
theorem validate_iff_isComposed (text : Text) :
    (CodePoint.ofChar '\n' ∉ text →
      (validate text = .ok text ↔ IsComposed text) ∧
        (¬ IsComposed text → ∃ fault, validate text = .error ⟨text, fault⟩)) ∧
    ∀ reference : UriReference, reference.IsPublished → reference.written = text →
      validate text = .ok text := by
  refine ⟨fun lineFeedless => ?_, ?_⟩
  · have accepted : validate text = .ok text ↔ IsComposed text :=
      validate_eq_ok_iff_written lineFeedless
    refine ⟨accepted, fun isNotComposed => ?_⟩
    rcases validate_cases text with isOk | refused
    · exact absurd (accepted.mp isOk) isNotComposed
    · exact refused
  · rintro reference isPublished rfl
    exact validate_written isPublished.isWellFormed

theorem validate_iff_isComposed_address :
    let text : Text := "s://[::1:192.0.2.1]:8/?"
    validate text = .ok text ∧ IsComposed text ∧ ¬ IsComposed ":" ∧
      ∃ fault, validate ":" = .error ⟨":", fault⟩ := by
  intro text
  let reference : UriReference :=
    ⟨some "s", some (Text.ofString "[::1:192.0.2.1]" ++ ":8"), "/", some "", none⟩
  have isAddress : IsSixthAddress (Text.join ":" [] ++ "::" ++ ("1" ++ ":" ++
      Text.join "." ([192, 0, 2, 1].map Numeral.ofNat))) :=
    .shortened (by simp) (.group ⟨by decide, by decide, by decide⟩ (.numbers (by decide)))
      (by decide)
  have isHost : IsPublishedHost "[::1:192.0.2.1]" := .sixth isAddress
  have isPort : ∀ digit ∈ Text.ofString "8", digit.isDigit = true := by decide
  have isPublished : reference.IsPublished := {
    scheme := by rintro _ ⟨⟩; exact .letter (by decide) (by simp)
    authority := by rintro _ ⟨⟩; exact .server isHost (.present isPort)
    path := .abempty (.segment .empty .empty)
    query := by rintro _ ⟨⟩; exact .empty
    fragment := by rintro _ ⟨⟩ }
  have isOk : validate text = .ok text :=
    (validate_iff_isComposed text).2 reference isPublished (by decide)
  obtain ⟨accepted, refused⟩ := (validate_iff_isComposed ":").1 (by decide)
  have isNotComposed : ¬ IsComposed ":" := fun isComposed =>
    absurd (accepted.mpr isComposed) (by decide +kernel)
  exact ⟨isOk, ((validate_iff_isComposed text).1 (by decide)).1.mp isOk, isNotComposed,
    refused isNotComposed⟩

end UriReference

end UriTemplate
