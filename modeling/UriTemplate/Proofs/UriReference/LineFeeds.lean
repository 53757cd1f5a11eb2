import UriTemplate.Proofs.UriReference.Recomposition

namespace UriTemplate.UriReference

open PercentEncoding

def isUriCharacter (codePoint : CodePoint) : Bool :=
  codePoint.isUnreserved || codePoint.isReserved

/-- The characters that may follow a component. -/
def ends : Text := ":@/?#"

/-- Characters of a URI, complete triplets, and line feeds that nothing follows but the end of
their component. -/
inductive IsAdmitted : Text → Prop
  | empty : IsAdmitted []
  | character {first : CodePoint} {rest : Text} (passes : isUriCharacter first = true)
      (others : IsAdmitted rest) : IsAdmitted (first :: rest)
  | triplet {high low : CodePoint} {rest : Text} (highIsHex : high.isHexDigit = true)
      (lowIsHex : low.isHexDigit = true) (others : IsAdmitted rest) :
      IsAdmitted (CodePoint.ofChar '%' :: high :: low :: rest)
  | lineFeed {rest : Text} (isEnd : ∀ next ∈ rest.head?, next ∈ ends)
      (others : IsAdmitted rest) : IsAdmitted (CodePoint.ofChar '\n' :: rest)

/-- URI characters may stand in front of an admitted text. -/
theorem IsAdmitted.append {text rest : Text} (isMadeOf : IsMadeOf isUriCharacter text)
    (others : IsAdmitted rest) : IsAdmitted (text ++ rest) := by
  induction isMadeOf with
  | empty => exact others
  | character passes _ inductionHypothesis => exact .character passes inductionHypothesis
  | triplet highIsHex lowIsHex _ inductionHypothesis =>
      exact .triplet highIsHex lowIsHex inductionHypothesis

/-! The alphabets of the components. -/

/-- Data and reserved marks are URI characters. -/
theorem isUriCharacter_of_isDataOr {marks : Text}
    (areReserved : ∀ mark ∈ marks, mark.isReserved = true) {codePoint : CodePoint}
    (isData : isDataOr marks codePoint = true) : isUriCharacter codePoint = true := by
  have subDelimiters : ∀ delimiter ∈ Text.ofString "!$&'()*+,;=",
      delimiter.isReserved = true := by decide
  simp only [isDataOr, CodePoint.isSubDelimiter, Bool.or_eq_true, List.contains_iff_mem] at isData
  rw [isUriCharacter, Bool.or_eq_true]
  rcases isData with (isUnreserved | isDelimiter) | isMark
  · exact .inl isUnreserved
  · exact .inr (subDelimiters codePoint isDelimiter)
  · exact .inr (areReserved codePoint isMark)

/-- Components with reserved marks are made of URI characters. -/
theorem isMadeOf_of_isDataOr {marks text : Text}
    (areReserved : ∀ mark ∈ marks, mark.isReserved = true)
    (isMadeOf : IsMadeOf (isDataOr marks) text) : IsMadeOf isUriCharacter text :=
  isMadeOf.imp fun _ _ => isUriCharacter_of_isDataOr areReserved

theorem isMadeOf_of_isPort {port : Text} (isPort : IsPort port) :
    IsMadeOf isUriCharacter port :=
  .of_forall fun digit member =>
    @isUriCharacter_of_isDataOr [] (by simp) digit (isDataOr_of_isDigit [] (isPort digit member))

theorem isMadeOf_of_isScheme {scheme : Text} (isScheme : IsScheme scheme) :
    IsMadeOf isUriCharacter scheme := by
  have marks : ∀ mark ∈ Text.ofString "+-.", isUriCharacter mark = true := by decide
  obtain ⟨startsWithLetter, others⟩ := isScheme
  refine .of_forall (List.forall_mem_cons.mpr ⟨?_, fun codePoint member => ?_⟩)
  · simp [isUriCharacter, CodePoint.isUnreserved, startsWithLetter]
  · rcases others codePoint member with isLetter | isDigit | isMark
    · simp [isUriCharacter, CodePoint.isUnreserved, isLetter]
    · simp [isUriCharacter, CodePoint.isUnreserved, isDigit]
    · exact marks codePoint isMark

/-! Components and what follows them. -/

section Component

variable {text behind : Text} (isEnd : ∀ next ∈ behind.head?, next ∈ ends)
  (others : IsAdmitted behind)

include isEnd others

/-- A component may end with a line feed, as an end of components follows it. -/
theorem IsAdmitted.component {rule : Text → Prop}
    (alphabet : ∀ body, rule body → IsMadeOf isUriCharacter body)
    (isComponent : UpToLineFeed rule text) : IsAdmitted (text ++ behind) := by
  cases isComponent with
  | whole isText => exact .append (alphabet text isText) others
  | lineFeed isBody =>
      rw [List.append_assoc]
      exact .append (alphabet _ isBody) (.lineFeed isEnd others)

theorem IsAdmitted.port (isPort : IsOptional ':' (UpToLineFeed IsPort) text) :
    IsAdmitted (text ++ behind) := by
  cases isPort with
  | absent => exact others
  | present isPort =>
      exact .character (by decide) (.component isEnd others (fun _ => isMadeOf_of_isPort) isPort)

theorem IsAdmitted.host (isHost : IsCheckedHost text) : IsAdmitted (text ++ behind) := by
  cases isHost with
  | name isRegName =>
      exact .component isEnd others (fun _ => isMadeOf_of_isDataOr (by decide)) isRegName
  | address isAddress =>
      have isHost := isHost_iff.mpr (.inr ⟨_, isAddress, rfl⟩)
      exact .append (isMadeOf_of_isDataOr (by decide) isHost.isMadeOf) others

theorem IsAdmitted.hostAndPort {host port : Text} (isHost : IsCheckedHost host)
    (isPort : IsOptional ':' (UpToLineFeed IsPort) port) :
    IsAdmitted (host ++ port ++ behind) := by
  have portIsAdmitted := IsAdmitted.port isEnd others isPort
  rw [List.append_assoc]
  refine .host (fun next isNext => ?_) portIsAdmitted isHost
  cases isPort with
  | absent => exact isEnd next isNext
  | present _ =>
      obtain rfl : CodePoint.ofChar ':' = next := by simpa using isNext
      decide

/-- Userinfo, host and port may each end with a line feed. -/
theorem IsAdmitted.authority (isAuthority : IsCheckedAuthority text) :
    IsAdmitted (text ++ behind) := by
  cases isAuthority with
  | server isHost isPort => exact .hostAndPort isEnd others isHost isPort
  | user isUserinfo isHost isPort =>
      rw [List.append_assoc, List.append_assoc]
      exact .component (by rintro _ ⟨⟩; decide)
        (.character (by decide) (.hostAndPort isEnd others isHost isPort))
        (fun _ => isMadeOf_of_isDataOr (by decide)) isUserinfo

end Component

/-! Accepted texts. -/

theorem subset_ends : Text.ofString "/?#" ⊆ ends := by decide

/-- A query or a fragment with its mark. -/
theorem IsAdmitted.marked {mark : CodePoint} {component : Option Text} {behind : Text}
    (isMark : isUriCharacter mark = true) (isQuery : ∀ text ∈ component, UpToLineFeed IsQuery text)
    (isEnd : ∀ next ∈ behind.head?, next ∈ ends) (others : IsAdmitted behind) :
    IsAdmitted (UriReference.marked [mark] [] component ++ behind) := by
  cases component with
  | none => exact others
  | some text =>
      have isAdmitted := IsAdmitted.character isMark
        (.component isEnd others (fun _ => isMadeOf_of_isDataOr (by decide)) (isQuery text rfl))
      simpa [UriReference.marked] using isAdmitted

/-- What follows a component is its end, so the line feeds that the rules leave out stand there. -/
theorem IsChecked.isAdmitted {reference : UriReference} (isChecked : reference.IsChecked)
    (rooted : reference.authority ≠ none → ∀ first ∈ reference.path.head?, first = '/') :
    IsAdmitted reference.written := by
  have fragment : IsAdmitted (UriReference.marked "#" [] reference.fragment ++ []) :=
    .marked (by decide) isChecked.fragment (by simp) .empty
  rw [List.append_nil] at fragment
  have ending : IsAdmitted reference.ending := by
    refine .marked (by decide) isChecked.query (fun next isNext => ?_) fragment
    obtain rfl := head?_marked _ next isNext
    decide
  have path : IsAdmitted (reference.path ++ reference.ending) :=
    .component (fun next isNext => subset_ends (List.mem_cons_of_mem _
      (head?_ending reference next isNext))) ending (fun _ => isMadeOf_of_isDataOr (by decide))
      isChecked.path
  have authority : IsAdmitted (UriReference.marked "//" [] reference.authority ++
      (reference.path ++ reference.ending)) := by
    cases isAuthority : reference.authority with
    | none => exact path
    | some authority =>
        have isEnd := head?_path_ending (rooted (by simp [isAuthority]))
        have slashes : IsMadeOf isUriCharacter (Text.ofString "//") := .of_forall (by decide)
        have isAdmitted := IsAdmitted.append slashes (.authority
          (fun next isNext => subset_ends (isEnd next isNext)) path
          (isChecked.authority authority isAuthority))
        simpa [UriReference.marked] using isAdmitted
  rw [written]
  cases isScheme : reference.scheme with
  | none => exact authority
  | some scheme =>
      have behindColon := @IsAdmitted.character (CodePoint.ofChar ':') _ (by decide) authority
      have isAdmitted := IsAdmitted.component (by rintro _ ⟨⟩; decide) behindColon
        (fun _ => isMadeOf_of_isScheme) (isChecked.scheme scheme isScheme)
      simpa [UriReference.marked, Text.ofString] using isAdmitted

/-- The character in front of the rest is one that a URI may hold, or it starts a triplet. -/
def StandsInUri (codePoint : CodePoint) (behind : Text) : Prop :=
  codePoint.isUnreserved = true ∨ codePoint.isReserved = true ∨
    codePoint = '%' ∧ ∃ high low rest, behind = high :: low :: rest ∧ high.isHexDigit = true ∧
      low.isHexDigit = true

/-- A character of an admitted text is one of URIs, or a line feed in front of an end of components.
-/
theorem IsAdmitted.standsInUri {before behind : Text} {codePoint : CodePoint}
    (isAdmitted : IsAdmitted (before ++ codePoint :: behind)) :
    StandsInUri codePoint behind ∨ codePoint = '\n' ∧ ∀ next ∈ behind.head?, next ∈ ends := by
  generalize written : before ++ codePoint :: behind = whole at isAdmitted
  induction isAdmitted generalizing before with
  | empty => simp at written
  | character passes _ inductionHypothesis =>
      rcases before with _ | ⟨first, before⟩
      · obtain ⟨rfl, -⟩ := List.cons.inj written
        exact .inl ((Bool.or_eq_true_iff.mp passes).imp_right .inl)
      · exact inductionHypothesis (List.cons.inj written).2
  | triplet highIsHex lowIsHex _ inductionHypothesis =>
      rcases before with _ | ⟨first, _ | ⟨second, _ | ⟨third, before⟩⟩⟩
      · obtain ⟨rfl, rfl⟩ := List.cons.inj written
        exact .inl (.inr (.inr ⟨rfl, _, _, _, rfl, highIsHex, lowIsHex⟩))
      · simp only [List.cons_append, List.nil_append, List.cons.injEq] at written
        obtain ⟨-, rfl, -⟩ := written
        exact .inl (.inl (isUnreserved_of_isHexDigit highIsHex))
      · simp only [List.cons_append, List.nil_append, List.cons.injEq] at written
        obtain ⟨-, -, rfl, -⟩ := written
        exact .inl (.inl (isUnreserved_of_isHexDigit lowIsHex))
      · simp only [List.cons_append, List.cons.injEq] at written
        exact inductionHypothesis written.2.2.2
  | lineFeed isEnd _ inductionHypothesis =>
      rcases before with _ | ⟨first, before⟩
      · obtain ⟨rfl, rfl⟩ := List.cons.inj written
        exact .inr ⟨rfl, isEnd⟩
      · exact inductionHypothesis (List.cons.inj written).2

/-- The characters of URIs are visible ones of ASCII. -/
theorem StandsInUri.isVisible {codePoint : CodePoint} {behind : Text}
    (stands : StandsInUri codePoint behind) :
    0x20 < codePoint.value ∧ codePoint.value < 0x7F := by
  have marks : ∀ mark ∈ Text.ofString "-._~:/?#[]@!$&'()*+,;=%",
      0x20 < mark.value ∧ mark.value < 0x7F := by decide
  have letters : 0x20 < '0'.toNat ∧ '9'.toNat < 0x7F ∧ 0x20 < 'A'.toNat ∧ 'Z'.toNat < 0x7F ∧
      0x20 < 'a'.toNat ∧ 'z'.toNat < 0x7F := by decide
  rcases stands with isUnreserved | isReserved | ⟨rfl, -⟩
  · simp only [CodePoint.isUnreserved, CodePoint.isLetter, CodePoint.isDigit, CodePoint.isBetween,
      Bool.or_eq_true, Bool.and_eq_true, decide_eq_true_eq, List.contains_iff_mem] at isUnreserved
    have unreservedMarks : Text.ofString "-._~" ⊆
        Text.ofString "-._~:/?#[]@!$&'()*+,;=%" := by decide
    rcases isUnreserved with isLetterOrDigit | isMark
    · omega
    · exact marks codePoint (unreservedMarks isMark)
  · have reservedMarks : Text.ofString ":/?#[]@!$&'()*+,;=" ⊆
        Text.ofString "-._~:/?#[]@!$&'()*+,;=%" := by decide
    exact marks codePoint (reservedMarks (List.contains_iff_mem.mp isReserved))
  · decide

/-- What stands in an accepted text may stand in a URI, except for line feeds at the end of a
component, one for each. Other control characters, spaces and all characters outside ASCII are
refused. -/
theorem validate_admits (text : Text) :
    text = (split text).written ∧ (validate text = .ok text ↔ (split text).IsChecked) ∧
    (validate text = .ok text →
      ∀ before codePoint behind, text = before ++ codePoint :: behind →
        StandsInUri codePoint behind ∨ codePoint = '\n' ∧ ∀ next ∈ behind.head?, next ∈ ends) ∧
    ∀ codePoint ∈ text, codePoint ≠ '\n' → codePoint.value ≤ 0x20 ∨ 0x7F ≤ codePoint.value →
      ∃ fault, validate text = .error ⟨text, fault⟩ := by
  obtain ⟨isWritten, rooted, -⟩ := split_cases text
  have admitted : validate text = .ok text →
      ∀ before codePoint behind, text = before ++ codePoint :: behind →
        StandsInUri codePoint behind ∨
          codePoint = '\n' ∧ ∀ next ∈ behind.head?, next ∈ ends := by
    intro isOk before codePoint behind isText
    have isAdmitted := (validate_iff_isChecked.mp isOk).isAdmitted rooted
    rw [← isWritten, isText] at isAdmitted
    exact isAdmitted.standsInUri
  refine ⟨isWritten, validate_iff_isChecked, admitted,
    fun codePoint member isNoLineFeed isInvisible => ?_⟩
  obtain ⟨before, behind, isText⟩ := List.append_of_mem member
  rcases validate_cases text with isOk | refused
  · have stands := (admitted isOk before codePoint behind isText).resolve_right
      fun isLineFeed => isNoLineFeed isLineFeed.1
    have isVisible := stands.isVisible
    omega
  · exact refused

theorem validate_admits_query :
    let text : Text := "//h:8/?%4a\n#"
    validate text = .ok text ∧ StandsInUri '%' "4a\n#" ∧
      ∃ fault, validate "//h\r/" = .error ⟨"//h\r/", fault⟩ := by
  intro text
  have isOk : validate text = .ok text := by decide +kernel
  have position : text = "//h:8/?" ++ CodePoint.ofChar '%' :: Text.ofString "4a\n#" := by decide
  have stands := (validate_admits text).2.2.1 isOk _ _ _ position
  refine ⟨isOk, stands.resolve_right fun isLineFeed => absurd isLineFeed.1 (by decide), ?_⟩
  exact (validate_admits "//h\r/").2.2.2 '\r' (by decide) (by decide) (by decide)

/-- A host that ends in a line feed is accepted, although no URI may hold one. -/
theorem validate_line_feed :
    let text : Text := "http://h\n/"
    validate text = .ok text ∧
      ∃ before codePoint behind, text = before ++ codePoint :: behind ∧
        ¬ StandsInUri codePoint behind := by
  intro text
  refine ⟨by decide +kernel, "http://h", '\n', "/", by decide, fun stands => ?_⟩
  exact absurd stands.isVisible (by decide)

end UriTemplate.UriReference
