import UriTemplate.CharacterClass
import UriTemplate.Proofs.PercentEncoding.Alphabet
import UriTemplate.Proofs.Text.Numeral

namespace UriTemplate.UriReference

open PercentEncoding

/-- The characters that every component may hold, and the marks that one rule adds to them. -/
def isDataOr (marks : Text) (codePoint : CodePoint) : Bool :=
  codePoint.isUnreserved || codePoint.isSubDelimiter || marks.contains codePoint

inductive IsScheme : Text → Prop
  | letter {first : CodePoint} {rest : Text} (startsWithLetter : first.isLetter = true)
      (others : ∀ codePoint ∈ rest, codePoint.isLetter = true ∨ codePoint.isDigit = true ∨
        codePoint ∈ Text.ofString "+-.") : IsScheme (first :: rest)

def IsUserinfo : Text → Prop := IsMadeOf (isDataOr ":")

def IsRegName : Text → Prop := IsMadeOf (isDataOr "")

/-- A name, four numbers below 256, or an address or a future address in square brackets. -/
inductive IsHost : Text → Prop
  | name {name : Text} (isRegName : IsRegName name) : IsHost name
  | numbers {first second third fourth : Nat}
      (areOctets : ∀ number ∈ [first, second, third, fourth], number < 256) :
      IsHost (Text.join "." ([first, second, third, fourth].map Numeral.ofNat))
  | address {address : Text} (nonempty : address ≠ [])
      (groups : ∀ codePoint ∈ address, codePoint.isHexDigit = true ∨
        codePoint ∈ Text.ofString ":.") : IsHost ("[" ++ address ++ "]")
  | future {mark : CodePoint} {version address : Text} (isMark : mark ∈ Text.ofString "vV")
      (hasVersion : version ≠ []) (isVersion : ∀ digit ∈ version, digit.isHexDigit = true)
      (nonempty : address ≠ []) (isData : ∀ codePoint ∈ address, isDataOr ":" codePoint = true) :
      IsHost ("[" ++ (mark :: version ++ "." ++ address) ++ "]")

/-- A part that a mark introduces and that may be left out. -/
inductive IsOptional (mark : CodePoint) (rule : Text → Prop) : Text → Prop
  | absent : IsOptional mark rule []
  | present {text : Text} (isPart : rule text) : IsOptional mark rule (mark :: text)

def IsPort (text : Text) : Prop := ∀ digit ∈ text, digit.isDigit = true

inductive IsAuthority : Text → Prop
  | server {host port : Text} (isHost : IsHost host) (isPort : IsOptional ':' IsPort port) :
      IsAuthority (host ++ port)
  | user {userinfo host port : Text} (isUserinfo : IsUserinfo userinfo) (isHost : IsHost host)
      (isPort : IsOptional ':' IsPort port) : IsAuthority (userinfo ++ "@" ++ (host ++ port))

def IsSegment : Text → Prop := IsMadeOf (isDataOr ":@")

def IsColonlessSegment : Text → Prop := IsMadeOf (isDataOr "@")

/-- Segments with a slash in front of each. -/
inductive IsPathAbempty : Text → Prop
  | empty : IsPathAbempty []
  | segment {segment rest : Text} (isSegment : IsSegment segment)
      (others : IsPathAbempty rest) : IsPathAbempty ("/" ++ segment ++ rest)

/-- A slash that no second one follows. -/
inductive IsPathAbsolute : Text → Prop
  | root : IsPathAbsolute "/"
  | segment {segment rest : Text} (isSegment : IsSegment segment) (nonempty : segment ≠ [])
      (others : IsPathAbempty rest) : IsPathAbsolute ("/" ++ segment ++ rest)

/-- What may stand behind a scheme. -/
inductive IsHierPart : Text → Prop
  | authority {authority path : Text} (isAuthority : IsAuthority authority)
      (isPath : IsPathAbempty path) : IsHierPart ("//" ++ authority ++ path)
  | absolute {path : Text} (isPath : IsPathAbsolute path) : IsHierPart path
  | rootless {segment rest : Text} (isSegment : IsSegment segment) (nonempty : segment ≠ [])
      (others : IsPathAbempty rest) : IsHierPart (segment ++ rest)
  | empty : IsHierPart []

/-- What may stand where there is no scheme. -/
inductive IsRelativePart : Text → Prop
  | authority {authority path : Text} (isAuthority : IsAuthority authority)
      (isPath : IsPathAbempty path) : IsRelativePart ("//" ++ authority ++ path)
  | absolute {path : Text} (isPath : IsPathAbsolute path) : IsRelativePart path
  | noscheme {segment rest : Text} (isSegment : IsColonlessSegment segment)
      (nonempty : segment ≠ []) (others : IsPathAbempty rest) : IsRelativePart (segment ++ rest)
  | empty : IsRelativePart []

/-- The rule of queries is also that of fragments. -/
def IsQuery : Text → Prop := IsMadeOf (isDataOr ":@/?")

inductive IsReference : Text → Prop
  | uri {scheme part query fragment : Text} (isScheme : IsScheme scheme)
      (isPart : IsHierPart part) (isQuery : IsOptional '?' IsQuery query)
      (isFragment : IsOptional '#' IsQuery fragment) :
      IsReference (scheme ++ ":" ++ part ++ query ++ fragment)
  | relative {part query fragment : Text} (isPart : IsRelativePart part)
      (isQuery : IsOptional '?' IsQuery query) (isFragment : IsOptional '#' IsQuery fragment) :
      IsReference (part ++ query ++ fragment)

/-! The alphabets of the rules. -/

/-- More marks allow more characters. -/
theorem isDataOr_of_subset {marks others : Text} (isSubset : marks ⊆ others)
    {codePoint : CodePoint} (isData : isDataOr marks codePoint = true) :
    isDataOr others codePoint = true := by
  simp only [isDataOr, Bool.or_eq_true, List.contains_iff_mem] at isData ⊢
  exact isData.imp_right fun isMark => isSubset isMark

/-- Hex digits are data. -/
theorem isDataOr_of_isHexDigit (marks : Text) {codePoint : CodePoint}
    (isHexDigit : codePoint.isHexDigit = true) : isDataOr marks codePoint = true := by
  simp [isDataOr, isUnreserved_of_isHexDigit isHexDigit]

theorem isDataOr_of_isDigit (marks : Text) {codePoint : CodePoint}
    (isDigit : codePoint.isDigit = true) : isDataOr marks codePoint = true :=
  isDataOr_of_isHexDigit marks (by simp [CodePoint.isHexDigit, isDigit])

theorem isMadeOf_of_subset {marks others text : Text} (isSubset : marks ⊆ others)
    (isMadeOf : IsMadeOf (isDataOr marks) text) : IsMadeOf (isDataOr others) text :=
  isMadeOf.imp fun _ _ => isDataOr_of_subset isSubset

/-- What no rule allows is in no text of it. -/
theorem not_mem_of_isMadeOf {marks delimiters text : Text}
    (isMadeOf : IsMadeOf (isDataOr marks) text)
    (areOutside : ∀ delimiter ∈ delimiters, isDataOr marks delimiter = false ∧
      isTripletCharacter delimiter = false) : ∀ codePoint ∈ text, codePoint ∉ delimiters := by
  intro codePoint member isDelimiter
  have ⟨isNoData, isOutside⟩ := areOutside codePoint isDelimiter
  exact isMadeOf.not_mem isNoData isOutside member

/-- An address of four numbers is a name as well. -/
theorem isRegName_numbers (numbers : List Nat) :
    IsRegName (Text.join "." (numbers.map Numeral.ofNat)) := by
  refine .join (.of_forall (by decide)) (List.forall_mem_map.mpr fun number _ => ?_)
  exact .of_forall fun digit member =>
    isDataOr_of_isDigit "" (Numeral.isDigit_of_mem_ofNat member)

end UriTemplate.UriReference
