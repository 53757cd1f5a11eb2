import UriTemplate.Proofs.PercentEncoding.Alphabet

namespace UriTemplate.PercentEncoding

def unreservedCharacters : Text :=
  "ABCDEFGHIJKLMNOPQRSTUVWXYZabcdefghijklmnopqrstuvwxyz0123456789-._~"

def reservedCharacters : Text :=
  ":/?#[]@!$&'()*+,;="

/-- Both cases of the letters count. -/
def hexDigits : Text :=
  "0123456789ABCDEFabcdef"

/-- One character that stands for itself, or one whole triplet. -/
inductive IsEncodedUnit (allowReserved : Bool) : Text → Prop
  | unreserved {codePoint : CodePoint} (member : codePoint ∈ unreservedCharacters) :
      IsEncodedUnit allowReserved [codePoint]
  | reserved {codePoint : CodePoint} (allowed : allowReserved = true)
      (member : codePoint ∈ reservedCharacters) : IsEncodedUnit allowReserved [codePoint]
  | triplet {high low : CodePoint} (highIsHex : high ∈ hexDigits) (lowIsHex : low ∈ hexDigits) :
      IsEncodedUnit allowReserved [CodePoint.ofChar '%', high, low]

/-- The text can be cut into such units. -/
def IsEncoded (allowReserved : Bool) (text : Text) : Prop :=
  ∃ units : List Text, text = units.flatten ∧ ∀ unit ∈ units, IsEncodedUnit allowReserved unit

/-! The tests of the encoder accept the characters of the alphabet and no others. -/

/-- A test that only ASCII characters pass is settled by looking at these. -/
theorem mem_iff_of_ascii {test : CodePoint → Bool} {characters : Text}
    (isAscii : ∀ codePoint, test codePoint = true → codePoint.value < 0x80)
    (passes : ∀ codePoint ∈ characters, test codePoint = true)
    (contains : ∀ value : Fin 0x80, test ⟨value, by omega⟩ = true →
      (⟨value, by omega⟩ : CodePoint) ∈ characters) {codePoint : CodePoint} :
    codePoint ∈ characters ↔ test codePoint = true :=
  ⟨passes codePoint, fun isPassed =>
    contains ⟨codePoint.value, isAscii codePoint isPassed⟩ isPassed⟩

/-- The list of unreserved characters is complete. -/
theorem mem_unreservedCharacters_iff {codePoint : CodePoint} :
    codePoint ∈ unreservedCharacters ↔ codePoint.isUnreserved = true := by
  apply mem_iff_of_ascii
  case isAscii =>
    intro codePoint isUnreserved
    have marks : ∀ mark ∈ Text.ofString "-._~", mark.value < 0x80 := by decide
    have last : '9'.toNat < 0x80 ∧ 'Z'.toNat < 0x80 ∧ 'z'.toNat < 0x80 := by decide
    simp only [CodePoint.isUnreserved, CodePoint.isLetter, CodePoint.isDigit, CodePoint.isBetween,
      Bool.or_eq_true, Bool.and_eq_true, decide_eq_true_eq, List.contains_iff_mem] at isUnreserved
    rcases isUnreserved with isLetterOrDigit | isMark
    · omega
    · exact marks codePoint isMark
  case passes => decide +kernel
  case contains => decide +kernel

theorem mem_hexDigits_iff {codePoint : CodePoint} :
    codePoint ∈ hexDigits ↔ codePoint.isHexDigit = true := by
  apply mem_iff_of_ascii
  case isAscii =>
    intro codePoint isHexDigit
    have last : '9'.toNat < 0x80 ∧ 'F'.toNat < 0x80 ∧ 'f'.toNat < 0x80 := by decide
    simp only [CodePoint.isHexDigit, CodePoint.isDigit, CodePoint.isBetween, Bool.or_eq_true,
      Bool.and_eq_true, decide_eq_true_eq] at isHexDigit
    omega
  case passes => decide
  case contains => decide

theorem mem_reservedCharacters_iff {codePoint : CodePoint} :
    codePoint ∈ reservedCharacters ↔ codePoint.isReserved = true :=
  List.contains_iff_mem.symm

variable {allowReserved : Bool} {text : Text}

/-- A single character is a unit just if it is kept. -/
theorem isKept_iff_isEncodedUnit {codePoint : CodePoint} :
    isKept allowReserved codePoint = true ↔ IsEncodedUnit allowReserved [codePoint] := by
  rw [isKept_eq, Bool.or_eq_true, Bool.and_eq_true, ← mem_unreservedCharacters_iff,
    ← mem_reservedCharacters_iff]
  constructor
  · rintro (isUnreserved | ⟨allowed, isReserved⟩)
    · exact .unreserved isUnreserved
    · exact .reserved allowed isReserved
  · intro isUnit
    cases isUnit with
    | unreserved isUnreserved => exact .inl isUnreserved
    | reserved allowed isReserved => exact .inr ⟨allowed, isReserved⟩

/-- A unit is a kept character or a triplet. -/
theorem IsEncodedUnit.isMadeOf (isUnit : IsEncodedUnit allowReserved text) :
    IsMadeOf (isKept allowReserved) text := by
  cases isUnit with
  | unreserved member =>
      exact .character (isKept_iff_isEncodedUnit.mpr (.unreserved member)) .empty
  | reserved allowed member =>
      exact .character (isKept_iff_isEncodedUnit.mpr (.reserved allowed member)) .empty
  | triplet highIsHex lowIsHex =>
      exact .triplet (mem_hexDigits_iff.mp highIsHex) (mem_hexDigits_iff.mp lowIsHex) .empty

namespace IsEncoded

theorem empty : IsEncoded allowReserved [] :=
  ⟨[], rfl, fun _ member => absurd member List.not_mem_nil⟩

theorem unit_append {unit : Text} (isUnit : IsEncodedUnit allowReserved unit)
    (isEncoded : IsEncoded allowReserved text) : IsEncoded allowReserved (unit ++ text) := by
  obtain ⟨units, rfl, areUnits⟩ := isEncoded
  exact ⟨unit :: units, rfl, List.forall_mem_cons.mpr ⟨isUnit, areUnits⟩⟩

end IsEncoded

/-- Encoded texts are those made of kept characters and triplets. -/
theorem isEncoded_iff_isMadeOf :
    IsEncoded allowReserved text ↔ IsMadeOf (isKept allowReserved) text := by
  constructor
  · rintro ⟨units, rfl, areUnits⟩
    induction units with
    | nil => exact .empty
    | cons unit rest inductionHypothesis =>
        have ⟨here, others⟩ := List.forall_mem_cons.mp areUnits
        exact here.isMadeOf.append (inductionHypothesis others)
  · intro isMadeOf
    induction isMadeOf with
    | empty => exact .empty
    | character kept _ inductionHypothesis =>
        exact .unit_append (isKept_iff_isEncodedUnit.mp kept) inductionHypothesis
    | triplet highIsHex lowIsHex _ inductionHypothesis =>
        exact .unit_append (.triplet (mem_hexDigits_iff.mpr highIsHex)
          (mem_hexDigits_iff.mpr lowIsHex)) inductionHypothesis

/-- Encoding gives kept characters and triplets. -/
theorem isMadeOf_isKept_encode (allowReserved : Bool) (text : Text) :
    IsMadeOf (isKept allowReserved) (encode allowReserved text) :=
  isMadeOf_encode fun _ _ => id

/-- Where more is kept, what was encoded before is left alone. -/
theorem encode_encode {keepsMore : Bool} (keeps : allowReserved = true → keepsMore = true)
    (text : Text) : encode keepsMore (encode allowReserved text) = encode allowReserved text := by
  apply encode_of_isMadeOf
  apply (isMadeOf_isKept_encode allowReserved text).imp
  intro codePoint _ kept
  cases allowReserved with
  | false => exact isKept_of_isKept_false kept
  | true =>
      rw [keeps rfl]
      exact kept

/-- Encoding leaves a text alone exactly if the text is written in the alphabet of encoded texts,
and these are the texts that encoding writes. So nothing is encoded twice, also if the reserved
characters are kept only the second time. -/
theorem encode_eq_self_iff_isEncoded :
    (∀ (allowReserved : Bool) (text : Text),
      (encode allowReserved text = text ↔ IsEncoded allowReserved text) ∧
      ((∃ source, encode allowReserved source = text) ↔ IsEncoded allowReserved text)) ∧
    ∀ allowReserved keepsMore : Bool, (allowReserved = true → keepsMore = true) →
      ∀ text, encode keepsMore (encode allowReserved text) = encode allowReserved text := by
  have written (allowReserved : Bool) (text : Text) :
      IsEncoded allowReserved (encode allowReserved text) :=
    isEncoded_iff_isMadeOf.mpr (isMadeOf_isKept_encode allowReserved text)
  have stays {allowReserved : Bool} {text : Text} (isEncoded : IsEncoded allowReserved text) :
      encode allowReserved text = text :=
    encode_of_isMadeOf (isEncoded_iff_isMadeOf.mp isEncoded)
  refine ⟨fun allowReserved text => ⟨⟨?_, stays⟩, ?_, ?_⟩, fun _ _ => encode_encode⟩
  · intro same
    exact same ▸ written allowReserved text
  · rintro ⟨source, rfl⟩
    exact written allowReserved source
  · exact fun isEncoded => ⟨text, stays isEncoded⟩

theorem encode_eq_self_iff_isEncoded_mixed :
    let text : Text := "%2f/%4é"
    encode false text = "%2f%2F%254%C3%A9" ∧ encode true text = "%2f/%254%C3%A9" ∧
      ¬IsEncoded true text ∧ IsEncoded false (encode false text) ∧
      encode true (encode false text) = encode false text := by
  intro text
  have changes : encode true text ≠ text := by decide +kernel
  obtain ⟨fixed, again⟩ := encode_eq_self_iff_isEncoded
  exact ⟨by decide +kernel, by decide +kernel, mt (fixed true text).1.mpr changes,
    (fixed false _).2.mp ⟨text, rfl⟩, again false true nofun text⟩

end UriTemplate.PercentEncoding
