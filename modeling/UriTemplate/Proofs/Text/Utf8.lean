import UriTemplate.Text.Utf8

namespace UriTemplate.Utf8

/-- The code point with a number. No other numbers are laid out, so it does not matter what stands
for them. -/
def numbered (number : Nat) : CodePoint :=
  (CodePoint.ofNat? number).getD default

/-- So many octets still follow of a code point, of whose number the leading part has been read. -/
def readFrom : Nat → Nat → List Octet → Text
  | _, _, [] => []
  | 0, _, first :: rest =>
      if first.val < 0x80 then numbered first.val :: readFrom 0 0 rest
      else if first.val < 0xE0 then readFrom 1 (first.val - 0xC0) rest
      else if first.val < 0xF0 then readFrom 2 (first.val - 0xE0) rest
      else readFrom 3 (first.val - 0xF0) rest
  | 1, leading, octet :: rest => numbered (64 * leading + octet.val % 64) :: readFrom 0 0 rest
  | following + 2, leading, octet :: rest =>
      readFrom (following + 1) (64 * leading + octet.val % 64) rest

/-- The text that the octets were laid out for. -/
def characters (octets : List Octet) : Text :=
  readFrom 0 0 octets

/-- A code point has the number that it is found by. -/
theorem numbered_value (codePoint : CodePoint) : numbered codePoint.value = codePoint := by
  rw [numbered, CodePoint.ofNat?, dif_pos codePoint.inRange]
  rfl

/-- The octets of a code point are read as that code point, whatever stands behind them. -/
theorem readFrom_octets_append (codePoint : CodePoint) (rest : List Octet) :
    readFrom 0 0 (octets codePoint ++ rest) = codePoint :: readFrom 0 0 rest := by
  have inRange := codePoint.inRange
  have isRead := numbered_value codePoint
  unfold octets
  dsimp only
  split
  case isTrue oneOctet =>
      simp only [List.cons_append, List.nil_append, readFrom]
      rw [if_pos oneOctet, isRead]
  split
  case isTrue tooLarge twoOctets =>
      have number : 64 * (0xC0 + codePoint.value / 64 - 0xC0) + (0x80 + codePoint.value % 64) % 64 =
          codePoint.value := by omega
      simp only [List.cons_append, List.nil_append, readFrom]
      rw [if_neg (by omega), if_pos (by omega), number, isRead]
  split
  case isTrue threeOctets =>
      have number : 64 * (64 * (0xE0 + codePoint.value / 4096 - 0xE0) +
          (0x80 + codePoint.value / 64 % 64) % 64) + (0x80 + codePoint.value % 64) % 64 =
            codePoint.value := by omega
      simp only [List.cons_append, List.nil_append, readFrom]
      rw [if_neg (by omega), if_neg (by omega), if_pos (by omega), number, isRead]
  case isFalse =>
      have number : 64 * (64 * (64 * (0xF0 + codePoint.value / 262144 - 0xF0) +
          (0x80 + codePoint.value / 4096 % 64) % 64) + (0x80 + codePoint.value / 64 % 64) % 64) +
            (0x80 + codePoint.value % 64) % 64 = codePoint.value := by omega
      simp only [List.cons_append, List.nil_append, readFrom]
      rw [if_neg (by omega), if_neg (by omega), if_neg (by omega), number, isRead]

/-- Reading the octets of a text gives the text. -/
theorem characters_encode (text : Text) : characters (encode text) = text := by
  induction text with
  | nil => rfl
  | cons first rest inductionHypothesis =>
      rw [encode, List.flatMap_cons, characters, readFrom_octets_append]
      exact congrArg (first :: ·) inductionHypothesis

/-- Different texts have different octets. -/
theorem encode_injective : Function.Injective encode :=
  Function.LeftInverse.injective characters_encode

end UriTemplate.Utf8
