import UriTemplate.PercentEncoding
import UriTemplate.Proofs.Syntax.Grammar

namespace UriTemplate.PercentEncoding

open Grammar

variable (allowReserved : Bool)

/-- A triplet that reaches over the end of the window is no triplet of the shown text either. -/
theorem encodeFirst_eq_encode_take (window : Nat) (text : Text) :
    encodeFirst allowReserved window text = encode allowReserved (text.take window) := by
  fun_induction encodeFirst allowReserved window text
  case case1 => rfl
  case case2 => rw [List.take_nil]; rfl
  case case3 window first second third rest isTriplet inductionHypothesis =>
      rw [inductionHypothesis]
      simp only [List.take_succ_cons, encode, isTriplet, if_true]
  case case4 window first second third rest isNoTriplet inductionHypothesis =>
      rw [inductionHypothesis]
      simp only [List.take_succ_cons, encode, isNoTriplet]
      rfl
  case case5 window first rest isShort inductionHypothesis =>
      rw [inductionHypothesis, List.take_succ_cons, encode]
      intro second third others shown
      have sameLength := congrArg List.length shown
      rw [List.length_take, List.length_cons, List.length_cons] at sameLength
      have isWide : window = window - 2 + 2 := by omega
      rcases rest with _ | ⟨next, _ | ⟨last, rest⟩⟩
      · rw [List.length_nil] at sameLength
        omega
      · rw [List.length_singleton] at sameLength
        omega
      · exact isShort (window - 2) next last rest isWide rfl

/-- Encoding a range is encoding the slice. -/
theorem encodeRange_eq_encode_slice (text : Text) (start : Nat) (stop : Option Nat) :
    encodeRange allowReserved text start stop =
      encode allowReserved (text.slice start (stop.getD text.length)) := by
  rw [encodeRange, encodeFirst_eq_encode_take, Text.slice, List.drop_take]

/-- A percent sign is not kept, so no triplet begins with a kept character. -/
theorem encode_cons_of_isKept {first : CodePoint} (kept : isKept allowReserved first = true)
    (rest : Text) :
    encode allowReserved (first :: rest) = first :: encode allowReserved rest := by
  have isNoPercent := ne_percent_of_isKept kept
  have stays : encodeOne allowReserved first = [first] := if_pos kept
  rcases rest with _ | ⟨second, _ | ⟨third, rest⟩⟩
  · simp [encode, stays]
  · simp [encode, stays]
  · simp [encode, isTriplet, isNoPercent, stays]

/-- An unreserved character is kept. -/
theorem encode_cons_of_isUnreserved {first : CodePoint}
    (isUnreserved : first.isUnreserved = true) (rest : Text) :
    encode allowReserved (first :: rest) = first :: encode allowReserved rest :=
  encode_cons_of_isKept allowReserved (by simp [isKept_eq, isUnreserved]) rest

/-- A character of a name, be it a triplet, is kept. -/
theorem encode_append_of_isVarchar {character : Text} (isVarchar : IsVarchar character)
    (rest : Text) :
    encode allowReserved (character ++ rest) = character ++ encode allowReserved rest := by
  cases isVarchar with
  | letter isLetter =>
      exact encode_cons_of_isUnreserved _ (by simp [CodePoint.isUnreserved, isLetter]) rest
  | digit isDigit =>
      exact encode_cons_of_isUnreserved _ (by simp [CodePoint.isUnreserved, isDigit]) rest
  | underscore => exact encode_cons_of_isUnreserved _ (by decide) rest
  | triplet highIsHex lowIsHex => simp [encode, isTriplet_iff, highIsHex, lowIsHex]

/-- The rest of a name is encoded as itself. -/
theorem encode_of_isNameTail {text : Text} (isTail : IsNameTail text) :
    encode allowReserved text = text := by
  induction isTail with
  | done => rfl
  | adjoined isVarchar _ inductionHypothesis =>
      rw [encode_append_of_isVarchar _ isVarchar, inductionHypothesis]
  | @dotted character rest isVarchar _ inductionHypothesis =>
      rw [List.cons_append, encode_cons_of_isUnreserved _ (by decide),
        encode_append_of_isVarchar _ isVarchar, inductionHypothesis]

/-- A name is encoded as itself. -/
theorem encode_of_isName {name : Text} (isName : IsName name) :
    encode allowReserved name = name := by
  cases isName with
  | starting isVarchar isTail =>
      rw [encode_append_of_isVarchar _ isVarchar, encode_of_isNameTail _ isTail]

/-- A name stays the same as literal text. -/
theorem encodeLiteral_of_isName {name : Text} (isName : IsName name) :
    encodeLiteral name = name :=
  encode_of_isName true isName

end UriTemplate.PercentEncoding
