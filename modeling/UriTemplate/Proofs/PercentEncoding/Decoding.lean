import UriTemplate.Proofs.PercentEncoding.Alphabet
import UriTemplate.Proofs.Text.Utf8

namespace UriTemplate.PercentEncoding

/-- Without a percent sign a character stands for its own octets. -/
theorem decode_cons_of_ne_percent {first : CodePoint} (isNoPercent : first ≠ CodePoint.ofChar '%')
    (rest : Text) : decode (first :: rest) = Utf8.octets first ++ decode rest := by
  rcases rest with _ | ⟨second, _ | ⟨third, rest⟩⟩
  · simp [decode]
  · simp [decode]
  · simp [decode, isTriplet, isNoPercent]

/-- A hex digit is worth what it was written for. -/
theorem hexValue_hexDigit (number : Nat) : (hexDigit number).hexValue = number % 16 := by
  have digits : ∀ digit < 16,
      (CodePoint.ofChar (Nat.digitChar digit).toUpper).hexValue = digit := by decide
  exact digits (number % 16) (Nat.mod_lt number (by decide))

/-- The two digits of a triplet have the value of its octet. -/
theorem decode_triplet_append (octet : Octet) (rest : Text) :
    decode (triplet octet ++ rest) = octet :: decode rest := by
  have inRange := octet.isLt
  have isTriplet : isTriplet (CodePoint.ofChar '%') (hexDigit (octet.val / 16))
      (hexDigit (octet.val % 16)) = true :=
    isTriplet_iff.mpr ⟨rfl, isHexDigit_hexDigit _, isHexDigit_hexDigit _⟩
  have sameValue : 16 * (octet.val / 16 % 16) + octet.val % 16 % 16 = octet.val := by omega
  rw [triplet, List.cons_append, List.cons_append, List.cons_append, List.nil_append, decode,
    if_pos isTriplet, hexValue_hexDigit, hexValue_hexDigit, sameValue]
  congr 1
  exact Fin.ext (Nat.mod_eq_of_lt inRange)

/-- Triplets are decoded to their octets. -/
theorem decode_triplets_append (octets : List Octet) (rest : Text) :
    decode (triplets octets ++ rest) = octets ++ decode rest := by
  induction octets with
  | nil => rfl
  | cons octet others inductionHypothesis =>
      rw [triplets, List.flatMap_cons, List.append_assoc, decode_triplet_append,
        List.cons_append, ← inductionHypothesis]
      rfl

/-- An encoded character is decoded to its octets. -/
theorem decode_encodeOne_append (allowReserved : Bool) (codePoint : CodePoint) (rest : Text) :
    decode (encodeOne allowReserved codePoint ++ rest) = Utf8.octets codePoint ++ decode rest := by
  unfold encodeOne
  split
  case isTrue kept => exact decode_cons_of_ne_percent (ne_percent_of_isKept kept) rest
  case isFalse => exact decode_triplets_append _ rest

/-- Encoding keeps the octets of a text, also where it keeps a triplet. -/
theorem decode_encode (allowReserved : Bool) (text : Text) :
    decode (encode allowReserved text) = decode text := by
  fun_induction encode allowReserved text with
  | case1 => rfl
  | case2 first second third rest isTriplet inductionHypothesis =>
      rw [decode, if_pos isTriplet, inductionHypothesis, decode, if_pos isTriplet]
  | case3 first second third rest isNoTriplet inductionHypothesis =>
      rw [decode_encodeOne_append, inductionHypothesis, decode, if_neg isNoTriplet]
  | case4 first rest isShort inductionHypothesis =>
      rw [decode_encodeOne_append, inductionHypothesis, decode]
      exact isShort

/-- Without percent signs a text is decoded to its own octets. -/
theorem decode_of_percent_not_mem {text : Text} (noPercent : CodePoint.ofChar '%' ∉ text) :
    decode text = Utf8.encode text := by
  induction text with
  | nil => rfl
  | cons first rest inductionHypothesis =>
      simp only [List.mem_cons, not_or] at noPercent
      rw [decode_cons_of_ne_percent (Ne.symm noPercent.1), inductionHypothesis noPercent.2]
      rfl

/-- Without percent signs the characters come back. -/
theorem characters_decode_encode (allowReserved : Bool) {text : Text}
    (noPercent : CodePoint.ofChar '%' ∉ text) :
    Utf8.characters (decode (encode allowReserved text)) = text := by
  rw [decode_encode, decode_of_percent_not_mem noPercent, Utf8.characters_encode]

/-- Encoding keeps the octets that a text stands for, and octets tell texts apart. So a text without
percent signs can be read off its encoding, and no two such texts have the same encoding, even with
the reserved characters kept in one of them only. -/
theorem encode_preserves_octets :
    (∀ (allowReserved : Bool) (text : Text), decode (encode allowReserved text) = decode text) ∧
      Function.Injective Utf8.encode ∧
      ∀ (allowReserved : Bool) (text : Text), CodePoint.ofChar '%' ∉ text →
        Utf8.characters (decode (encode allowReserved text)) = text ∧
        ∀ (otherAllows : Bool) (other : Text), CodePoint.ofChar '%' ∉ other →
          encode allowReserved text = encode otherAllows other → text = other := by
  refine ⟨decode_encode, Utf8.encode_injective, fun allowReserved text noPercent => ?_⟩
  refine ⟨characters_decode_encode allowReserved noPercent, ?_⟩
  intro otherAllows other otherNoPercent same
  calc
    text = Utf8.characters (decode (encode allowReserved text)) :=
      (characters_decode_encode allowReserved noPercent).symm
    _ = Utf8.characters (decode (encode otherAllows other)) := by rw [same]
    _ = other := characters_decode_encode otherAllows otherNoPercent

theorem encode_preserves_octets_surrogates :
    let pair : Text := [⟨0xD83D, by decide⟩, ⟨0xDE00, by decide⟩]
    let smile : Text := "😀"
    let mixed : Text := "%4/%41"
    encode false pair = "%ED%A0%BD%ED%B8%80" ∧ encode true smile = "%F0%9F%98%80" ∧
      Utf8.characters (decode (encode false pair)) = pair ∧
      encode false pair ≠ encode true smile ∧
      encode false mixed = "%254%2F%41" ∧ decode (encode false mixed) = decode mixed := by
  intro pair smile mixed
  have noPercent : CodePoint.ofChar '%' ∉ pair := by decide
  have smileNoPercent : CodePoint.ofChar '%' ∉ smile := by decide
  have different : pair ≠ smile := by decide
  obtain ⟨sameOctets, -, recovers⟩ := encode_preserves_octets
  obtain ⟨recovered, injective⟩ := recovers false pair noPercent
  exact ⟨by decide +kernel, by decide +kernel, recovered,
    fun same => different (injective true smile smileNoPercent same), by decide +kernel,
    sameOctets false mixed⟩

end UriTemplate.PercentEncoding
