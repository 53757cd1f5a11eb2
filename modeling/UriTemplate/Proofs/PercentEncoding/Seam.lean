import UriTemplate.Proofs.PercentEncoding.Alphabet

namespace UriTemplate.PercentEncoding

/-- The text is a triplet and nothing more. -/
def isTripletText : Text → Bool
  | [first, second, third] => isTriplet first second third
  | _ => false

/-- A triplet of the whole text starts in the first part and ends in the second. -/
def Straddles (first second : Text) : Prop :=
  ∃ start, start < first.length ∧ first.length < start + 3 ∧
    isTripletText ((first ++ second).slice start (start + 3)) = true

variable {allowReserved : Bool}

/-- A triplet is a percent sign and two hex digits. -/
theorem exists_of_isTripletText {text : Text} (isTripletText : isTripletText (text.take 3) = true) :
    ∃ high low rest, text = CodePoint.ofChar '%' :: high :: low :: rest ∧
      high.isHexDigit = true ∧ low.isHexDigit = true := by
  rcases text with _ | ⟨first, _ | ⟨second, _ | ⟨third, rest⟩⟩⟩
  · cases isTripletText
  · cases isTripletText
  · cases isTripletText
  · obtain ⟨rfl, highIsHex, lowIsHex⟩ := isTriplet_iff.mp isTripletText
    exact ⟨second, third, rest, rfl, highIsHex, lowIsHex⟩

/-- A triplet lies inside the text. -/
theorem le_length_of_isTripletText {text : Text} {start : Nat}
    (isTriplet : isTripletText (text.slice start (start + 3)) = true) :
    start + 3 ≤ text.length := by
  have isThree : (text.slice start (start + 3)).length = 3 := by
    generalize text.slice start (start + 3) = window at isTriplet
    rcases window with _ | ⟨first, _ | ⟨second, _ | ⟨third, _ | ⟨fourth, rest⟩⟩⟩⟩
    · cases isTriplet
    · cases isTriplet
    · cases isTriplet
    · rfl
    · cases isTriplet
  rw [Text.slice, List.length_drop, List.length_take] at isThree
  omega

theorem not_straddles_nil (second : Text) : ¬Straddles [] second := by
  rintro ⟨start, inside, _⟩
  exact Nat.not_lt_zero start inside

/-- A triplet across the seam starts at the first character or behind it. -/
theorem straddles_cons {codePoint : CodePoint} {rest second : Text} :
    Straddles (codePoint :: rest) second ↔
      (rest.length < 2 ∧ isTripletText ((codePoint :: rest ++ second).take 3) = true) ∨
        Straddles rest second := by
  constructor
  · rintro ⟨start, inside, across, isTriplet⟩
    rw [List.length_cons] at inside across
    cases start with
    | zero => exact .inl ⟨by omega, isTriplet⟩
    | succ start => exact .inr ⟨start, by omega, by omega, isTriplet⟩
  · rintro (⟨short, isTriplet⟩ | ⟨start, inside, across, isTriplet⟩)
    · exact ⟨0, by simp, by simp; omega, isTriplet⟩
    · refine ⟨start + 1, ?_, ?_, isTriplet⟩
      · rw [List.length_cons]
        omega
      · rw [List.length_cons]
        omega

/-- A triplet cannot start inside another one, whose digits are no percent signs. -/
theorem straddles_cons_of_ne_percent {codePoint : CodePoint} {rest second : Text}
    (isNoPercent : codePoint ≠ CodePoint.ofChar '%') :
    Straddles (codePoint :: rest) second ↔ Straddles rest second := by
  rw [straddles_cons]
  apply or_iff_right
  rintro ⟨_, isTriplet⟩
  obtain ⟨_, _, _, same, _⟩ := exists_of_isTripletText isTriplet
  exact isNoPercent (List.cons.inj same).1

/-- A character that starts no triplet is encoded by itself. -/
theorem encode_cons_of_no_triplet {first : CodePoint} {rest : Text}
    (isNoTriplet : isTripletText ((first :: rest).take 3) = false) :
    encode allowReserved (first :: rest) =
      encodeOne allowReserved first ++ encode allowReserved rest := by
  rcases rest with _ | ⟨second, _ | ⟨third, rest⟩⟩
  · rfl
  · rfl
  · have notHere : isTriplet first second third = false := isNoTriplet
    rw [encode, notHere]
    rfl

/-- A triplet is kept as it is. -/
theorem encode_triplet {high low : CodePoint} (highIsHex : high.isHexDigit = true)
    (lowIsHex : low.isHexDigit = true) (rest : Text) :
    encode allowReserved (CodePoint.ofChar '%' :: high :: low :: rest) =
      CodePoint.ofChar '%' :: high :: low :: encode allowReserved rest := by
  rw [encode, isTriplet_iff.mpr ⟨rfl, highIsHex, lowIsHex⟩, if_pos rfl]

/-- No hex digit is a percent sign. -/
theorem ne_percent_of_isHexDigit {codePoint : CodePoint}
    (isHexDigit : codePoint.isHexDigit = true) : codePoint ≠ CodePoint.ofChar '%' := by
  rintro rfl
  exact absurd isHexDigit (by decide)

/-- A percent sign by itself becomes a triplet. -/
theorem length_encodeOne_percent (allowReserved : Bool) :
    (encodeOne allowReserved (CodePoint.ofChar '%')).length = 3 := by
  cases allowReserved <;> decide

/-- Cut in two, a triplet is two characters longer: its percent sign is encoded. -/
theorem length_encode_cut (allowReserved : Bool) {high low : CodePoint}
    (highIsHex : high.isHexDigit = true) (lowIsHex : low.isHexDigit = true)
    {rest second others : Text} (short : rest.length < 2)
    (whole : rest ++ second = high :: low :: others) :
    (encode allowReserved (CodePoint.ofChar '%' :: rest) ++ encode allowReserved second).length =
      (encode allowReserved (CodePoint.ofChar '%' :: (rest ++ second))).length + 2 := by
  have highStays := encode_cons_of_isUnreserved allowReserved
    (isUnreserved_of_isHexDigit highIsHex)
  have lowStays := encode_cons_of_isUnreserved allowReserved (isUnreserved_of_isHexDigit lowIsHex)
  have percent := length_encodeOne_percent allowReserved
  rw [whole, encode_triplet highIsHex lowIsHex]
  -- At most one of the two digits stands in front of the cut.
  rcases rest with _ | ⟨digit, _ | ⟨other, rest⟩⟩
  · rw [List.nil_append] at whole
    rw [whole, highStays, lowStays, encode_cons_of_no_triplet rfl, encode, List.append_nil]
    simp only [List.length_append, List.length_cons, percent]
    omega
  · obtain ⟨rfl, rfl⟩ := List.cons.inj whole
    rw [lowStays, encode_cons_of_no_triplet rfl, highStays, encode]
    simp only [List.length_append, List.length_cons, List.length_nil, percent]
    omega
  · rw [List.length_cons, List.length_cons] at short
    omega

/-- A character that starts no triplet in front of the seam may start one across it. -/
theorem encode_cons_append_iff {first : CodePoint} {rest second : Text}
    (notHere : isTripletText ((first :: rest).take 3) = false)
    (others : encode allowReserved (rest ++ second) =
        encode allowReserved rest ++ encode allowReserved second ↔ ¬Straddles rest second) :
    encode allowReserved (first :: rest ++ second) =
        encode allowReserved (first :: rest) ++ encode allowReserved second ↔
      ¬Straddles (first :: rest) second := by
  rw [straddles_cons]
  by_cases crosses : rest.length < 2 ∧ isTripletText ((first :: rest ++ second).take 3) = true
  · obtain ⟨short, isTriplet⟩ := crosses
    obtain ⟨high, low, left, same, highIsHex, lowIsHex⟩ := exists_of_isTripletText isTriplet
    obtain ⟨rfl, whole⟩ := List.cons.inj same
    have longer := length_encode_cut allowReserved highIsHex lowIsHex short whole
    apply iff_of_false
    · intro apart
      rw [← apart, List.cons_append] at longer
      omega
    · exact fun apart => apart (.inl ⟨short, isTriplet⟩)
  · have nowhere : isTripletText ((first :: (rest ++ second)).take 3) = false := by
      rw [Bool.eq_false_iff]
      intro isTriplet
      rcases rest with _ | ⟨high, _ | ⟨low, left⟩⟩
      · exact crosses ⟨Nat.zero_lt_two, isTriplet⟩
      · exact crosses ⟨Nat.one_lt_two, isTriplet⟩
      · exact Bool.false_ne_true (notHere.symm.trans isTriplet)
    rw [or_iff_right crosses, ← others, List.cons_append, encode_cons_of_no_triplet nowhere,
      encode_cons_of_no_triplet notHere, List.append_assoc, List.append_cancel_left_eq]

/-- Two texts can be encoded apart unless a triplet lies across the seam between them. -/
theorem encode_append_iff (first second : Text) :
    encode allowReserved (first ++ second) =
        encode allowReserved first ++ encode allowReserved second ↔
      ¬Straddles first second := by
  induction first using encode.induct with
  | case1 => exact iff_of_true rfl (not_straddles_nil second)
  | case2 percent high low rest isHere inductionHypothesis =>
      obtain ⟨rfl, highIsHex, lowIsHex⟩ := isTriplet_iff.mp isHere
      have sameSeam : Straddles (CodePoint.ofChar '%' :: high :: low :: rest) second ↔
          Straddles rest second := by
        rw [straddles_cons, or_iff_right, straddles_cons_of_ne_percent,
          straddles_cons_of_ne_percent]
        · exact ne_percent_of_isHexDigit lowIsHex
        · exact ne_percent_of_isHexDigit highIsHex
        · rintro ⟨short, _⟩
          rw [List.length_cons, List.length_cons] at short
          omega
      rw [sameSeam, ← inductionHypothesis]
      simp only [List.cons_append, encode_triplet highIsHex lowIsHex, List.cons.injEq, true_and]
  | case3 first second third rest notHere inductionHypothesis =>
      exact encode_cons_append_iff (Bool.eq_false_iff.mpr notHere) inductionHypothesis
  | case4 first rest isShort inductionHypothesis =>
      have notHere : isTripletText ((first :: rest).take 3) = false := by
        rcases rest with _ | ⟨second, _ | ⟨third, rest⟩⟩
        · rfl
        · rfl
        · exact absurd rfl (isShort second third rest)
      exact encode_cons_append_iff notHere inductionHypothesis

/-- A window that ends where it starts shows nothing, nor does one that starts behind the text. -/
theorem slice_eq_nil {text : Text} {start stop : Nat}
    (isEmpty : stop ≤ start ∨ text.length ≤ start) : text.slice start stop = [] := by
  rw [Text.slice, List.drop_eq_nil_iff, List.length_take]
  omega

/-- A slice ends with the text at the latest. -/
theorem slice_of_length_le {text : Text} {stop : Nat} (isWide : text.length ≤ stop)
    (start : Nat) : text.slice start stop = text.slice start text.length := by
  rw [Text.slice, Text.slice, List.take_of_length_le isWide, List.take_length]

/-- A window is encoded like the text that it shows, which ends with the whole text at the latest.
Two texts are encoded one by one like the whole text unless a triplet of it lies across the seam. -/
theorem encode_window_and_seam (allowReserved : Bool) :
    (∀ (text : Text) (start : Nat) (stop : Option Nat),
      encodeRange allowReserved text start stop =
        encode allowReserved (text.slice start (stop.getD text.length))) ∧
    (∀ (text : Text) (start : Nat) (stop : Option Nat),
      stop.getD text.length ≤ start ∨ text.length ≤ start →
      encodeRange allowReserved text start stop = []) ∧
    (∀ (text : Text) (start stop : Nat), text.length ≤ stop →
      encodeRange allowReserved text start (some stop) =
        encodeRange allowReserved text start none) ∧
    ∀ first second : Text,
      encode allowReserved (first ++ second) =
          encode allowReserved first ++ encode allowReserved second ↔
        ¬Straddles first second := by
  refine ⟨encodeRange_eq_encode_slice allowReserved, ?_, ?_, encode_append_iff⟩
  · intro text start stop isEmpty
    rw [encodeRange_eq_encode_slice, slice_eq_nil isEmpty]
    rfl
  · intro text start stop isWide
    rw [encodeRange_eq_encode_slice, encodeRange_eq_encode_slice, Option.getD_some,
      Option.getD_none, slice_of_length_le isWide]

/-- A triplet that is cut by the end of a window loses its meaning. -/
theorem encode_window_and_seam_cut :
    let text : Text := "x%41/"
    encodeRange false text 1 (some 9) = "%41%2F" ∧ encodeRange false text 1 none = "%41%2F" ∧
      encodeRange false text 1 (some 3) = "%254" ∧ encodeRange false text 5 none = [] ∧
      Straddles (text.slice 0 3) (text.slice 3 5) ∧
      encode false text ≠ encode false (text.slice 0 3) ++ encode false (text.slice 3 5) := by
  intro text
  obtain ⟨_, nothing, clipped, apart⟩ := encode_window_and_seam false
  have whole : encodeRange false text 1 none = "%41%2F" := by decide +kernel
  have straddles : Straddles (text.slice 0 3) (text.slice 3 5) := by
    exact ⟨1, by decide, by decide, by decide⟩
  exact ⟨(clipped text 1 9 (by decide)).trans whole, whole, by decide +kernel,
    nothing text 5 none (by decide), straddles, fun same => (apart _ _).mp same straddles⟩

end UriTemplate.PercentEncoding
