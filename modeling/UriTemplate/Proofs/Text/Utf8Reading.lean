import UriTemplate.Text.Utf8

namespace UriTemplate

/-- A code point is the one with its number. -/
theorem CodePoint.ofNat_value (codePoint : CodePoint) : ofNat? codePoint.value = some codePoint :=
  dif_pos codePoint.inRange

namespace Utf8

/-- What is left to read behind a first octet. -/
def Lead.progress (lead : Lead) : Progress :=
  .inside lead.following lead.share lead.lowest lead.highest

section Steps

variable {octet : Octet} {following share lowest highest : Nat} (rest : List Octet)

/-- The first octet of several tells how to go on. -/
theorem decodeFrom_lead {lead : Lead} (isLead : lead? octet = some lead)
    (isLonger : lead.following ≠ 0) :
    decodeFrom .between (octet :: rest) = decodeFrom lead.progress rest := by
  have read : step .between octet = ([], lead.progress) := by
    rw [step, start, isLead]
    exact if_neg isLonger
  rw [decodeFrom, read, List.nil_append]

/-- An octet in range adds its six bits. -/
theorem decodeFrom_next (inRange : lowest ≤ octet.val ∧ octet.val ≤ highest) :
    decodeFrom (.inside (following + 2) share lowest highest) (octet :: rest) =
      decodeFrom (.inside (following + 1) (share * 64 + octet.val % 64) 0x80 0xBF) rest := by
  have read : step (.inside (following + 2) share lowest highest) octet =
      ([], .inside (following + 1) (share * 64 + octet.val % 64) 0x80 0xBF) := by
    rw [step, if_pos inRange]
    exact if_neg (by omega)
  rw [decodeFrom, read, List.nil_append]

/-- The last octet in range completes the code point. -/
theorem decodeFrom_last (inRange : lowest ≤ octet.val ∧ octet.val ≤ highest)
    {codePoint : CodePoint} (isValue : share * 64 + octet.val % 64 = codePoint.value) :
    decodeFrom (.inside 1 share lowest highest) (octet :: rest) =
      codePoint :: decodeFrom .between rest := by
  have read : step (.inside 1 share lowest highest) octet = ([codePoint], .between) := by
    rw [step, if_pos inRange, isValue]
    dsimp only
    rw [if_pos (Nat.le_refl 1), codePoint.ofNat_value]
    rfl
  rw [decodeFrom, read]
  rfl

end Steps

/-! The first octet of a character promises what follows it. -/

section Leads

variable {value : Nat}

/-- A first octet below 0x80 stands alone. -/
theorem lead_of_one (inRange : value < 0x80) (isOctet : value < 256) :
    lead? ⟨value, isOctet⟩ = some ⟨0, value, 0x80, 0xBF⟩ :=
  if_pos inRange

theorem lead_of_two (isLarge : 0x80 ≤ value) (inRange : value < 0x800)
    (isOctet : 0xC0 + value / 64 < 256) :
    lead? ⟨0xC0 + value / 64, isOctet⟩ = some ⟨1, value / 64, 0x80, 0xBF⟩ := by
  unfold lead?
  dsimp only
  rw [if_neg (by omega), if_neg (by omega), if_pos (by omega), Nat.add_sub_cancel_left]

/-- The range of the second octet leaves out short values and surrogates. -/
theorem exists_lead_of_three (isLarge : 0x800 ≤ value) (inRange : value < 0x10000)
    (noSurrogate : value < 0xD800 ∨ 0xDFFF < value) (isOctet : 0xE0 + value / 4096 < 256) :
    ∃ lowest highest,
      lead? ⟨0xE0 + value / 4096, isOctet⟩ = some ⟨2, value / 4096, lowest, highest⟩ ∧
        lowest ≤ 0x80 + value / 64 % 64 ∧ 0x80 + value / 64 % 64 ≤ highest := by
  unfold lead?
  dsimp only
  rw [if_neg (by omega), if_neg (by omega), if_neg (by omega)]
  by_cases isFirst : 0xE0 + value / 4096 = 0xE0
  · have share : value / 4096 = 0 := by omega
    rw [if_pos isFirst, share]
    exact ⟨_, _, rfl, by omega, by omega⟩
  rw [if_neg isFirst]
  by_cases besideSurrogates : 0xE0 + value / 4096 = 0xED
  · have share : value / 4096 = 0xD := by omega
    rw [if_pos besideSurrogates, share]
    exact ⟨_, _, rfl, by omega, by omega⟩
  rw [if_neg besideSurrogates, if_pos (by omega), Nat.add_sub_cancel_left]
  exact ⟨_, _, rfl, by omega, by omega⟩

/-- The range of the second octet leaves out short values and those that are too large. -/
theorem exists_lead_of_four (isLarge : 0x10000 ≤ value) (inRange : value < 0x110000)
    (isOctet : 0xF0 + value / 262144 < 256) :
    ∃ lowest highest,
      lead? ⟨0xF0 + value / 262144, isOctet⟩ = some ⟨3, value / 262144, lowest, highest⟩ ∧
        lowest ≤ 0x80 + value / 4096 % 64 ∧ 0x80 + value / 4096 % 64 ≤ highest := by
  unfold lead?
  dsimp only
  rw [if_neg (by omega), if_neg (by omega), if_neg (by omega), if_neg (by omega),
    if_neg (by omega), if_neg (by omega)]
  by_cases isFirst : 0xF0 + value / 262144 = 0xF0
  · have share : value / 262144 = 0 := by omega
    rw [if_pos isFirst, share]
    exact ⟨_, _, rfl, by omega, by omega⟩
  rw [if_neg isFirst]
  by_cases isInner : 0xF0 + value / 262144 < 0xF4
  · rw [if_pos isInner, Nat.add_sub_cancel_left]
    exact ⟨_, _, rfl, by omega, by omega⟩
  · have share : value / 262144 = 4 := by omega
    rw [if_neg isInner, if_pos (by omega), share]
    exact ⟨_, _, rfl, by omega, by omega⟩

end Leads

/-- The octets of a character are read as that character, whatever stands behind them. -/
theorem decodeFrom_octets_append {codePoint : CodePoint}
    (noSurrogate : codePoint.isSurrogate = false) (rest : List Octet) :
    decodeFrom .between (octets codePoint ++ rest) = codePoint :: decodeFrom .between rest := by
  have inRange := codePoint.inRange
  simp only [CodePoint.isSurrogate, Bool.and_eq_false_iff, decide_eq_false_iff_not, Nat.not_le]
    at noSurrogate
  unfold octets
  dsimp only
  split
  case isTrue oneOctet =>
      have read : start ⟨codePoint.value, by omega⟩ = ([codePoint], .between) := by
        rw [start, lead_of_one oneOctet]
        dsimp only
        rw [if_pos rfl, codePoint.ofNat_value]
        rfl
      rw [List.singleton_append, decodeFrom, step, read]
      rfl
  split
  case isTrue tooLarge twoOctets =>
      simp only [List.cons_append, List.nil_append]
      rw [decodeFrom_lead _ (lead_of_two (by omega) twoOctets _) (Nat.succ_ne_zero _)]
      exact decodeFrom_last _ (by dsimp only; omega) (by dsimp only; omega)
  split
  case isTrue threeOctets =>
      obtain ⟨lowest, highest, isLead, fits⟩ :=
        exists_lead_of_three (by omega) threeOctets noSurrogate (by omega)
      simp only [List.cons_append, List.nil_append]
      rw [decodeFrom_lead _ isLead (Nat.succ_ne_zero _), Lead.progress, decodeFrom_next _ fits]
      exact decodeFrom_last _ (by dsimp only; omega) (by dsimp only; omega)
  case isFalse =>
      obtain ⟨lowest, highest, isLead, fits⟩ :=
        exists_lead_of_four (by omega) inRange (by omega)
      simp only [List.cons_append, List.nil_append]
      rw [decodeFrom_lead _ isLead (Nat.succ_ne_zero _), Lead.progress, decodeFrom_next _ fits,
        decodeFrom_next _ (by dsimp only; omega)]
      exact decodeFrom_last _ (by dsimp only; omega) (by dsimp only; omega)

/-- Decoding undoes encoding where no surrogate was written. -/
theorem decode_encode {text : Text}
    (noSurrogate : ∀ codePoint ∈ text, codePoint.isSurrogate = false) :
    decode (encode text) = text := by
  induction text with
  | nil => rfl
  | cons first rest inductionHypothesis =>
      have ⟨here, others⟩ := List.forall_mem_cons.mp noSurrogate
      rw [encode, List.flatMap_cons, decode, decodeFrom_octets_append here]
      exact congrArg (first :: ·) (inductionHypothesis others)

end Utf8

end UriTemplate
