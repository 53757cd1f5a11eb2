import UriTemplate.Proofs.PercentEncoding.Window

namespace UriTemplate.PercentEncoding

/-- The text consists of characters that pass a test and of complete triplets. -/
inductive IsMadeOf (test : CodePoint → Bool) : Text → Prop
  | empty : IsMadeOf test []
  | character {first : CodePoint} {rest : Text} (passes : test first = true)
      (others : IsMadeOf test rest) : IsMadeOf test (first :: rest)
  | triplet {high low : CodePoint} {rest : Text} (highIsHex : high.isHexDigit = true)
      (lowIsHex : low.isHexDigit = true) (others : IsMadeOf test rest) :
      IsMadeOf test (CodePoint.ofChar '%' :: high :: low :: rest)

/-- The characters that triplets are written with. -/
def isTripletCharacter (codePoint : CodePoint) : Bool :=
  codePoint = '%' || codePoint.isHexDigit

/-- Hex digits belong to triplets. -/
theorem isTripletCharacter_of_isHexDigit {codePoint : CodePoint}
    (isHexDigit : codePoint.isHexDigit = true) : isTripletCharacter codePoint = true := by
  simp [isTripletCharacter, isHexDigit]

/-- Hex digits are unreserved. -/
theorem isUnreserved_of_isHexDigit {codePoint : CodePoint}
    (isHexDigit : codePoint.isHexDigit = true) : codePoint.isUnreserved = true := by
  have isLetterOrDigit : (codePoint.isLetter || codePoint.isDigit) = true := by
    have letters : 'F'.toNat ≤ 'Z'.toNat ∧ 'f'.toNat ≤ 'z'.toNat := by decide
    simp only [CodePoint.isHexDigit, CodePoint.isLetter, CodePoint.isDigit, CodePoint.isBetween,
      Bool.or_eq_true, Bool.and_eq_true, decide_eq_true_eq] at isHexDigit ⊢
    omega
  rw [CodePoint.isUnreserved, isLetterOrDigit, Bool.true_or]

namespace IsMadeOf

variable {test : CodePoint → Bool} {text : Text}

theorem of_forall (passes : ∀ codePoint ∈ text, test codePoint = true) : IsMadeOf test text := by
  induction text with
  | nil => exact .empty
  | cons first rest inductionHypothesis =>
      have ⟨here, others⟩ := List.forall_mem_cons.mp passes
      exact .character here (inductionHypothesis others)

theorem append {other : Text} (isMadeOf : IsMadeOf test text)
    (otherIsMadeOf : IsMadeOf test other) : IsMadeOf test (text ++ other) := by
  induction isMadeOf with
  | empty => exact otherIsMadeOf
  | character passes _ inductionHypothesis => exact .character passes inductionHypothesis
  | triplet highIsHex lowIsHex _ inductionHypothesis =>
      exact .triplet highIsHex lowIsHex inductionHypothesis

/-- Joining keeps what separator and pieces are made of. -/
theorem join {separator : Text} {pieces : List Text} (separatorIsMadeOf : IsMadeOf test separator)
    (piecesAreMadeOf : ∀ piece ∈ pieces, IsMadeOf test piece) :
    IsMadeOf test (Text.join separator pieces) := by
  induction pieces with
  | nil => exact .empty
  | cons first rest inductionHypothesis =>
      have ⟨here, others⟩ := List.forall_mem_cons.mp piecesAreMadeOf
      by_cases isLast : rest = []
      · subst isLast
        simpa [Text.join] using here
      · rw [Text.join_cons _ _ isLast]
        exact (here.append separatorIsMadeOf).append (inductionHypothesis others)

/-- Only the characters of the text itself need to pass the second test. -/
theorem imp {weaker : CodePoint → Bool} (isMadeOf : IsMadeOf test text)
    (passes : ∀ codePoint ∈ text, test codePoint = true → weaker codePoint = true) :
    IsMadeOf weaker text := by
  induction isMadeOf with
  | empty => exact .empty
  | character here _ inductionHypothesis =>
      have ⟨first, others⟩ := List.forall_mem_cons.mp passes
      exact .character (first here) (inductionHypothesis others)
  | triplet highIsHex lowIsHex _ inductionHypothesis =>
      refine .triplet highIsHex lowIsHex (inductionHypothesis ?_)
      intro codePoint member
      exact passes codePoint (by simp [member])

/-- A character that fails the test belongs to a triplet. -/
theorem of_mem {codePoint : CodePoint} (isMadeOf : IsMadeOf test text) (member : codePoint ∈ text) :
    test codePoint = true ∨ isTripletCharacter codePoint = true := by
  induction isMadeOf with
  | empty => exact absurd member List.not_mem_nil
  | character passes _ inductionHypothesis =>
      rcases List.mem_cons.mp member with rfl | later
      · exact .inl passes
      · exact inductionHypothesis later
  | triplet highIsHex lowIsHex _ inductionHypothesis =>
      simp only [List.mem_cons] at member
      rcases member with rfl | rfl | rfl | later
      · exact .inr (by decide)
      · exact .inr (isTripletCharacter_of_isHexDigit highIsHex)
      · exact .inr (isTripletCharacter_of_isHexDigit lowIsHex)
      · exact inductionHypothesis later

/-- A character that fails and is in no triplet is not in the text. -/
theorem not_mem {codePoint : CodePoint} (isMadeOf : IsMadeOf test text)
    (fails : test codePoint = false) (isOutside : isTripletCharacter codePoint = false) :
    codePoint ∉ text := by
  intro member
  rcases isMadeOf.of_mem member with passes | isInside
  · exact absurd passes (by simp [fails])
  · exact absurd isInside (by simp [isOutside])

/-- A mark that is no part of a triplet splits the text between triplets. -/
theorem of_append_cons {before behind : Text} {mark : CodePoint}
    (isOutside : isTripletCharacter mark = false)
    (isMadeOf : IsMadeOf test (before ++ mark :: behind)) :
    IsMadeOf test before ∧ test mark = true ∧ IsMadeOf test behind := by
  have isNoHexDigit : ¬ mark.isHexDigit = true := fun isHexDigit =>
    absurd (isTripletCharacter_of_isHexDigit isHexDigit) (by simp [isOutside])
  generalize written : before ++ mark :: behind = whole at isMadeOf
  induction isMadeOf generalizing before with
  | empty => simp at written
  | character passes others inductionHypothesis =>
      rcases before with _ | ⟨first, before⟩
      · obtain ⟨rfl, rfl⟩ := List.cons.inj written
        exact ⟨.empty, passes, others⟩
      · simp only [List.cons_append, List.cons.injEq] at written
        obtain ⟨rfl, written⟩ := written
        obtain ⟨beforeIsMadeOf, split⟩ := inductionHypothesis written
        exact ⟨.character passes beforeIsMadeOf, split⟩
  | triplet highIsHex lowIsHex _ inductionHypothesis =>
      -- The mark is none of the three characters, so all of them stand in front of it.
      rcases before with _ | ⟨first, _ | ⟨second, _ | ⟨third, before⟩⟩⟩
      · obtain ⟨rfl, -⟩ := List.cons.inj written
        exact absurd isOutside (by decide)
      · simp only [List.cons_append, List.nil_append, List.cons.injEq] at written
        exact absurd (written.2.1 ▸ highIsHex) isNoHexDigit
      · simp only [List.cons_append, List.nil_append, List.cons.injEq] at written
        exact absurd (written.2.2.1 ▸ lowIsHex) isNoHexDigit
      · simp only [List.cons_append, List.cons.injEq] at written
        obtain ⟨rfl, rfl, rfl, written⟩ := written
        obtain ⟨beforeIsMadeOf, split⟩ := inductionHypothesis written
        exact ⟨.triplet highIsHex lowIsHex beforeIsMadeOf, split⟩

/-- A text can be cut where no triplet goes on. -/
theorem of_append {before behind : Text} (isMadeOf : IsMadeOf test (before ++ behind))
    (isOutside : ∀ first ∈ behind.head?, isTripletCharacter first = false) :
    IsMadeOf test before ∧ IsMadeOf test behind := by
  cases behind with
  | nil => exact ⟨by simpa using isMadeOf, .empty⟩
  | cons first rest =>
      obtain ⟨beforeIsMadeOf, passes, others⟩ := isMadeOf.of_append_cons (isOutside first rfl)
      exact ⟨beforeIsMadeOf, .character passes others⟩

/-- A percent sign that fails the test stands first in a triplet, wherever it stands. -/
theorem hex_behind_percent {before behind : Text}
    (isNoCharacter : test (CodePoint.ofChar '%') = false)
    (isMadeOf : IsMadeOf test (before ++ CodePoint.ofChar '%' :: behind)) :
    ∃ high low rest, behind = high :: low :: rest ∧ high.isHexDigit = true ∧
      low.isHexDigit = true := by
  have percentIsNoHex : (CodePoint.ofChar '%').isHexDigit = false := by decide
  generalize written : before ++ CodePoint.ofChar '%' :: behind = whole at isMadeOf
  induction isMadeOf generalizing before with
  | empty => simp at written
  | character passes _ inductionHypothesis =>
      rcases before with _ | ⟨first, before⟩
      · obtain ⟨rfl, -⟩ := List.cons.inj written
        exact absurd passes (by simp [isNoCharacter])
      · exact inductionHypothesis (List.cons.inj written).2
  | @triplet high low rest highIsHex lowIsHex _ inductionHypothesis =>
      rcases before with _ | ⟨first, _ | ⟨second, _ | ⟨third, before⟩⟩⟩
      · obtain ⟨-, rfl⟩ := List.cons.inj written
        exact ⟨high, low, rest, rfl, highIsHex, lowIsHex⟩
      · simp only [List.cons_append, List.nil_append, List.cons.injEq] at written
        rw [← written.2.1] at highIsHex
        exact absurd highIsHex (by simp [percentIsNoHex])
      · simp only [List.cons_append, List.nil_append, List.cons.injEq] at written
        rw [← written.2.2.1] at lowIsHex
        exact absurd lowIsHex (by simp [percentIsNoHex])
      · simp only [List.cons_append, List.cons.injEq] at written
        exact inductionHypothesis written.2.2.2

end IsMadeOf

/-! Encoding writes such texts. -/

/-- Triplets pass with every test. -/
theorem isMadeOf_triplets {test : CodePoint → Bool} (octets : List Octet) :
    IsMadeOf test (triplets octets) := by
  induction octets with
  | nil => exact .empty
  | cons octet rest inductionHypothesis =>
      exact .triplet (isHexDigit_hexDigit _) (isHexDigit_hexDigit _) inductionHypothesis

section Encode

variable {test : CodePoint → Bool} {allowReserved : Bool} {text : Text}

/-- What is kept with the reserved characters encoded is always kept. -/
theorem isKept_of_isKept_false {codePoint : CodePoint} (kept : isKept false codePoint = true) :
    isKept allowReserved codePoint = true := by
  have isUnreserved : codePoint.isUnreserved = true := by simpa [isKept_eq] using kept
  simp [isKept_eq, isUnreserved]

/-- An encoded character is itself, if it is kept, or triplets. -/
theorem isMadeOf_encodeOne {codePoint : CodePoint}
    (passes : isKept allowReserved codePoint = true → test codePoint = true) :
    IsMadeOf test (encodeOne allowReserved codePoint) := by
  unfold encodeOne
  split
  case isTrue kept => exact .character (passes kept) .empty
  case isFalse => exact isMadeOf_triplets _

/-- An encoded text is made of the kept characters and of triplets. -/
theorem isMadeOf_encode
    (passes : ∀ codePoint ∈ text, isKept allowReserved codePoint = true → test codePoint = true) :
    IsMadeOf test (encode allowReserved text) := by
  fun_induction encode allowReserved text with
  | case1 => exact .empty
  | case2 first second third rest isTriplet inductionHypothesis =>
      obtain ⟨rfl, highIsHex, lowIsHex⟩ := isTriplet_iff.mp isTriplet
      exact .triplet highIsHex lowIsHex
        (inductionHypothesis fun codePoint member => passes codePoint (by simp [member]))
  | case3 first second third rest isNoTriplet inductionHypothesis =>
      have ⟨here, others⟩ := List.forall_mem_cons.mp passes
      exact (isMadeOf_encodeOne here).append (inductionHypothesis others)
  | case4 first rest short inductionHypothesis =>
      have ⟨here, others⟩ := List.forall_mem_cons.mp passes
      exact (isMadeOf_encodeOne here).append (inductionHypothesis others)

/-- A text of kept characters and triplets is encoded as itself. -/
theorem encode_of_isMadeOf (isMadeOf : IsMadeOf (isKept allowReserved) text) :
    encode allowReserved text = text := by
  induction isMadeOf with
  | empty => rfl
  | character kept _ inductionHypothesis =>
      rw [encode_cons_of_isKept _ kept, inductionHypothesis]
  | triplet highIsHex lowIsHex _ inductionHypothesis =>
      simp [encode, isTriplet_iff, highIsHex, lowIsHex, inductionHypothesis]

/-- Reserved characters are neither unreserved nor part of a triplet. -/
theorem not_mem_encode_of_isReserved {codePoint : CodePoint}
    (isReserved : codePoint.isReserved = true) (text : Text) :
    codePoint ∉ encode false text := by
  have delimiters : ∀ delimiter ∈ Text.ofString ":/?#[]@!$&'()*+,;=",
      isKept false delimiter = false ∧ isTripletCharacter delimiter = false := by decide
  obtain ⟨isNotKept, isOutside⟩ := delimiters codePoint (List.contains_iff_mem.mp isReserved)
  have isMadeOf : IsMadeOf (isKept false) (encode false text) := isMadeOf_encode fun _ _ => id
  exact isMadeOf.not_mem isNotKept isOutside

end Encode

end UriTemplate.PercentEncoding
