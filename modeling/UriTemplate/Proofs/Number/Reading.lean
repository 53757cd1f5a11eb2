import UriTemplate.Proofs.Number.Shortest
import UriTemplate.Proofs.Text.Splitting

namespace UriTemplate

namespace Text

/-- The text starts with a digit or a minus, as no word does. -/
def startsAsNumber (text : Text) : Bool :=
  text.head?.any fun (first : CodePoint) => first = '-' || first.isDigit

/-- Making letters small changes no sign and no digit. -/
theorem startsAsNumber_lowerAscii {text : Text} (starts : text.startsAsNumber = true) :
    text.lowerAscii.startsAsNumber = true := by
  cases text with
  | nil => exact starts
  | cons first rest =>
      have notCapital : first.isBetween 'A' 'Z' = false := by
        simp only [startsAsNumber, List.head?_cons, Option.any_some, Bool.or_eq_true,
          decide_eq_true_eq] at starts
        rcases starts with rfl | isDigit
        · decide
        · have ⟨_, highest⟩ := CodePoint.isDigit_iff.mp isDigit
          have capital : 'A'.toNat = 65 := rfl
          simp [CodePoint.isBetween]
          omega
      simpa [startsAsNumber, lowerAscii, notCapital] using starts

theorem startsAsNumber_ofNat (number : Nat) : (Numeral.ofNat number).startsAsNumber = true := by
  obtain ⟨first, rest, isCons⟩ := List.exists_cons_of_ne_nil (Numeral.ofNat_ne_nil number)
  have isFirst : first ∈ Numeral.ofNat number := isCons ▸ List.mem_cons_self
  have isDigit := Numeral.isDigit_of_mem_ofNat isFirst
  simp [startsAsNumber, isCons, isDigit]

/-- A whole number starts with its sign or with a digit. -/
theorem startsAsNumber_ofInt (number : Int) : (Numeral.ofInt number).startsAsNumber = true := by
  cases number with
  | ofNat number => exact startsAsNumber_ofNat number
  | negSucc => rfl

end Text

namespace Decimal

/-- Zeros are digits. -/
theorem isDigit_of_mem_zeros {count : Nat} {digit : CodePoint} (member : digit ∈ zeros count) :
    digit.isDigit = true := by
  rw [List.eq_of_mem_replicate member]
  decide

/-- Zeros are worth nothing. -/
theorem value_zeros (count : Nat) : Numeral.value (zeros count) = 0 := by
  induction count with
  | zero => rfl
  | succ count inductionHypothesis =>
      have grown : zeros (count + 1) = zeros count ++ [CodePoint.ofChar '0'] :=
        List.replicate_succ'
      rw [grown, Numeral.value_concat, inductionHypothesis]
      rfl

end Decimal

/-- A number as it is written: digits, a fraction behind a point, a power of ten behind an `e`. -/
structure NumberParts where
  whole : Text
  fraction : Option Text
  exponent : Option Int
  wholeDigits : Reading.isDigits whole = true
  fractionDigits : ∀ digits ∈ fraction, ∀ digit ∈ digits, digit.isDigit = true

namespace NumberParts

/-- A power of ten has a sign and at least two digits. -/
def exponentText (power : Int) : Text :=
  let sign : Text := if power < 0 then "-" else "+"
  let width : Text := if power.natAbs < 10 then "0" else ""
  "e" ++ sign ++ width ++ Numeral.ofNat power.natAbs

def text (parts : NumberParts) : Text :=
  parts.whole ++ parts.fraction.elim [] (CodePoint.ofChar '.' :: ·) ++
    parts.exponent.elim [] exponentText

def digits (parts : NumberParts) : Text :=
  parts.whole ++ parts.fraction.getD []

/-- The digits behind the point are tenths, hundredths and so on. -/
def power (parts : NumberParts) : Int :=
  parts.exponent.getD 0 - (parts.fraction.getD []).length

end NumberParts

namespace Reading

theorem isDigits_ofNat (number : Nat) : isDigits (Numeral.ofNat number) = true :=
  isDigits_iff.mpr ⟨Numeral.ofNat_ne_nil number, fun _ => Numeral.isDigit_of_mem_ofNat⟩

/-- Digits behind digits are digits. -/
theorem isDigits_append {before behind : Text} (beforeDigits : isDigits before = true)
    (behindDigits : ∀ digit ∈ behind, digit.isDigit = true) :
    isDigits (before ++ behind) = true := by
  have ⟨nonempty, allDigits⟩ := isDigits_iff.mp beforeDigits
  refine isDigits_iff.mpr ⟨by simp [nonempty], fun digit member => ?_⟩
  exact (List.mem_append.mp member).elim (allDigits digit) (behindDigits digit)

/-- Digits behind a mark and a sign are a power of ten. -/
theorem exponent?_signed {digits : Text} (areDigits : isDigits digits = true)
    (isNegative : Bool) :
    exponent? (CodePoint.ofChar 'e' ::
      CodePoint.ofChar (if isNegative then '-' else '+') :: digits) =
        some (if isNegative then -Numeral.value digits else Numeral.value digits : Int) := by
  have split : splitSign (CodePoint.ofChar (if isNegative then '-' else '+') :: digits) =
      (isNegative, digits) := by
    cases isNegative <;> rfl
  simp [exponent?, split, areDigits]

/-- The exponent is read back with its sign. -/
theorem exponent?_exponentText (power : Int) :
    exponent? (NumberParts.exponentText power) = some power := by
  have ⟨padded, isPadded⟩ : ∃ padded,
      (if power.natAbs < 10 then Text.ofString "0" else Text.ofString "") ++
        Numeral.ofNat power.natAbs = padded := ⟨_, rfl⟩
  have isValue : Numeral.value padded = power.natAbs := by
    rw [← isPadded, Numeral.value_append, Numeral.value_ofNat]
    have zero : Numeral.value (Text.ofString "0") = 0 := by decide
    have nothing : Numeral.value (Text.ofString "") = 0 := rfl
    split <;> simp [zero, nothing]
  have areDigits : isDigits padded = true := by
    have numeral := isDigits_ofNat power.natAbs
    rw [← isPadded]
    split
    · exact isDigits_append (by decide) (isDigits_iff.mp numeral).2
    · exact numeral
  have read := exponent?_signed areDigits (decide (power < 0))
  rw [NumberParts.exponentText, List.append_assoc, isPadded]
  by_cases negative : power < 0
  · simp only [negative, decide_true, if_true, isValue] at read ⊢
    refine read.trans (congrArg some ?_)
    omega
  · simp only [negative, decide_false, Bool.false_eq_true, if_false, isValue] at read ⊢
    refine read.trans (congrArg some ?_)
    omega

end Reading

namespace NumberParts

open Reading

variable (parts : NumberParts)

/-- A number without an exponent is read with the exponent zero. -/
theorem exponent?_text : exponent? (parts.exponent.elim [] exponentText) =
    some (parts.exponent.getD 0) := by
  cases parts.exponent with
  | none => rfl
  | some power => exact exponent?_exponentText power

/-- An exponent starts with its mark. -/
theorem head?_exponent {first : CodePoint}
    (isFirst : first ∈ (parts.exponent.elim [] exponentText).head?) : first = 'e' := by
  cases isPower : parts.exponent with
  | none =>
      rw [isPower] at isFirst
      cases isFirst
  | some power =>
      rw [isPower] at isFirst
      exact (Option.some.inj isFirst).symm

/-- The digits are read as one number, and the places behind the point go into its power. -/
theorem unsigned?_text (isNegative : Bool) : unsigned? isNegative parts.text =
    some (Binary64.ofDecimal isNegative (Numeral.value parts.digits) parts.power) := by
  have ⟨nonempty, allDigits⟩ := isDigits_iff.mp parts.wholeDigits
  have read := parts.exponent?_text
  have endsWhole (first : CodePoint)
      (isFirst : first ∈ (parts.exponent.elim [] exponentText).head?) : first.isDigit = false := by
    rw [parts.head?_exponent isFirst]
    decide
  rw [text, digits, power]
  cases isFraction : parts.fraction with
  | none =>
      have ⟨taken, dropped⟩ := Text.takeWhile_dropWhile_append allDigits endsWhole
      have noPoint : (parts.exponent.elim [] exponentText).head? ≠
          some (CodePoint.ofChar '.') := by
        intro isPoint
        exact absurd (parts.head?_exponent isPoint) (by decide)
      simp [unsigned?, taken, dropped, noPoint, read, nonempty]
  | some fraction =>
      have endsAtPoint (first : CodePoint) (isFirst : first ∈ (CodePoint.ofChar '.' ::
          (fraction ++ parts.exponent.elim [] exponentText)).head?) : first.isDigit = false := by
        cases isFirst
        decide
      have ⟨taken, dropped⟩ := Text.takeWhile_dropWhile_append allDigits endsAtPoint
      have ⟨fractionTaken, _⟩ :=
        Text.takeWhile_dropWhile_append (parts.fractionDigits fraction isFraction) endsWhole
      simp [unsigned?, taken, dropped, fractionTaken, read, nonempty]

/-- A written number starts with a digit. -/
theorem exists_text_eq_cons : ∃ first rest, parts.text = first :: rest ∧
    first.isDigit = true := by
  have ⟨nonempty, allDigits⟩ := isDigits_iff.mp parts.wholeDigits
  obtain ⟨first, rest, isCons⟩ := List.exists_cons_of_ne_nil nonempty
  rw [text, isCons]
  exact ⟨first, _, rfl, allDigits first (by simp [isCons])⟩

/-- A written number holds digits, a point, the mark of an exponent and its sign. -/
theorem mem_text_cases {codePoint : CodePoint} (member : codePoint ∈ parts.text) :
    codePoint.isDigit = true ∨ codePoint = '.' ∧ parts.fraction.isSome = true ∨
      codePoint = 'e' ∨ codePoint = '-' ∨ codePoint = '+' := by
  have ⟨_, allDigits⟩ := isDigits_iff.mp parts.wholeDigits
  rw [text, List.mem_append, List.mem_append] at member
  rcases member with (inWhole | inFraction) | inExponent
  · exact Or.inl (allDigits codePoint inWhole)
  · cases isFraction : parts.fraction with
    | none => simp [isFraction] at inFraction
    | some fraction =>
        rw [isFraction] at inFraction
        rcases List.mem_cons.mp inFraction with isPoint | inDigits
        · exact Or.inr (Or.inl ⟨isPoint, rfl⟩)
        · exact Or.inl (parts.fractionDigits fraction isFraction codePoint inDigits)
  · cases isPower : parts.exponent with
    | none => simp [isPower] at inExponent
    | some power =>
        have ⟨_, numeralDigits⟩ := isDigits_iff.mp (isDigits_ofNat power.natAbs)
        rw [isPower] at inExponent
        change codePoint ∈ exponentText power at inExponent
        rw [exponentText, List.mem_append, List.mem_append, List.mem_append] at inExponent
        rcases inExponent with ((isMark | isSign) | isPadding) | inNumeral
        · exact Or.inr (Or.inr (Or.inl (List.mem_singleton.mp isMark)))
        · split at isSign
          · exact Or.inr (Or.inr (Or.inr (Or.inl (List.mem_singleton.mp isSign))))
          · exact Or.inr (Or.inr (Or.inr (Or.inr (List.mem_singleton.mp isSign))))
        · split at isPadding
          · rw [List.mem_singleton.mp isPadding]
            exact Or.inl (by decide)
          · cases isPadding
        · exact Or.inl (numeralDigits codePoint inNumeral)

/-- No character of a written number is changed before it is read. -/
theorem isVerbatim_of_mem {codePoint : CodePoint} (member : codePoint ∈ parts.text) :
    IsVerbatim codePoint := by
  rcases parts.mem_text_cases member with isDigit | ⟨rfl, _⟩ | rfl | rfl | rfl
  · exact isVerbatim_of_isDigit isDigit
  all_goals decide

/-- There is a point just if there is a fraction. -/
theorem point_mem_iff : CodePoint.ofChar '.' ∈ parts.text ↔ parts.fraction.isSome = true := by
  constructor
  · intro member
    rcases parts.mem_text_cases member with isDigit | ⟨_, isSome⟩ | isMark | isMinus | isPlus
    · exact absurd isDigit (by decide)
    · exact isSome
    · exact absurd isMark (by decide)
    · exact absurd isMinus (by decide)
    · exact absurd isPlus (by decide)
  · intro isSome
    obtain ⟨fraction, isFraction⟩ := Option.isSome_iff_exists.mp isSome
    simp [text, isFraction]

/-- The text with a minus in front of it, if the number is negative. -/
def signed (isNegative : Bool) : Text :=
  Text.ofString (if isNegative then "-" else "") ++ parts.text

/-- The sign is split off again. -/
theorem splitSign_signed (isNegative : Bool) :
    splitSign (parts.signed isNegative) = (isNegative, parts.text) := by
  cases isNegative with
  | true => rfl
  | false =>
      obtain ⟨first, rest, isCons, isDigit⟩ := parts.exists_text_eq_cons
      rw [signed, isCons]
      exact splitSign_of_isDigit isDigit rest

/-- No character of a written number with its sign is changed before it is read. -/
theorem isVerbatim_of_mem_signed (isNegative : Bool) {codePoint : CodePoint}
    (member : codePoint ∈ parts.signed isNegative) : IsVerbatim codePoint := by
  cases isNegative with
  | true =>
      rcases List.mem_cons.mp member with rfl | inText
      · decide
      · exact parts.isVerbatim_of_mem inText
  | false => exact parts.isVerbatim_of_mem member

/-- A written number starts with its sign or with a digit. -/
theorem startsAsNumber_signed (isNegative : Bool) :
    (parts.signed isNegative).startsAsNumber = true := by
  cases isNegative with
  | true => rfl
  | false =>
      obtain ⟨first, rest, isCons, isDigit⟩ := parts.exists_text_eq_cons
      have unsigned : parts.signed false = first :: rest := isCons
      simp [unsigned, Text.startsAsNumber, isDigit]

/-- A text that starts otherwise is not what the number is written as, in letters of any case. -/
theorem lowerAscii_text_ne {word : Text} (starts : word.startsAsNumber = false) :
    parts.text.lowerAscii ≠ word := by
  rintro rfl
  have startsAsNumber := Text.startsAsNumber_lowerAscii (parts.startsAsNumber_signed false)
  exact Bool.false_ne_true (starts.symm.trans startsAsNumber)

/-- A written number is read as the nearest binary64 number to what its parts denote. -/
theorem binary64?_signed (isNegative : Bool) : binary64? (parts.signed isNegative) =
    some (Binary64.ofDecimal isNegative (Numeral.value parts.digits) parts.power) := by
  have isNormalized := normalized_of_isVerbatim fun _ =>
    parts.isVerbatim_of_mem_signed isNegative
  have isUngrouped := ungroup?_of_isVerbatim (fun _ => parts.isVerbatim_of_mem) false
  have notInf : Text.lowerAscii parts.text ≠ Text.ofString "inf" :=
    parts.lowerAscii_text_ne (by decide)
  have notInfinity : Text.lowerAscii parts.text ≠ Text.ofString "infinity" :=
    parts.lowerAscii_text_ne (by decide)
  have notNan : Text.lowerAscii parts.text ≠ Text.ofString "nan" :=
    parts.lowerAscii_text_ne (by decide)
  simp [binary64?, isNormalized, splitSign_signed, notInf, notInfinity, notNan, isUngrouped,
    unsigned?_text]

/-- Without a fraction and a power a number is whole. A power of ten shows in the text. -/
theorem integer?_signed_of_exponent (isNegative : Bool) (isPower : parts.exponent.isSome = true) :
    integer? (parts.signed isNegative) = none := by
  have isNormalized := normalized_of_isVerbatim fun _ =>
    parts.isVerbatim_of_mem_signed isNegative
  have isUngrouped := ungroup?_of_isVerbatim (fun _ => parts.isVerbatim_of_mem) false
  have notDigits : isDigits parts.text = false := by
    obtain ⟨power, isPower⟩ := Option.isSome_iff_exists.mp isPower
    have mark : CodePoint.ofChar 'e' ∈ parts.text := by
      rw [text, isPower]
      exact List.mem_append_right _ List.mem_cons_self
    rw [← Bool.not_eq_true, isDigits_iff]
    exact fun areDigits => absurd (areDigits.2 _ mark) (by decide)
  simp [integer?, isNormalized, splitSign_signed, isUngrouped, notDigits]

end NumberParts

namespace Decimal

variable {digits : Text}

/-- The point stands in front of the digits, behind them or among them. -/
theorem exists_positional (areDigits : Reading.isDigits digits = true) (point : Int) :
    ∃ parts : NumberParts, parts.text = positional digits point ∧
      parts.fraction.isSome = true ∧
      ∀ isNegative, Binary64.ofDecimal isNegative (Numeral.value parts.digits) parts.power =
        Binary64.ofDecimal isNegative (Numeral.value digits) (point - digits.length) := by
  have ⟨nonempty, allDigits⟩ := Reading.isDigits_iff.mp areDigits
  rw [positional]
  split
  · next inFront =>
      let parts : NumberParts :=
        { whole := Text.ofString "0"
          fraction := some (zeros (-point).toNat ++ digits)
          exponent := none
          wholeDigits := by decide
          fractionDigits := by
            rintro _ ⟨⟩ digit member
            exact (List.mem_append.mp member).elim isDigit_of_mem_zeros (allDigits digit) }
      have sameText : parts.text = "0." ++ zeros (-point).toNat ++ digits := by
        have start : Text.ofString "0." = Text.ofString "0" ++ [CodePoint.ofChar '.'] := rfl
        simp [NumberParts.text, parts, start]
      have sameValue : Numeral.value parts.digits = Numeral.value digits := by
        have zero : Numeral.value (Text.ofString "0") = 0 := by decide
        simp [NumberParts.digits, parts, Numeral.value_append, value_zeros, zero]
      have samePower : parts.power = point - digits.length := by
        simp [NumberParts.power, parts, zeros]
        omega
      exact ⟨parts, sameText, rfl, fun isNegative => by rw [sameValue, samePower]⟩
  · split
    · next behind =>
        let places := point.toNat - digits.length
        let parts : NumberParts :=
          { whole := digits ++ zeros places
            fraction := some (Text.ofString "0")
            exponent := none
            wholeDigits := Reading.isDigits_append areDigits fun _ => isDigit_of_mem_zeros
            fractionDigits := by
              rintro _ ⟨⟩
              decide }
        have sameText : parts.text = digits ++ zeros places ++ ".0" := by
          have stop : Text.ofString ".0" = CodePoint.ofChar '.' :: Text.ofString "0" := rfl
          simp [NumberParts.text, parts, stop]
        have sameValue : Numeral.value parts.digits =
            Numeral.value digits * Binary64.powerOfTen (places + 1) := by
          have zero : Numeral.value (Text.ofString "0") = 0 := by decide
          have single : (Text.ofString "0").length = 1 := rfl
          have length : (zeros places).length = places := List.length_replicate
          simp only [NumberParts.digits, parts, Option.getD_some, Numeral.value_append,
            value_zeros, zero, single, length, Nat.add_zero, Nat.mul_assoc]
          rfl
        have samePower : parts.power + (places + 1 : Nat) = point - digits.length := by
          have power : parts.power = -1 := rfl
          omega
        refine ⟨parts, sameText, rfl, fun isNegative => ?_⟩
        rw [sameValue, Binary64.ofDecimal_mul_powerOfTen, samePower]
    · next among =>
        let parts : NumberParts :=
          { whole := digits.take point.toNat
            fraction := some (digits.drop point.toNat)
            exponent := none
            wholeDigits := by
              refine Reading.isDigits_iff.mpr ⟨?_, fun digit member => ?_⟩
              · rw [Ne, List.take_eq_nil_iff]
                simp only [nonempty, or_false]
                omega
              · exact allDigits digit (List.mem_of_mem_take member)
            fractionDigits := by
              rintro _ ⟨⟩ digit member
              exact allDigits digit (List.mem_of_mem_drop member) }
        have sameText : parts.text = digits.take point.toNat ++ "." ++ digits.drop point.toNat := by
          have dot : Text.ofString "." = [CodePoint.ofChar '.'] := rfl
          simp [NumberParts.text, parts, dot]
        have sameDigits : parts.digits = digits := List.take_append_drop _ digits
        have samePower : parts.power = point - digits.length := by
          simp [NumberParts.power, parts]
          omega
        exact ⟨parts, sameText, rfl, fun isNegative => by rw [sameDigits, samePower]⟩

/-- One digit stands in front of the point, which is left out if there are no others. -/
theorem exists_scientific (areDigits : Reading.isDigits digits = true) (point : Int) :
    ∃ parts : NumberParts, parts.text = scientific digits point ∧
      (parts.fraction.isSome = true ↔ 1 < digits.length) ∧ parts.exponent.isSome = true ∧
      ∀ isNegative, Binary64.ofDecimal isNegative (Numeral.value parts.digits) parts.power =
        Binary64.ofDecimal isNegative (Numeral.value digits) (point - digits.length) := by
  have ⟨nonempty, allDigits⟩ := Reading.isDigits_iff.mp areDigits
  have lengthPositive : 0 < digits.length := List.length_pos_iff.mpr nonempty
  let parts : NumberParts :=
    { whole := digits.take 1
      fraction := if digits.length ≤ 1 then none else some (digits.drop 1)
      exponent := some (point - 1)
      wholeDigits := by
        refine Reading.isDigits_iff.mpr ⟨?_, fun digit member => ?_⟩
        · rw [Ne, List.take_eq_nil_iff]
          simp [nonempty]
        · exact allDigits digit (List.mem_of_mem_take member)
      fractionDigits := by
        intro fraction isFraction digit member
        split at isFraction
        · cases isFraction
        · cases isFraction
          exact allDigits digit (List.mem_of_mem_drop member) }
  have sameText : parts.text = scientific digits point := by
    have dot : Text.ofString "." = [CodePoint.ofChar '.'] := rfl
    rw [scientific]
    by_cases single : digits.length ≤ 1
    · simp [NumberParts.text, NumberParts.exponentText, parts, single]
    · simp [NumberParts.text, NumberParts.exponentText, parts, single, dot]
  have sameDigits : parts.digits = digits := by
    by_cases single : digits.length ≤ 1
    · simp [NumberParts.digits, parts, single, List.take_of_length_le single]
    · have isFraction : parts.fraction = some (digits.drop 1) := if_neg single
      rw [NumberParts.digits, isFraction]
      exact List.take_append_drop 1 digits
  have samePower : parts.power = point - digits.length := by
    by_cases single : digits.length ≤ 1
    · simp [NumberParts.power, parts, single]
      omega
    · simp [NumberParts.power, parts, single]
      omega
  refine ⟨parts, sameText, ?_, rfl, fun isNegative => by rw [sameDigits, samePower]⟩
  by_cases single : digits.length ≤ 1
  · simp [parts, single]
  · simp only [parts, if_neg single, Option.isSome_some, true_iff]
    omega

/-- A single digit with a power of ten is written without a point. -/
def IsPointless (decimal : Decimal) : Prop :=
  decimal.digits < 10 ∧ ¬(-4 < decimal.pointPosition ∧ decimal.pointPosition ≤ 16)

instance (decimal : Decimal) : Decidable decimal.IsPointless :=
  inferInstanceAs (Decidable (_ ∧ _))

/-- The parts that a decimal number is written in hold the same number. -/
theorem exists_parts (decimal : Decimal) : ∃ parts : NumberParts,
    parts.text = decimal.written ∧
      (parts.fraction.isSome = true ↔ ¬decimal.IsPointless) ∧
      (parts.fraction.isSome = true ∨ parts.exponent.isSome = true) ∧
      ∀ isNegative, Binary64.ofDecimal isNegative (Numeral.value parts.digits) parts.power =
        decimal.toBinary64 isNegative := by
  have areDigits := Reading.isDigits_ofNat decimal.digits
  have length : decimal.pointPosition - (Numeral.ofNat decimal.digits).length =
      decimal.power := by
    rw [pointPosition, Numeral.ofNat, List.length_map]
    omega
  have single : ¬1 < (Numeral.ofNat decimal.digits).length ↔ decimal.digits < 10 := by
    rw [Nat.not_lt, Numeral.length_ofNat_le_iff one_pos, Nat.pow_one]
  rw [written, IsPointless]
  split
  · next isPlain =>
      obtain ⟨parts, isText, isSome, sameNumber⟩ :=
        exists_positional areDigits decimal.pointPosition
      rw [Numeral.value_ofNat, length] at sameNumber
      exact ⟨parts, isText, by simp [isSome, isPlain], Or.inl isSome, sameNumber⟩
  · next isScientific =>
      obtain ⟨parts, isText, hasFraction, isSome, sameNumber⟩ :=
        exists_scientific areDigits decimal.pointPosition
      rw [Numeral.value_ofNat, length] at sameNumber
      refine ⟨parts, isText, ?_, Or.inr isSome, sameNumber⟩
      rw [hasFraction, ← single]
      simp [isScientific]

end Decimal

namespace Binary64

/-- These numbers are written without a point: with a single digit and a power of ten, or as
words. -/
def IsPointless : Binary64 → Prop
  | .finite _ code => code.val ≠ 0 ∧ (Decimal.shortest code).IsPointless
  | _ => True

instance : (number : Binary64) → Decidable number.IsPointless
  | .finite _ code =>
      inferInstanceAs (Decidable (code.val ≠ 0 ∧ (Decimal.shortest code).IsPointless))
  | .infinite _ => inferInstanceAs (Decidable True)
  | .notANumber => inferInstanceAs (Decidable True)

/-- The written form of a finite number has parts that denote it. -/
theorem exists_parts (isNegative : Bool) (code : Fin magnitudeCount) : ∃ parts : NumberParts,
    (finite isNegative code).written = parts.signed isNegative ∧
      (parts.fraction.isSome = true ↔ ¬(finite isNegative code).IsPointless) ∧
      (parts.fraction.isSome = true ∨ parts.exponent.isSome = true) ∧
      ofDecimal isNegative (Numeral.value parts.digits) parts.power = finite isNegative code := by
  by_cases isZero : code.val = 0
  · let parts : NumberParts :=
      { whole := Text.ofString "0"
        fraction := some (Text.ofString "0")
        exponent := none
        wholeDigits := by decide
        fractionDigits := by
          rintro _ ⟨⟩
          decide }
    have nothing : Numeral.value parts.digits = 0 := by decide
    refine ⟨parts, ?_, by simp [parts, IsPointless, isZero], Or.inl rfl, ?_⟩
    · rw [written, if_pos isZero]
      rfl
    · rw [nothing, ofDecimal]
      simp only [decide_true, Bool.true_or, if_true, zero]
      exact congrArg (finite isNegative) (Fin.ext isZero.symm)
  · obtain ⟨parts, isText, hasFraction, hasPart, sameNumber⟩ :=
      (Decimal.shortest code).exists_parts
    refine ⟨parts, ?_, by simp [IsPointless, isZero, hasFraction], hasPart, ?_⟩
    · rw [written, if_neg isZero, ← isText]
      rfl
    · rw [sameNumber, Decimal.toBinary64_shortest]

/-- Every number is read back from its written form. -/
theorem binary64?_written (number : Binary64) :
    Reading.binary64? number.written = some number := by
  cases number with
  | notANumber => decide
  | infinite isNegative => cases isNegative <;> decide
  | finite isNegative code =>
      obtain ⟨parts, isWritten, _, _, sameNumber⟩ := exists_parts isNegative code
      rw [isWritten, parts.binary64?_signed, sameNumber]

/-- A number is written with a point unless it is pointless. -/
theorem point_mem_written_iff (number : Binary64) :
    CodePoint.ofChar '.' ∈ number.written ↔ ¬number.IsPointless := by
  cases number with
  | notANumber => simp [IsPointless]; decide
  | infinite isNegative => cases isNegative <;> simp [IsPointless] <;> decide
  | finite isNegative code =>
      obtain ⟨parts, isWritten, hasFraction, _, _⟩ := exists_parts isNegative code
      have noSign : CodePoint.ofChar '.' ∉ Text.ofString (if isNegative then "-" else "") := by
        cases isNegative <;> decide
      rw [isWritten, ← hasFraction, ← parts.point_mem_iff, NumberParts.signed, List.mem_append,
        or_iff_right noSign]

/-- What is written without a point is no whole number either. -/
theorem integer?_written_of_isPointless {number : Binary64} (isPointless : number.IsPointless) :
    Reading.integer? number.written = none := by
  cases number with
  | notANumber => decide
  | infinite isNegative => cases isNegative <;> decide
  | finite isNegative code =>
      obtain ⟨parts, isWritten, hasFraction, hasPart, _⟩ := exists_parts isNegative code
      have noFraction : ¬parts.fraction.isSome = true := fun isSome =>
        hasFraction.mp isSome isPointless
      rw [isWritten]
      exact parts.integer?_signed_of_exponent isNegative (hasPart.resolve_left noFraction)

/-- A number starts with a digit or a minus, unless it is a word itself. -/
theorem startsAsNumber_written (number : Binary64) :
    number.written.startsAsNumber = true ∨
      number.written ∈ [Text.ofString "nan", Text.ofString "inf"] := by
  cases number with
  | notANumber => decide
  | infinite isNegative => cases isNegative <;> decide
  | finite isNegative code =>
      obtain ⟨parts, isWritten, _⟩ := exists_parts isNegative code
      rw [isWritten]
      exact Or.inl (parts.startsAsNumber_signed isNegative)

end Binary64

end UriTemplate
