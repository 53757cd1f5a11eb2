import UriTemplate.Number.Reading
import Mathlib.Algebra.Group.Nat.Defs
import Mathlib.Data.List.Basic
import Mathlib.Data.List.Induction

namespace UriTemplate

/-- The digits stand together. -/
theorem CodePoint.isDigit_iff {codePoint : CodePoint} :
    codePoint.isDigit = true ↔ 48 ≤ codePoint.value ∧ codePoint.value ≤ 57 := by
  simp [isDigit, isBetween]

/-- A digit is the character of what it is worth. -/
theorem CodePoint.ofChar_digitChar {digit : CodePoint} (isDigit : digit.isDigit = true) :
    CodePoint.ofChar (Nat.digitChar (digit.value - '0'.toNat)) = digit := by
  have ⟨lowest, highest⟩ := CodePoint.isDigit_iff.mp isDigit
  have zero : '0'.toNat = 48 := rfl
  apply CodePoint.ext_value
  change (Nat.digitChar (digit.value - '0'.toNat)).toNat = digit.value
  rw [Nat.toNat_digitChar_of_lt_ten (by omega)]
  omega

/-- Numbers below ten have a digit. -/
theorem CodePoint.isDigit_ofChar_digitChar {number : Nat} (small : number < 10) :
    (CodePoint.ofChar number.digitChar).isDigit = true := by
  apply CodePoint.isDigit_iff.mpr
  change 48 ≤ number.digitChar.toNat ∧ number.digitChar.toNat ≤ 57
  rw [Nat.toNat_digitChar_of_lt_ten small]
  omega

namespace Numeral

/-- A further digit counts as units. -/
theorem value_concat (digits : Text) (digit : CodePoint) :
    value (digits ++ [digit]) = 10 * value digits + (digit.value - '0'.toNat) := by
  simp [value]

/-- Digits in front count as many powers of ten as there are digits behind them. -/
theorem value_append (before behind : Text) :
    value (before ++ behind) = value before * 10 ^ behind.length + value behind := by
  induction behind using List.reverseRecOn with
  | nil =>
      rw [List.append_nil, List.length_nil, Nat.pow_zero, Nat.mul_one]
      rfl
  | append_singleton behind digit inductionHypothesis =>
      rw [← List.append_assoc, value_concat, value_concat, inductionHypothesis,
        List.length_append, List.length_singleton, Nat.pow_succ, ← Nat.mul_assoc]
      omega

/-- A number below ten is one digit. -/
theorem ofNat_of_lt_ten {number : Nat} (small : number < 10) :
    ofNat number = [CodePoint.ofChar number.digitChar] := by
  rw [ofNat, Nat.toDigits_of_lt_base small, List.map_singleton]

/-- A further digit goes to the end of the numeral. -/
theorem ofNat_concat {number digit : Nat} (positive : 0 < number) (small : digit < 10) :
    ofNat (10 * number + digit) = ofNat number ++ [CodePoint.ofChar digit.digitChar] := by
  have split := Nat.toDigits_append_toDigits (by decide : 1 < 10) positive small
  rw [ofNat, ← split, List.map_append, Nat.toDigits_of_lt_base small, List.map_singleton, ofNat]

/-- Numbers are written in digits. -/
theorem isDigit_of_mem_ofNat {number : Nat} {digit : CodePoint} (member : digit ∈ ofNat number) :
    digit.isDigit = true := by
  induction number using Nat.strongRecOn generalizing digit with
  | ind number inductionHypothesis =>
      by_cases small : number < 10
      · rw [ofNat_of_lt_ten small, List.mem_singleton] at member
        exact member ▸ CodePoint.isDigit_ofChar_digitChar small
      · have parts : number = 10 * (number / 10) + number % 10 := by omega
        rw [parts, ofNat_concat (by omega) (by omega), List.mem_append,
          List.mem_singleton] at member
        rcases member with earlier | rfl
        · exact inductionHypothesis (number / 10) (by omega) earlier
        · exact CodePoint.isDigit_ofChar_digitChar (by omega)

theorem ofNat_ne_nil (number : Nat) : ofNat number ≠ [] := by
  simp [ofNat]

/-- What was written is read back. -/
theorem value_ofNat (number : Nat) : value (ofNat number) = number := by
  have worth {digit : Nat} (small : digit < 10) :
      (CodePoint.ofChar digit.digitChar).value - '0'.toNat = digit :=
    Nat.toNat_digitChar_sub_48_of_lt_ten small
  induction number using Nat.strongRecOn with
  | ind number inductionHypothesis =>
      by_cases small : number < 10
      · rw [ofNat_of_lt_ten small, ← List.nil_append [_], value_concat, worth small]
        simp [value]
      · have parts : number = 10 * (number / 10) + number % 10 := by omega
        rw [parts, ofNat_concat (by omega) (by omega), value_concat, worth (by omega),
          inductionHypothesis (number / 10) (by omega)]

/-- A numeral starts with a digit other than zero. -/
structure IsLeading (digits : Text) : Prop where
  nonempty : digits ≠ []
  isDigit : ∀ digit ∈ digits, digit.isDigit = true
  head_ne : digits.head? ≠ some (CodePoint.ofChar '0')

/-- A numeral without its last digit is a numeral, if anything is left. -/
theorem IsLeading.of_concat {digits : Text} {digit : CodePoint} (before : digits ≠ [])
    (leading : IsLeading (digits ++ [digit])) : IsLeading digits where
  nonempty := before
  isDigit other member := leading.isDigit other (List.mem_append_left _ member)
  head_ne := by
    rw [← List.head?_append_of_ne_nil digits before]
    exact leading.head_ne

/-- What was read is written back; the induction goes from the last digit to the first. -/
theorem value_pos_and_ofNat_value {digits : Text} (leading : IsLeading digits) :
    0 < value digits ∧ ofNat (value digits) = digits := by
  induction digits using List.reverseRecOn with
  | nil => exact absurd rfl leading.nonempty
  | append_singleton digits digit inductionHypothesis =>
      have isDigit := leading.isDigit digit (by simp)
      have ⟨lowest, highest⟩ := CodePoint.isDigit_iff.mp isDigit
      have zero : '0'.toNat = 48 := rfl
      rw [value_concat]
      by_cases before : digits = []
      · subst before
        have different : digit.value ≠ 48 := by
          intro equal
          exact leading.head_ne (congrArg some (CodePoint.ext_value equal))
        have nothing : value [] = 0 := rfl
        rw [nothing, Nat.mul_zero, Nat.zero_add, ofNat_of_lt_ten (by omega),
          CodePoint.ofChar_digitChar isDigit]
        exact ⟨by omega, rfl⟩
      · have ⟨positive, written⟩ := inductionHypothesis (leading.of_concat before)
        rw [ofNat_concat positive (by omega), written, CodePoint.ofChar_digitChar isDigit]
        exact ⟨by omega, rfl⟩

/-- Numerals without leading zeros denote positive numbers. -/
theorem value_pos {digits : Text} (leading : IsLeading digits) : 0 < value digits :=
  (value_pos_and_ofNat_value leading).1

/-- A numeral without leading zeros is the one that its number is written with. -/
theorem ofNat_value {digits : Text} (leading : IsLeading digits) : ofNat (value digits) = digits :=
  (value_pos_and_ofNat_value leading).2

/-- Positive numbers are written without leading zeros. -/
theorem isLeading_ofNat {number : Nat} (positive : 0 < number) : IsLeading (ofNat number) where
  nonempty := ofNat_ne_nil number
  isDigit _ := isDigit_of_mem_ofNat
  head_ne := by
    induction number using Nat.strongRecOn with
    | ind number inductionHypothesis =>
        by_cases small : number < 10
        · rw [ofNat_of_lt_ten small]
          intro equal
          have sameValue := congrArg CodePoint.value (Option.some.inj equal)
          change number.digitChar.toNat = 48 at sameValue
          rw [Nat.toNat_digitChar_of_lt_ten small] at sameValue
          omega
        · have parts : number = 10 * (number / 10) + number % 10 := by omega
          rw [parts, ofNat_concat (by omega) (by omega),
            List.head?_append_of_ne_nil _ (ofNat_ne_nil _)]
          exact inductionHypothesis (number / 10) (by omega) (by omega)

/-- The number of digits bounds a number by a power of ten. -/
theorem length_ofNat_le_iff {number width : Nat} (positive : 0 < width) :
    (ofNat number).length ≤ width ↔ number < 10 ^ width := by
  rw [ofNat, List.length_map]
  exact Nat.length_toDigits_le_iff (by decide) positive

/-- The sign does not count. -/
theorem isShort_iff {number : Int} :
    isShort number = true ↔ number.natAbs < 10 ^ maximumDigits := by
  -- Said of any number of digits, so that no power is worked out.
  have isPower (digits : Nat) : Nat.pow 10 digits = 10 ^ digits := rfl
  unfold isShort
  rw [isPower, decide_eq_true_iff]

/-- A number is short just if its digits are few enough. -/
theorem length_ofNat_iff {number : Nat} :
    (ofNat number).length ≤ maximumDigits ↔ isShort number = true := by
  rw [isShort_iff, Int.natAbs_natCast]
  exact length_ofNat_le_iff (Nat.zero_lt_succ _)

end Numeral

namespace Reading

/-- Reading leaves this code point as it is: it is no blank, no digit of another script and no
mark between groups of digits. -/
def IsVerbatim (codePoint : CodePoint) : Prop :=
  isBlank codePoint = false ∧ DecimalDigit.ascii codePoint = codePoint ∧ codePoint ≠ '_'

instance (codePoint : CodePoint) : Decidable (IsVerbatim codePoint) :=
  inferInstanceAs (Decidable (_ ∧ _))

/-- Digits are read as they are. -/
theorem isVerbatim_of_isDigit {digit : CodePoint} (isDigit : digit.isDigit = true) :
    IsVerbatim digit := by
  refine ⟨?_, ?_, ?_⟩
  · have ⟨lowest, highest⟩ := CodePoint.isDigit_iff.mp isDigit
    simp [isBlank]
    omega
  · rw [DecimalDigit.ascii, DecimalDigit.value?_of_isDigit isDigit]
    exact CodePoint.ofChar_digitChar isDigit
  · rintro rfl
    exact absurd isDigit (by decide)

variable {text : Text}

/-- There is no blank in front. -/
theorem dropWhile_isBlank_of_isVerbatim
    (allVerbatim : ∀ codePoint ∈ text, IsVerbatim codePoint) : text.dropWhile isBlank = text := by
  cases text with
  | nil => rfl
  | cons first rest => simp [(allVerbatim first (by simp)).1]

/-- There is nothing to take away and nothing to replace. -/
theorem normalized_of_isVerbatim (allVerbatim : ∀ codePoint ∈ text, IsVerbatim codePoint) :
    normalized text = text := by
  have reversed : ∀ codePoint ∈ text.reverse, IsVerbatim codePoint := by simpa using allVerbatim
  rw [normalized, trim, dropWhile_isBlank_of_isVerbatim allVerbatim,
    dropWhile_isBlank_of_isVerbatim reversed, List.reverse_reverse]
  calc
    text.map DecimalDigit.ascii = text.map id :=
      List.map_congr_left fun codePoint member => (allVerbatim codePoint member).2.1
    _ = text := List.map_id text

/-- There is no mark between groups. -/
theorem ungroup?_of_isVerbatim (allVerbatim : ∀ codePoint ∈ text, IsVerbatim codePoint)
    (afterDigit : Bool) : ungroup? afterDigit text = some text := by
  induction text generalizing afterDigit with
  | nil => rfl
  | cons first rest inductionHypothesis =>
      rw [ungroup?, if_neg (allVerbatim first (by simp)).2.2, inductionHypothesis
        fun codePoint member => allVerbatim codePoint (List.mem_cons_of_mem _ member)]
      rfl

/-- A text that starts with a digit has no sign. -/
theorem splitSign_of_isDigit {first : CodePoint} (isDigit : first.isDigit = true) (rest : Text) :
    splitSign (first :: rest) = (false, first :: rest) := by
  have notMinus : first ≠ '-' := by rintro rfl; exact absurd isDigit (by decide)
  have notPlus : first ≠ '+' := by rintro rfl; exact absurd isDigit (by decide)
  rw [splitSign, if_neg notMinus, if_neg notPlus]

/-- Digits are at least one. -/
theorem isDigits_iff : isDigits text = true ↔
    text ≠ [] ∧ ∀ digit ∈ text, digit.isDigit = true := by
  simp [isDigits]

/-- Digits are read as the number they denote, unless there are too many of them. -/
theorem integer?_of_digits {digits : Text} (nonempty : digits ≠ [])
    (allDigits : ∀ digit ∈ digits, digit.isDigit = true)
    (fits : digits.length ≤ Numeral.maximumDigits) :
    integer? digits = some (Numeral.value digits : Int) := by
  have allVerbatim (digit : CodePoint) (member : digit ∈ digits) : IsVerbatim digit :=
    isVerbatim_of_isDigit (allDigits digit member)
  have areDigits : isDigits digits = true := isDigits_iff.mpr ⟨nonempty, allDigits⟩
  obtain ⟨first, rest, rfl⟩ := List.exists_cons_of_ne_nil nonempty
  simp only [integer?, normalized_of_isVerbatim allVerbatim,
    splitSign_of_isDigit (allDigits first (by simp)), ungroup?_of_isVerbatim allVerbatim,
    areDigits, fits, decide_true, Bool.and_self, Option.bind_eq_bind, Option.bind_some,
    if_true, Bool.false_eq_true, if_false]

end Reading

end UriTemplate
