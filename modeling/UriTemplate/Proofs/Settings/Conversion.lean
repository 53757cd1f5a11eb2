import UriTemplate.Proofs.Number.Reading
import UriTemplate.Settings.Layers

namespace UriTemplate.Layers

/-- What starts as a number does is none of the words for truth values and for nothing. -/
theorem convert_of_startsAsNumber {text : Text} (starts : text.startsAsNumber = true) :
    convert text =
      if CodePoint.ofChar '.' ∈ text then
        ((Reading.binary64? text).map Value.number).getD (.text text)
      else ((Reading.integer? text).map Value.integer).getD (.text text) := by
  have areWords : ∀ word ∈ trueWords ++ falseWords ++ nothingWords,
      word.startsAsNumber = false := by decide
  have isNoWord {word : Text} (isWord : word ∈ trueWords ++ falseWords ++ nothingWords) :
      text.lowerAscii ≠ word := by
    rintro rfl
    exact Bool.false_ne_true
      ((areWords _ isWord).symm.trans (Text.startsAsNumber_lowerAscii starts))
  have notTrue : text.lowerAscii ∉ trueWords := fun isWord => isNoWord (by simp [isWord]) rfl
  have notFalse : text.lowerAscii ∉ falseWords := fun isWord => isNoWord (by simp [isWord]) rfl
  have notNothing : text.lowerAscii ∉ nothingWords := fun isWord =>
    isNoWord (by simp [isWord]) rfl
  simp [convert, notTrue, notFalse, notNothing]

/-- A whole number comes back from its digits if there are not too many of them. -/
theorem convert_ofNat {number : Nat} (isShort : Numeral.isShort number = true) :
    convert (Numeral.ofNat number) = .integer number := by
  have noPoint : CodePoint.ofChar '.' ∉ Numeral.ofNat number := fun member =>
    absurd (Numeral.isDigit_of_mem_ofNat member) (by decide)
  rw [convert_of_startsAsNumber (Text.startsAsNumber_ofNat number), if_neg noPoint,
    Reading.integer?_of_digits (Numeral.ofNat_ne_nil number)
      (fun _ => Numeral.isDigit_of_mem_ofNat) (Numeral.length_ofNat_iff.mpr isShort),
    Numeral.value_ofNat]
  rfl

/-- A number comes back if it is written with a point. -/
theorem convert_written (number : Binary64) : convert number.written =
    if number.IsPointless then .text number.written else .number number := by
  rcases number.startsAsNumber_written with starts | isWord
  · rw [convert_of_startsAsNumber starts]
    by_cases isPointless : number.IsPointless
    · have noPoint := mt number.point_mem_written_iff.mp (not_not_intro isPointless)
      rw [if_neg noPoint, if_pos isPointless, Binary64.integer?_written_of_isPointless isPointless]
      rfl
    · rw [if_pos (number.point_mem_written_iff.mpr isPointless), if_neg isPointless,
        number.binary64?_written]
      rfl
  · have noPoint : ∀ word ∈ [Text.ofString "nan", Text.ofString "inf"],
        CodePoint.ofChar '.' ∉ word := by decide
    have stays : ∀ word ∈ [Text.ofString "nan", Text.ofString "inf"],
        convert word = .text word := by
      simp only [List.forall_mem_cons, List.not_mem_nil, false_implies, implies_true, and_true]
      exact ⟨rfl, rfl⟩
    have isPointless : number.IsPointless :=
      Decidable.not_not.mp (mt number.point_mem_written_iff.mpr (noPoint _ isWord))
    rw [if_pos isPointless]
    exact stays _ isWord

end UriTemplate.Layers
