import UriTemplate.CharacterClass
import UriTemplate.Syntax.Expression

namespace UriTemplate.Grammar

/-- A letter, a digit, an underscore or a percent triplet. -/
inductive IsVarchar : Text → Prop
  | letter {codePoint : CodePoint} (isLetter : codePoint.isLetter = true) : IsVarchar [codePoint]
  | digit {codePoint : CodePoint} (isDigit : codePoint.isDigit = true) : IsVarchar [codePoint]
  | underscore : IsVarchar [CodePoint.ofChar '_']
  | triplet {high low : CodePoint} (highIsHex : high.isHexDigit = true)
      (lowIsHex : low.isHexDigit = true) : IsVarchar [CodePoint.ofChar '%', high, low]

/-- What follows the first character of a name. A dot needs a name character behind it. -/
inductive IsNameTail : Text → Prop
  | done : IsNameTail []
  | adjoined {character rest : Text} (isVarchar : IsVarchar character)
      (isTail : IsNameTail rest) : IsNameTail (character ++ rest)
  | dotted {character rest : Text} (isVarchar : IsVarchar character)
      (isTail : IsNameTail rest) : IsNameTail (CodePoint.ofChar '.' :: character ++ rest)

inductive IsName : Text → Prop
  | starting {character rest : Text} (isVarchar : IsVarchar character)
      (isTail : IsNameTail rest) : IsName (character ++ rest)

/-- One to four digits, the first of which is no zero. -/
inductive IsMaxLength : Text → Prop
  | digits {first : CodePoint} {rest : Text} (firstInRange : first.isBetween '1' '9' = true)
      (short : rest.length ≤ 3) (restIsDigits : ∀ digit ∈ rest, digit.isDigit = true) :
      IsMaxLength (first :: rest)

inductive IsVarspec : Text → Prop
  | plain {name : Text} (isName : IsName name) : IsVarspec name
  | exploded {name : Text} (isName : IsName name) : IsVarspec (name ++ [CodePoint.ofChar '*'])
  | cut {name length : Text} (isName : IsName name) (isMaxLength : IsMaxLength length) :
      IsVarspec (name ++ CodePoint.ofChar ':' :: length)

inductive IsVariableList : Text → Prop
  | single {varspec : Text} (isVarspec : IsVarspec varspec) : IsVariableList varspec
  | cons {varspec rest : Text} (isVarspec : IsVarspec varspec) (isList : IsVariableList rest) :
      IsVariableList (varspec ++ CodePoint.ofChar ',' :: rest)

inductive IsExpression : Text → Prop
  | plain {varspecs : Text} (isList : IsVariableList varspecs) :
      IsExpression (Expression.openBrace :: varspecs ++ [Expression.closeBrace])
  | operated {symbol : CodePoint} {varspecs : Text}
      (isSymbol : symbol ∈ Text.ofString "+#./;?&") (isList : IsVariableList varspecs) :
      IsExpression (Expression.openBrace :: symbol :: varspecs ++ [Expression.closeBrace])

inductive IsTemplate : Text → Prop
  | empty : IsTemplate []
  | literal {codePoint : CodePoint} {rest : Text} (isLiteral : codePoint ≠ Expression.openBrace)
      (isTemplate : IsTemplate rest) : IsTemplate (codePoint :: rest)
  | expression {expression rest : Text} (isExpression : IsExpression expression)
      (isTemplate : IsTemplate rest) : IsTemplate (expression ++ rest)

/-- A name starts with a letter, a digit, an underscore or a percent sign. -/
def startsName (codePoint : CodePoint) : Bool :=
  codePoint.isVarchar || codePoint = '%'

/-- A character of a name starts one. -/
theorem IsVarchar.exists_cons {character : Text} (isVarchar : IsVarchar character) :
    ∃ first rest, character = first :: rest ∧ startsName first = true := by
  cases isVarchar with
  | letter isLetter => exact ⟨_, _, rfl, by simp [startsName, CodePoint.isVarchar, isLetter]⟩
  | digit isDigit => exact ⟨_, _, rfl, by simp [startsName, CodePoint.isVarchar, isDigit]⟩
  | underscore => exact ⟨_, _, rfl, by decide⟩
  | triplet => exact ⟨_, _, rfl, by decide⟩

/-- A name starts with a character of names. -/
theorem IsName.exists_cons {name : Text} (isName : IsName name) :
    ∃ first rest, name = first :: rest ∧ startsName first = true := by
  cases isName with
  | starting isVarchar isTail =>
      obtain ⟨first, rest, rfl, starts⟩ := isVarchar.exists_cons
      exact ⟨first, _, rfl, starts⟩

/-- No name is empty. -/
theorem IsName.ne_nil {name : Text} (isName : IsName name) : name ≠ [] := by
  obtain ⟨first, rest, rfl, -⟩ := isName.exists_cons
  exact List.cons_ne_nil first rest

/-- A name behind a dot goes on with another name. -/
theorem IsNameTail.of_isName {name : Text} (isName : IsName name) :
    IsNameTail (CodePoint.ofChar '.' :: name) := by
  cases isName with
  | starting isVarchar isTail => exact .dotted isVarchar isTail

/-- A code point that is a name character by itself. -/
theorem IsVarchar.of_isVarchar {codePoint : CodePoint} (isVarchar : codePoint.isVarchar = true) :
    IsVarchar [codePoint] := by
  simp only [CodePoint.isVarchar, Bool.or_eq_true, decide_eq_true_eq] at isVarchar
  rcases isVarchar with (isLetter | isDigit) | rfl
  · exact .letter isLetter
  · exact .digit isDigit
  · exact .underscore

end UriTemplate.Grammar
