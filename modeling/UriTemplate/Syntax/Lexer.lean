import UriTemplate.Syntax.Cursor

/-
This file cuts a template text into tokens. Outside braces the text is literal; inside them it
has the symbols, names and numbers of an expression.
-/

namespace UriTemplate

/-- Where the lexer stands inside an expression. -/
inductive Place
  | opening
  | inside
  | afterColon
  deriving DecidableEq

/-- Inside an expression the span of its opening brace is kept. -/
inductive LexMode
  | literal
  | expression (place : Place) (openBrace : Span)
  deriving DecidableEq

/-- The text of one token, what follows it, and the place where that stands. -/
structure Cut where
  kind : TokenKind
  taken : Text
  rest : Text
  place : Place

/-- The text that was passed over before a cause was found, and the cause. -/
structure LexFault where
  passed : Text
  cause : SyntaxCause

namespace Cut

def symbol (kind : TokenKind) (place : Place) (first : CodePoint) (rest : Text) :
    Except LexFault Cut :=
  .ok ⟨kind, [first], rest, place⟩

def refuse (cause : SyntaxCause) : Except LexFault Cut :=
  .error ⟨[], cause⟩

def name (text : Text) : Except LexFault Cut :=
  match (Lexeme.name text).cause with
  | some cause => .error ⟨(Lexeme.name text).taken, cause⟩
  | none => .ok ⟨.name, (Lexeme.name text).taken, (Lexeme.name text).rest, .inside⟩

def number (text : Text) : Except LexFault Cut :=
  .ok ⟨.number, text.takeWhile CodePoint.isDigit, text.dropWhile CodePoint.isDigit, .inside⟩

def isBlank (codePoint : CodePoint) : Bool :=
  (Text.ofString " \t\r\n").contains codePoint

/-- An operator stands only behind the opening brace and a number only behind a colon. -/
def next (place : Place) (first : CodePoint) (rest : Text) : Except LexFault Cut :=
  if place = .opening && Operator.symbols.contains first then symbol .operator .inside first rest
  else if place = .opening && Operator.futureSymbols.contains first then
    refuse (.futureOperator first)
  else if place = .afterColon && first.isDigit then number (first :: rest)
  else if first = Expression.closeBrace then symbol .closeBrace .inside first rest
  else if first = ',' then symbol .comma .inside first rest
  else if first = '*' then symbol .star .inside first rest
  else if first = ':' then symbol .colon .afterColon first rest
  else if first.isVarchar || first = '%' then name (first :: rest)
  else if first = Expression.openBrace then refuse .nestedBrace
  else if isBlank first then refuse .blank
  else refuse (.unexpectedCharacter first)

/-- The text is split, and some of it is taken. -/
structure IsSplit (cut : Cut) (text : Text) : Prop where
  append : cut.taken ++ cut.rest = text
  nonempty : cut.taken ≠ []

theorem IsSplit.shorter {cut : Cut} {text : Text} (split : cut.IsSplit text) :
    cut.rest.length < text.length := by
  have parts := congrArg List.length split.append
  have positive := List.length_pos_iff.mpr split.nonempty
  rw [List.length_append] at parts
  omega

theorem isSplit_symbol {kind : TokenKind} {place : Place} {first : CodePoint} {rest : Text}
    {cut : Cut} (found : symbol kind place first rest = .ok cut) :
    cut.IsSplit (first :: rest) := by
  cases found
  exact ⟨rfl, by simp⟩

theorem isSplit_number {first : CodePoint} {rest : Text} {cut : Cut}
    (digit : first.isDigit = true) (found : number (first :: rest) = .ok cut) :
    cut.IsSplit (first :: rest) := by
  cases found
  exact ⟨List.takeWhile_append_dropWhile, by simp [digit]⟩

theorem isSplit_name {text : Text} {cut : Cut} (found : name text = .ok cut) :
    cut.IsSplit text := by
  unfold name at found
  split at found
  · cases found
  · rename_i complete
    cases found
    refine ⟨Lexeme.name_append text, ?_⟩
    exact Lexeme.name_taken_ne_nil complete

theorem isSplit_next {place : Place} {first : CodePoint} {rest : Text} {cut : Cut}
    (found : next place first rest = .ok cut) : cut.IsSplit (first :: rest) := by
  revert found
  fun_cases next place first rest with
  | case1 => exact isSplit_symbol
  | case2 => exact fun refused => nomatch refused
  | case3 _ _ digit => exact isSplit_number (by simp_all)
  | case4 => exact isSplit_symbol
  | case5 => exact isSplit_symbol
  | case6 => exact isSplit_symbol
  | case7 => exact isSplit_symbol
  | case8 => exact isSplit_name
  | case9 => exact fun refused => nomatch refused
  | case10 => exact fun refused => nomatch refused
  | case11 => exact fun refused => nomatch refused

end Cut

namespace Lexer

/-- The tokens in front of the end of the text. -/
def tokensFrom (mode : LexMode) (position : Position) (text : Text) :
    Except SyntaxFault (List Token) :=
  match text with
  | [] =>
      match mode with
      | .literal => .ok []
      | .expression _ openBrace => .error ⟨.unterminated, openBrace⟩
  | first :: rest =>
      match mode with
      | .literal =>
          if first = Expression.openBrace then
            let token := Token.covering .openBrace position [first]
            (tokensFrom (.expression .opening token.span) (position.advance first) rest).map
              (token :: ·)
          else
            let taken := first :: rest.takeWhile Lexeme.isLiteral
            (tokensFrom .literal (position.after taken)
              (rest.dropWhile Lexeme.isLiteral)).map
              (Token.covering .literal position taken :: ·)
      | .expression place openBrace =>
          match _ : Cut.next place first rest with
          | .error fault =>
              .error ⟨fault.cause, Span.single (position.after fault.passed)⟩
          | .ok cut =>
              let mode :=
                if cut.kind = .closeBrace then .literal else .expression cut.place openBrace
              (tokensFrom mode (position.after cut.taken) cut.rest).map
                (Token.covering cut.kind position cut.taken :: ·)
  termination_by text.length
  decreasing_by
    · simp
    · have shorter := (List.dropWhile_suffix (l := rest) Lexeme.isLiteral).length_le
      simp only [List.length_cons]
      omega
    · rename_i found
      exact (Cut.isSplit_next found).shorter

/-- The finish stands behind the whole text. -/
def stream (source : Text) : Except SyntaxFault TokenStream :=
  (tokensFrom .literal Position.start source).map fun body =>
    ⟨body, Token.finishAt (Position.start.after source)⟩

end Lexer

end UriTemplate
