import UriTemplate.Proofs.Syntax.Layout
import UriTemplate.Proofs.Syntax.Name
import UriTemplate.Syntax.Lexer

namespace UriTemplate

/-- The kind of a token and its text. -/
abbrev Piece := TokenKind × Text

/-- The texts that tokens of a kind have. -/
inductive Piece.IsProper : Piece → Prop
  | literal {text : Text} (nonempty : text ≠ []) (isLiteral : Expression.openBrace ∉ text) :
      IsProper (.literal, text)
  | openBrace : IsProper (.openBrace, [Expression.openBrace])
  | closeBrace : IsProper (.closeBrace, [Expression.closeBrace])
  | operator {symbol : CodePoint} (isSymbol : symbol ∈ Operator.symbols) :
      IsProper (.operator, [symbol])
  | name {name : Text} (isName : Grammar.IsName name) : IsProper (.name, name)
  | comma : IsProper (.comma, ",")
  | star : IsProper (.star, "*")
  | colon : IsProper (.colon, ":")
  | number {digits : Text} (nonempty : digits ≠ [])
      (isDigit : ∀ digit ∈ digits, digit.isDigit = true) : IsProper (.number, digits)

namespace Piece

/-- The tokens of pieces that stand one behind the other. -/
def laid (position : Position) : List Piece → List Token
  | [] => []
  | piece :: rest =>
      Token.covering piece.1 position piece.2 :: laid (position.after piece.2) rest

def joined (pieces : List Piece) : Text :=
  pieces.flatMap Prod.snd

@[simp] theorem joined_nil : joined [] = [] := rfl

@[simp] theorem joined_cons (piece : Piece) (rest : List Piece) :
    joined (piece :: rest) = piece.2 ++ joined rest := rfl

/-- Pieces are joined one behind the other. -/
@[simp] theorem joined_append (first second : List Piece) :
    joined (first ++ second) = joined first ++ joined second := by
  simp [joined]

/-- The tokens are the pieces of a text that stands at a position. -/
def Tile (position : Position) (text : Text) (tokens : List Token) : Prop :=
  ∃ pieces, laid position pieces = tokens ∧ joined pieces = text ∧ ∀ piece ∈ pieces, piece.IsProper

/-- A further piece may stand in front. -/
theorem Tile.cons {kind : TokenKind} {position : Position} {taken rest : Text}
    {tokens : List Token} (isProper : IsProper (kind, taken))
    (tiles : Tile (position.after taken) rest tokens) :
    Tile position (taken ++ rest) (Token.covering kind position taken :: tokens) := by
  obtain ⟨pieces, rfl, rfl, areProper⟩ := tiles
  exact ⟨(kind, taken) :: pieces, rfl, rfl, List.forall_mem_cons.mpr ⟨isProper, areProper⟩⟩

/-- Pieces are laid one behind the other. -/
theorem laid_append (position : Position) (first second : List Piece) :
    laid position (first ++ second) =
      laid position first ++ laid (position.after (joined first)) second := by
  induction first generalizing position with
  | nil => rfl
  | cons piece rest inductionHypothesis =>
      simp [laid, inductionHypothesis, Position.after_append]

end Piece

/-- A value that was mapped is the image of a value. -/
theorem exists_of_map_eq_ok {ε α β : Type} {f : α → β} {result : Except ε α} {value : β}
    (found : result.map f = .ok value) : ∃ before, result = .ok before ∧ f before = value := by
  cases result with
  | error fault => cases found
  | ok before => exact ⟨before, rfl, Except.ok.inj found⟩

/-- A mapped result fails where the result does. -/
theorem eq_error_of_map {ε α β : Type} {f : α → β} {result : Except ε α} {fault : ε}
    (failed : result.map f = .error fault) : result = .error fault := by
  cases result with
  | error other => exact congrArg Except.error (Except.error.inj failed)
  | ok => cases failed

namespace Cut

/-- What is cut off inside an expression is in the class of its kind. -/
theorem isProper_next {place : Place} {first : CodePoint} {rest : Text} {cut : Cut}
    (found : next place first rest = .ok cut) : Piece.IsProper (cut.kind, cut.taken) := by
  revert found
  fun_cases next place first rest with
  | case1 isOperator =>
      intro found
      cases found
      simp only [Bool.and_eq_true, List.contains_iff_mem] at isOperator
      exact .operator isOperator.2
  | case2 =>
      intro refused
      cases refused
  | case3 isNoOperator isNoFuture isDigit =>
      intro found
      cases found
      simp only [Bool.and_eq_true] at isDigit
      refine .number ?_ ?_
      · simp [isDigit.2]
      · intro digit member
        exact List.all_eq_true.mp List.all_takeWhile digit member
  | case4 _ _ _ same =>
      intro found
      cases found
      exact same ▸ .closeBrace
  | case5 _ _ _ _ same =>
      intro found
      cases found
      exact same ▸ .comma
  | case6 _ _ _ _ _ same =>
      intro found
      cases found
      exact same ▸ .star
  | case7 _ _ _ _ _ _ same =>
      intro found
      cases found
      exact same ▸ .colon
  | case8 =>
      intro found
      unfold name at found
      split at found
      · cases found
      · rename_i complete
        cases found
        exact .name (Lexeme.isName_of_name complete)
  | case9 =>
      intro refused
      cases refused
  | case10 =>
      intro refused
      cases refused
  | case11 =>
      intro refused
      cases refused

end Cut

namespace Lexer

/-- Nothing is lost or moved between a text and its tokens. -/
theorem tile_of_tokensFrom {mode : LexMode} {position : Position} {text : Text}
    {tokens : List Token} (found : tokensFrom mode position text = .ok tokens) :
    Piece.Tile position text tokens := by
  revert tokens
  fun_induction tokensFrom mode position text
  case case1 =>
    intro tokens found
    cases found
    exact ⟨[], rfl, rfl, by simp⟩
  case case2 => exact fun refused => nomatch refused
  case case3 position rest token inductionHypothesis =>
    intro tokens found
    obtain ⟨others, continued, rfl⟩ := exists_of_map_eq_ok found
    exact .cons .openBrace (inductionHypothesis continued)
  case case4 position first rest isLiteral taken inductionHypothesis =>
    intro tokens found
    obtain ⟨others, continued, rfl⟩ := exists_of_map_eq_ok found
    have split : taken ++ rest.dropWhile Lexeme.isLiteral = first :: rest := by simp [taken]
    have noBrace : Expression.openBrace ∉ taken := by
      intro member
      rcases List.mem_cons.mp member with same | later
      · exact isLiteral same.symm
      · have passed := List.all_eq_true.mp List.all_takeWhile _ later
        exact absurd passed (by decide)
    exact split ▸ .cons (.literal (List.cons_ne_nil _ _) noBrace) (inductionHypothesis continued)
  case case5 => exact fun refused => nomatch refused
  case case6 position first rest place openBrace cut next mode inductionHypothesis =>
    intro tokens found
    obtain ⟨others, continued, rfl⟩ := exists_of_map_eq_ok found
    have split := (Cut.isSplit_next next).append
    exact split ▸ .cons (Cut.isProper_next next) (inductionHypothesis continued)

end Lexer

end UriTemplate
