import Mathlib.Data.List.Chain
import UriTemplate.Proofs.Syntax.Numbering

namespace UriTemplate

def Token.range (token : Token) : Nat × Nat :=
  (token.span.start, token.span.stop)

/-- The text that a token stands on. -/
def Token.textIn (token : Token) (source : Text) : Text :=
  source.slice token.span.start token.span.stop

/-- The text of a token is the part that it covers. -/
theorem Token.textIn_covering (kind : TokenKind) (before taken behind : Text) :
    (covering kind (Position.start.after before) taken).textIn (before ++ (taken ++ behind)) =
      taken := by
  have first : (covering kind (Position.start.after before) taken).span.start = before.length :=
    Span.start_covering before taken
  have last : (covering kind (Position.start.after before) taken).span.stop =
      before.length + taken.length := Span.stop_covering before taken
  rw [textIn, first, last]
  exact Text.slice_append before taken behind

namespace Piece

/-- Each token that was laid out covers its piece at the place of the piece. -/
theorem exists_of_mem_laid (before : Text) {pieces : List Piece} {token : Token}
    (member : token ∈ laid (Position.start.after before) pieces) :
    ∃ piece ∈ pieces, ∃ front behind, front ++ (piece.2 ++ behind) = before ++ joined pieces ∧
      token = Token.covering piece.1 (Position.start.after front) piece.2 := by
  induction pieces generalizing before with
  | nil => exact absurd member List.not_mem_nil
  | cons piece rest inductionHypothesis =>
      rcases List.mem_cons.mp member with rfl | later
      · exact ⟨piece, List.mem_cons_self, before, joined rest, rfl, rfl⟩
      · rw [← Position.after_append] at later
        obtain ⟨other, isOther, front, behind, split, rfl⟩ := inductionHypothesis _ later
        refine ⟨other, List.mem_cons_of_mem _ isOther, front, behind, ?_, rfl⟩
        rw [split, joined_cons, List.append_assoc]

/-- Pieces and the finish behind them lie side by side. -/
theorem tiles_laid (position : Position) (pieces : List Piece) :
    Tiles position.offset (position.offset + (joined pieces).length)
      ((laid position pieces ++
        [Token.finishAt (position.after (joined pieces))]).map Token.range) := by
  induction pieces generalizing position with
  | nil => exact .next (Nat.le_refl _) (.done _)
  | cons piece rest inductionHypothesis =>
      have others := inductionHypothesis (position.after piece.2)
      rw [← Position.after_append, Position.offset_after, Nat.add_assoc,
        ← List.length_append] at others
      exact .next (Nat.le_add_right _ _) others

theorem IsProper.ne_nil {kind : TokenKind} {taken : Text} (isProper : IsProper (kind, taken)) :
    taken ≠ [] := by
  cases isProper with
  | literal nonempty => exact nonempty
  | name isName => exact isName.ne_nil
  | number nonempty => exact nonempty
  | _ => exact List.cons_ne_nil _ _

theorem IsProper.kind_ne_finish {kind : TokenKind} {taken : Text}
    (isProper : IsProper (kind, taken)) : kind ≠ .finish := by
  cases isProper <;> decide

end Piece

/-! The order of the kinds. -/

namespace TokenKind

/-- Behind these kinds an expression is still open. -/
def isInside : TokenKind → Bool
  | literal | closeBrace | finish => false
  | _ => true

/-- The kinds that may stand directly in front of a kind. The start of a text counts as a closing
brace. -/
def Precedes (previous : TokenKind) : TokenKind → Prop
  | literal => previous = closeBrace
  | openBrace | finish => previous = literal ∨ previous = closeBrace
  | operator => previous = openBrace
  | number => previous = colon
  | _ => previous.isInside = true

/-- Inside an expression another part of it follows, or the brace that closes it. -/
theorem Precedes.isInside_or {previous next : TokenKind} (precedes : previous.Precedes next)
    (isInside : previous.isInside = true) :
    next = closeBrace ∨ next.isInside = true ∧ next ≠ openBrace := by
  have isNotOutside : ¬(previous = literal ∨ previous = closeBrace) := by
    rintro (rfl | rfl)
    · exact Bool.false_ne_true isInside
    · exact Bool.false_ne_true isInside
  cases next with
  | closeBrace => exact .inl rfl
  | literal => exact absurd (.inr precedes) isNotOutside
  | openBrace => exact absurd precedes isNotOutside
  | finish => exact absurd precedes isNotOutside
  | _ => exact .inr ⟨rfl, TokenKind.noConfusion⟩

end TokenKind

/-- The kind that a mode of the lexer stands behind, in front of a text. -/
inductive LexMode.Follows (text : Text) : LexMode → TokenKind → Prop
  | closed : Follows text .literal .closeBrace
  | literal (stops : Lexer.StopsLiteral text) : Follows text .literal .literal
  | opened (openBrace : Span) : Follows text (.expression .opening openBrace) .openBrace
  | colon (openBrace : Span) : Follows text (.expression .afterColon openBrace) .colon
  | inside {kind : TokenKind} (isInside : kind.isInside = true) (openBrace : Span) :
      Follows text (.expression .inside openBrace) kind

/-- Inside braces the token in front belongs to an expression. -/
theorem LexMode.Follows.isInside {text : Text} {place : Place} {openBrace : Span}
    {previous : TokenKind} (follows : Follows text (.expression place openBrace) previous) :
    previous.isInside = true := by
  cases follows with
  | opened => rfl
  | colon => rfl
  | inside isInside => exact isInside

/-- What is cut off inside an expression may stand there, and the place behind it is kept. -/
theorem Cut.follows_next {place : Place} {first : CodePoint} {rest : Text} {cut : Cut}
    {openBrace : Span} {previous : TokenKind} (found : next place first rest = .ok cut)
    (follows : LexMode.Follows (first :: rest) (.expression place openBrace) previous) :
    previous.Precedes cut.kind ∧ (cut.kind ≠ .closeBrace →
      LexMode.Follows cut.rest (.expression cut.place openBrace) cut.kind) := by
  have isInside := follows.isInside
  revert found
  fun_cases next place first rest with
  | case1 isOperator =>
      intro found
      cases found
      simp only [Bool.and_eq_true, decide_eq_true_eq] at isOperator
      obtain ⟨rfl, -⟩ := isOperator
      cases follows with
      | opened => exact ⟨rfl, fun _ => .inside rfl openBrace⟩
  | case2 | case9 | case10 | case11 =>
      intro refused
      cases refused
  | case3 _ _ isNumber =>
      intro found
      cases found
      simp only [Bool.and_eq_true, decide_eq_true_eq] at isNumber
      obtain ⟨rfl, -⟩ := isNumber
      cases follows with
      | colon => exact ⟨rfl, fun _ => .inside rfl openBrace⟩
  | case4 =>
      intro found
      cases found
      exact ⟨isInside, fun different => absurd rfl different⟩
  | case5 | case6 =>
      intro found
      cases found
      exact ⟨isInside, fun _ => .inside rfl openBrace⟩
  | case7 =>
      intro found
      cases found
      exact ⟨isInside, fun _ => .colon openBrace⟩
  | case8 =>
      intro found
      unfold name at found
      split at found
      · cases found
      · cases found
        exact ⟨isInside, fun _ => .inside rfl openBrace⟩

namespace Lexer

/-- From every mode on, the kinds come in order up to the finish. -/
theorem isChain_of_tokensFrom {mode : LexMode} {position : Position} {text : Text}
    {tokens : List Token} {previous : TokenKind}
    (found : tokensFrom mode position text = .ok tokens) (follows : mode.Follows text previous) :
    List.IsChain TokenKind.Precedes (previous :: (tokens.map Token.kind ++ [.finish])) := by
  revert tokens previous
  fun_induction tokensFrom mode position text
  case case1 =>
    intro tokens previous found follows
    cases found
    cases follows with
    | closed => exact .cons_cons (.inr rfl) (.singleton _)
    | literal => exact .cons_cons (.inl rfl) (.singleton _)
  case case2 =>
    intro tokens previous refused
    cases refused
  case case3 position rest token inductionHypothesis =>
    intro tokens previous found follows
    obtain ⟨others, continued, rfl⟩ := exists_of_map_eq_ok found
    refine .cons_cons ?_ (inductionHypothesis continued (.opened token.span))
    cases follows with
    | closed => exact .inr rfl
    | literal => exact .inl rfl
  case case4 position first rest isLiteral taken inductionHypothesis =>
    intro tokens previous found follows
    obtain ⟨others, continued, rfl⟩ := exists_of_map_eq_ok found
    have stops : StopsLiteral (rest.dropWhile Lexeme.isLiteral) := by
      intro brace isHead
      have notLiteral := List.head?_dropWhile_not Lexeme.isLiteral rest
      rw [isHead] at notLiteral
      simpa [Lexeme.isLiteral] using notLiteral
    refine .cons_cons ?_ (inductionHypothesis continued (.literal stops))
    cases follows with
    | closed => rfl
    | literal stopsHere => exact absurd (stopsHere first rfl) isLiteral
  case case5 =>
    intro tokens previous refused
    cases refused
  case case6 position first rest place openBrace cut next mode inductionHypothesis =>
    intro tokens previous found follows
    obtain ⟨others, continued, rfl⟩ := exists_of_map_eq_ok found
    obtain ⟨precedes, continues⟩ := Cut.follows_next next follows
    refine .cons_cons precedes (inductionHypothesis continued ?_)
    by_cases closes : cut.kind = .closeBrace
    · rw [closes]
      simp only [mode, closes]
      exact .closed
    · simp only [mode, closes]
      exact continues closes

end Lexer

namespace TokenStream

/-- What the kinds of tokens in order have to do with their neighbours. -/
structure IsOrdered (stream : TokenStream) : Prop where
  literal : ∀ {earlier token later}, stream.toList = earlier ++ token :: later →
    token.kind = .literal → ∀ previous ∈ earlier.getLast?, previous.kind ≠ .literal
  operator : ∀ {earlier token later}, stream.toList = earlier ++ token :: later →
    token.kind = .operator → ∃ previous ∈ earlier.getLast?, previous.kind = .openBrace
  number : ∀ {earlier token later}, stream.toList = earlier ++ token :: later →
    token.kind = .number → ∃ previous ∈ earlier.getLast?, previous.kind = .colon
  /-- A closing brace follows before any other brace does. -/
  openBrace : ∀ {earlier token later}, stream.toList = earlier ++ token :: later →
    token.kind = .openBrace → ∃ inner brace rest, later = inner ++ brace :: rest ∧
      brace.kind = .closeBrace ∧
      ∀ other ∈ inner, other.kind ≠ .openBrace ∧ other.kind ≠ .closeBrace

/-- The token in front of another precedes it in kind. -/
theorem precedes_of_isChain {earlier later : List Token} {token : Token} {start : TokenKind}
    (chain : List.IsChain TokenKind.Precedes
      (start :: (earlier ++ token :: later).map Token.kind)) :
    ((earlier.getLast?.map Token.kind).getD start).Precedes token.kind := by
  rw [List.map_append, ← List.cons_append, List.isChain_append] at chain
  have previous : (start :: earlier.map Token.kind).getLast? =
      some ((earlier.getLast?.map Token.kind).getD start) := by
    rw [List.getLast?_cons, List.getLast?_map]
  exact chain.2.2 _ previous _ rfl

/-- Behind an open expression a closing brace comes before the finish. -/
theorem exists_closeBrace {previous : TokenKind} {tokens : List Token}
    (chain : List.IsChain TokenKind.Precedes (previous :: tokens.map Token.kind))
    (isInside : previous.isInside = true)
    (ends : (previous :: tokens.map Token.kind).getLast? = some .finish) :
    ∃ inner brace rest, tokens = inner ++ brace :: rest ∧ brace.kind = .closeBrace ∧
      ∀ other ∈ inner, other.kind ≠ .openBrace ∧ other.kind ≠ .closeBrace := by
  induction tokens generalizing previous with
  | nil =>
      obtain rfl := Option.some.inj ends
      cases isInside
  | cons token rest inductionHypothesis =>
      have ⟨precedes, others⟩ := List.isChain_cons_cons.mp chain
      by_cases closes : token.kind = .closeBrace
      · exact ⟨[], token, rest, rfl, closes, by simp⟩
      · have ⟨staysInside, opensNone⟩ := (precedes.isInside_or isInside).resolve_left closes
        obtain ⟨inner, brace, behind, rfl, isClosing, noBraces⟩ :=
          inductionHypothesis others staysInside (by simpa using ends)
        exact ⟨token :: inner, brace, behind, rfl, isClosing,
          List.forall_mem_cons.mpr ⟨⟨opensNone, closes⟩, noBraces⟩⟩

/-- A chain that ends with a finish keeps all parts of the order. -/
theorem isOrdered_of_isChain {stream : TokenStream} (isFinish : stream.finish.kind = .finish)
    (chain : List.IsChain TokenKind.Precedes
      (.closeBrace :: stream.toList.map Token.kind)) : stream.IsOrdered := by
  have ends : (stream.toList.map Token.kind).getLast? = some .finish := by
    rw [List.getLast?_map, toList, List.getLast?_concat, Option.map_some, isFinish]
  have precedes {earlier later : List Token} {token : Token}
      (split : stream.toList = earlier ++ token :: later) :
      ((earlier.getLast?.map Token.kind).getD .closeBrace).Precedes token.kind :=
    precedes_of_isChain (split ▸ chain)
  have needs {earlier later : List Token} {token : Token} {needed : TokenKind}
      (split : stream.toList = earlier ++ token :: later)
      (only : ∀ previous : TokenKind, previous.Precedes token.kind → previous = needed)
      (isNotStart : needed ≠ .closeBrace) :
      ∃ previous ∈ earlier.getLast?, previous.kind = needed := by
    have same := only _ (precedes split)
    cases isLast : earlier.getLast? with
    | none =>
        rw [isLast] at same
        exact absurd same.symm isNotStart
    | some previous =>
        rw [isLast] at same
        exact ⟨previous, rfl, same⟩
  constructor
  case literal =>
    intro earlier token later split isLiteral previous isLast same
    have before := precedes split
    rw [isLast, isLiteral, Option.map_some, Option.getD_some, same] at before
    cases before
  case operator =>
    intro earlier token later split isOperator
    exact needs split (fun previous before => by rwa [isOperator] at before) (by decide)
  case number =>
    intro earlier token later split isNumber
    exact needs split (fun previous before => by rwa [isNumber] at before) (by decide)
  case openBrace =>
    intro earlier token later split isBrace
    rw [split, List.map_append, List.map_cons, isBrace] at ends chain
    rw [List.getLast?_append_cons] at ends
    rw [← List.cons_append] at chain
    exact exists_closeBrace chain.right_of_append rfl ends

end TokenStream

/-- A token names the text it stands on, and where that is. -/
structure Token.IsPartOf (token : Token) (source : Text) : Prop where
  kind_ne_finish : token.kind ≠ .finish
  nonempty : token.textIn source ≠ []
  value : token.value = some (token.textIn source)
  isNumbered : token.span.IsNumberedIn source
  literal : token.kind = .literal → Expression.openBrace ∉ token.textIn source

/-- A proper piece is a part of the text. -/
theorem Piece.IsProper.isPartOf {kind : TokenKind} {taken : Text}
    (isProper : Piece.IsProper (kind, taken)) (before behind : Text) :
    (Token.covering kind (Position.start.after before) taken).IsPartOf
      (before ++ (taken ++ behind)) where
  kind_ne_finish := isProper.kind_ne_finish
  nonempty := by
    rw [Token.textIn_covering]
    exact isProper.ne_nil
  value := by
    rw [Token.textIn_covering]
    rfl
  isNumbered := Span.isNumberedIn_covering before taken (taken ++ behind)
  literal isLiteral := by
    rw [Token.textIn_covering]
    cases isLiteral
    cases isProper with
    | literal nonempty noBrace => exact noBrace

namespace Lexer

/-- The end of the tokens stands at the end of the text. -/
theorem finish_of_stream {source : Text} {stream : TokenStream}
    (cut : Lexer.stream source = .ok stream) :
    stream.finish = Token.finishAt (Position.start.after source) := by
  obtain ⟨tokens, found, rfl⟩ := exists_of_map_eq_ok cut
  rfl

/-- The kinds of a whole stream stand in order. -/
theorem isChain_of_stream {source : Text} {stream : TokenStream}
    (cut : Lexer.stream source = .ok stream) :
    List.IsChain TokenKind.Precedes (.closeBrace :: stream.toList.map Token.kind) := by
  obtain ⟨tokens, found, rfl⟩ := exists_of_map_eq_ok cut
  rw [TokenStream.toList, List.map_append]
  exact isChain_of_tokensFrom found .closed

/-- The tokens of a text lie side by side from its first character to the finish at its end, each
names its part of the text, and the kinds stand in order. -/
theorem stream_tiles_source {source : Text} {stream : TokenStream}
    (cut : Lexer.stream source = .ok stream) :
    Tiles 0 source.length (stream.toList.map Token.range) ∧
      stream.finish.kind = .finish ∧
      stream.finish.range = (source.length, source.length) ∧
      (∀ token ∈ stream.body, token.IsPartOf source) ∧ stream.IsOrdered := by
  have chain := isChain_of_stream cut
  obtain ⟨tokens, found, rfl⟩ := exists_of_map_eq_ok cut
  obtain ⟨pieces, rfl, rfl, areProper⟩ := tile_of_tokensFrom found
  have atEnd : Position.start.offset + (Piece.joined pieces).length =
      (Piece.joined pieces).length := Nat.zero_add _
  refine ⟨?_, rfl, ?_, ?_, ?_⟩
  · have tiles := Piece.tiles_laid Position.start pieces
    rwa [atEnd] at tiles
  · have stop := Position.offset_after Position.start (Piece.joined pieces)
    rw [atEnd] at stop
    exact Prod.ext stop stop
  · intro token member
    obtain ⟨⟨kind, taken⟩, isPiece, before, behind, split, rfl⟩ :=
      Piece.exists_of_mem_laid [] member
    rw [List.nil_append] at split
    exact split ▸ (areProper _ isPiece).isPartOf before behind
  · exact TokenStream.isOrdered_of_isChain rfl chain

/-- A line feed and a brace behind the last expression are literal text. -/
theorem stream_tiles_source_lines :
    let source := Text.ofString "a\n\x7b+x:3,y*\x7d\x7d"
    ∃ stream, Lexer.stream source = .ok stream ∧
      stream.toList.map Token.kind = [.literal, .openBrace, .operator, .name, .colon, .number,
        .comma, .name, .star, .closeBrace, .literal, .finish] ∧
      Tiles 0 12 (stream.toList.map Token.range) ∧
      (∀ token ∈ stream.body, token.IsPartOf source) ∧ stream.IsOrdered := by
  intro source
  have found : (Lexer.stream source).map (fun stream => stream.toList.map Token.kind) =
      .ok [.literal, .openBrace, .operator, .name, .colon, .number, .comma, .name, .star,
        .closeBrace, .literal, .finish] := by decide +kernel
  obtain ⟨stream, cut, kinds⟩ := exists_of_map_eq_ok found
  have ⟨tiles, _, _, parts, isOrdered⟩ := stream_tiles_source cut
  exact ⟨stream, cut, kinds, tiles, parts, isOrdered⟩

end Lexer

end UriTemplate
