import UriTemplate.Proofs.Syntax.Lexing
import UriTemplate.Syntax.Parser

namespace UriTemplate

open Grammar

/-! The pieces of a tree are the pieces of its text. -/

theorem Modifier.joined_pieces (modifier : Modifier) :
    Piece.joined modifier.pieces = modifier.written := by
  rcases modifier with ⟨_ | _ | _, length⟩
  · rfl
  · rfl
  · simp [pieces, written]

theorem Variable.joined_pieces (reference : Variable) :
    Piece.joined reference.pieces = reference.written := by
  rw [pieces, Piece.joined_cons, Modifier.joined_pieces]
  rfl

theorem Variable.joined_listPieces (references : List Variable) :
    Piece.joined (listPieces references) = Text.join "," (references.map written) := by
  fun_induction listPieces references with
  | case1 => rfl
  | case2 reference => simpa [Text.join] using joined_pieces reference
  | case3 reference next rest inductionHypothesis =>
      have nonempty : (next :: rest).map written ≠ [] := by simp
      have split := Text.join_cons "," reference.written nonempty
      rw [Piece.joined_append, Piece.joined_cons, joined_pieces, inductionHypothesis,
        ← List.append_assoc]
      exact split.symm

theorem Operator.joined_pieces (operator : Operator) :
    Piece.joined operator.pieces = operator.symbol := by
  cases operator <;> rfl

/-- The pieces of an expression make up its text. -/
theorem Expression.joined_pieces (expression : Expression) :
    Piece.joined expression.pieces = expression.written := by
  simp [pieces, written, Operator.joined_pieces, Variable.joined_listPieces]

theorem Layout.joined_literalPieces (literal : Text) :
    Piece.joined (literalPieces literal) = literal := by
  unfold literalPieces
  split
  · rename_i isEmpty
    exact isEmpty.symm
  · simp

/-- With its variables, the draft of an expression. -/
def Draft.addAll (draft : Draft) (references : List Variable) : Draft :=
  { draft with references := draft.references ++ references }

/-- Closing a draft gives the expression at its place. -/
theorem Draft.close_eq_placedAt {expression : Expression} {position : Position} {before : Text}
    (split : before ++ [Expression.closeBrace] = expression.written) :
    Draft.close ⟨Span.covering position [Expression.openBrace], expression.operator,
      expression.references⟩ (Span.covering (position.after before) [Expression.closeBrace]) =
        expression.placedAt position := by
  have length := congrArg List.length split
  simp only [List.length_append, List.length_singleton] at length
  simp [close, Span.through, Span.covering, Expression.placedAt, Position.offset_after,
    Nat.add_assoc, length]

namespace Parser

/-- The parser gets from one stage to another without a fault. -/
def Reaches (progress : Progress) (tokens : List Token) (next : Progress) : Prop :=
  tokens.foldlM step progress = .ok next

theorem Reaches.nil (progress : Progress) : Reaches progress [] progress := rfl

theorem Reaches.cons {progress middle next : Progress} {token : Token} {tokens : List Token}
    (stepped : step progress token = .ok middle) (others : Reaches middle tokens next) :
    Reaches progress (token :: tokens) next := by
  rw [Reaches, List.foldlM_cons, stepped]
  exact others

theorem Reaches.trans {progress middle next : Progress} {tokens others : List Token}
    (first : Reaches progress tokens middle) (second : Reaches middle others next) :
    Reaches progress (tokens ++ others) next := by
  rw [Reaches, List.foldlM_append, first]
  exact second

/-- The second pieces stand behind the text of the first. -/
theorem Reaches.append {progress middle next : Progress} {position : Position}
    {pieces others : List Piece} (first : Reaches progress (Piece.laid position pieces) middle)
    (second : Reaches middle (Piece.laid (position.after (Piece.joined pieces)) others) next) :
    Reaches progress (Piece.laid position (pieces ++ others)) next := by
  rw [Piece.laid_append]
  exact first.trans second

/-- In these states a name may follow, and becomes a part of the draft. -/
inductive Awaits : ParserState → Draft → Prop
  | opened (openBrace : Span) : Awaits (.opened openBrace) ⟨openBrace, .simple, []⟩
  | listing (draft : Draft) : Awaits (.listing draft) draft
  | continuing (draft : Draft) : Awaits (.continuing draft) draft

/-- In these states a variable is complete once a separator follows. -/
inductive Completes : ParserState → Draft → Prop
  | named (draft : Draft) (reference : Variable) (plain : reference.modifier = .none) :
      Completes (.named draft reference.name) (draft.add reference)
  | specified (draft : Draft) : Completes (.specified draft) draft

/-- A whole variable is added to the draft. -/
theorem specify_eq (draft : Draft) (reference : Variable) :
    specify draft reference.name reference.modifier = .ok (draft.add reference) := by
  simp [specify, part, Variable.make, reference.nameNonempty]
  rfl

/-- Where a name is awaited, its token is read. -/
theorem step_name_of_value {state : ParserState} {draft : Draft} (awaits : Awaits state draft)
    (expressions : List Expression) {token : Token} {name : Text} (isName : token.kind = .name)
    (value : token.value = some name) :
    step ⟨expressions, state⟩ token = .ok ⟨expressions, .named draft name⟩ := by
  cases awaits with
  | _ => simp [step, readFirstName, readName, isName, value, Except.map]

/-- Where a name is awaited, it is read wherever it stands. -/
theorem step_name {state : ParserState} {draft : Draft} (awaits : Awaits state draft)
    (expressions : List Expression) (position : Position) (name : Text) :
    step ⟨expressions, state⟩ (Token.covering .name position name) =
      .ok ⟨expressions, .named draft name⟩ :=
  step_name_of_value awaits expressions rfl rfl

/-- Behind a whole variable, a comma or a closing brace is read alike. -/
theorem step_separator {state : ParserState} {draft : Draft} (completes : Completes state draft)
    (expressions : List Expression) {token : Token}
    (isSeparator : token.kind = .comma ∨ token.kind = .closeBrace) :
    step ⟨expressions, state⟩ token = readSeparator expressions draft token := by
  cases completes with
  | named draft reference plain =>
      have complete := specify_eq draft reference
      rw [plain] at complete
      rcases isSeparator with isComma | isBrace
      · simp [step, isComma, complete, bind, Except.bind]
      · simp [step, isBrace, complete, bind, Except.bind]
  | specified => rfl

/-- A number of one to four digits without a leading zero is the length of a modifier, whatever
place its token names. -/
theorem readLength_of_value {length : Nat} (positive : 1 ≤ length) (bounded : length ≤ 9999)
    (draft : Draft) {name : Text} (nonempty : name ≠ []) {token : Token}
    (isNumberToken : token.kind = .number)
    (hasDigits : token.value = some (Numeral.ofNat length)) :
    readLength draft name token =
      .ok (.specified (draft.add ⟨name, ⟨.cut, length⟩, nonempty⟩)) := by
  have leading := Numeral.isLeading_ofNat positive
  have short : (Numeral.ofNat length).length ≤ 4 :=
    (Numeral.length_ofNat_le_iff (by decide)).mpr (by omega)
  have isNumber := Reading.integer?_of_digits leading.nonempty leading.isDigit
    (Nat.le_trans short (by decide))
  rw [Numeral.value_ofNat] at isNumber
  have cut : Modifier.cutTo length = .ok ⟨.cut, length⟩ := if_pos (by omega)
  have complete : specify draft name ⟨.cut, length⟩ =
      .ok (draft.add ⟨name, ⟨.cut, length⟩, nonempty⟩) := specify_eq draft ⟨name, _, nonempty⟩
  simp [readLength, isNumberToken, hasDigits, leading.head_ne, SyntaxCause.maximumDigits,
    Nat.not_lt.mpr short, isNumber, cut, part, complete, bind, Except.bind, Except.mapError,
    pure, Except.pure]

/-- A prefix length in range completes the variable. -/
theorem readLength_eq {length : Nat} (positive : 1 ≤ length) (bounded : length ≤ 9999)
    (draft : Draft) {name : Text} (nonempty : name ≠ []) (position : Position) :
    readLength draft name (Token.covering .number position (Numeral.ofNat length)) =
      .ok (.specified (draft.add ⟨name, ⟨.cut, length⟩, nonempty⟩)) :=
  readLength_of_value positive bounded draft nonempty rfl rfl

/-- The pieces of a variable lead to the draft with that variable. -/
theorem reaches_variable {state : ParserState} {draft : Draft} (awaits : Awaits state draft)
    {reference : Variable} (wellFormed : reference.IsWellFormed)
    (expressions : List Expression) (position : Position) :
    ∃ next, Completes next (draft.add reference) ∧
      Reaches ⟨expressions, state⟩ (Piece.laid position reference.pieces) ⟨expressions, next⟩ := by
  have named := step_name awaits expressions position reference.name
  rcases reference with ⟨name, modifier, nonempty⟩
  cases wellFormed.modifier with
  | none => exact ⟨_, .named draft ⟨name, .none, nonempty⟩ rfl, .cons named (.nil _)⟩
  | explode =>
      have complete : specify draft name .explode =
          .ok (draft.add ⟨name, .explode, nonempty⟩) := specify_eq draft ⟨name, _, nonempty⟩
      have exploded (position : Position) : step ⟨expressions, .named draft name⟩
          (Token.covering .star position "*") =
            .ok ⟨expressions, .specified (draft.add ⟨name, .explode, nonempty⟩)⟩ := by
        simp [step, Token.covering, complete, Except.map]
      exact ⟨_, .specified _, .cons named (.cons (exploded _) (.nil _))⟩
  | @cut length positive bounded =>
      have sizing (position : Position) : step ⟨expressions, .named draft name⟩
          (Token.covering .colon position ":") = .ok ⟨expressions, .sizing draft name⟩ := rfl
      have sized (position : Position) : step ⟨expressions, .sizing draft name⟩
          (Token.covering .number position (Numeral.ofNat length)) =
            .ok ⟨expressions, .specified (draft.add ⟨name, ⟨.cut, length⟩, nonempty⟩)⟩ := by
        simp [step, readLength_eq positive bounded draft nonempty, Except.map]
      exact ⟨_, .specified _, .cons named (.cons (sizing _) (.cons (sized _) (.nil _)))⟩

/-- The pieces of a list lead to the draft with all its variables. -/
theorem reaches_list {state : ParserState} {draft : Draft} (awaits : Awaits state draft)
    {references : List Variable} (nonempty : references ≠ [])
    (wellFormed : ∀ reference ∈ references, reference.IsWellFormed)
    (expressions : List Expression) (position : Position) :
    ∃ next, Completes next (draft.addAll references) ∧
      Reaches ⟨expressions, state⟩ (Piece.laid position (Variable.listPieces references))
        ⟨expressions, next⟩ := by
  induction references using Variable.listPieces.induct generalizing state draft position with
  | case1 => exact absurd rfl nonempty
  | case2 reference =>
      exact reaches_variable awaits (wellFormed reference (by simp)) expressions position
  | case3 reference next others inductionHypothesis =>
      obtain ⟨behind, completes, first⟩ := reaches_variable awaits
        (wellFormed reference List.mem_cons_self) expressions position
      have comma (position : Position) : step ⟨expressions, behind⟩
          (Token.covering .comma position ",") =
            .ok ⟨expressions, .continuing (draft.add reference)⟩ :=
        step_separator completes expressions (.inl rfl)
      obtain ⟨final, finalCompletes, later⟩ := inductionHypothesis (.continuing _) (by simp)
        (fun other member => wellFormed other (List.mem_cons_of_mem _ member))
        ((position.after (Piece.joined reference.pieces)).after ",")
      have sameDraft : (draft.add reference).addAll (next :: others) =
          draft.addAll (reference :: next :: others) := by
        simp [Draft.add, Draft.addAll]
      rw [sameDraft] at finalCompletes
      exact ⟨final, finalCompletes, first.append (.cons (comma _) later)⟩

/-- Each symbol of the grammar finds its operator. -/
theorem ofSymbol_of_symbol {operator : Operator} {symbol : CodePoint}
    (sameSymbol : operator.symbol = [symbol]) :
    Operator.ofSymbol (some [symbol]) = .ok operator := by
  have found : Operator.ofSymbol? [symbol] = some operator := by
    rw [← sameSymbol]
    cases operator with
    | simple => cases sameSymbol
    | _ => rfl
  rw [Operator.ofSymbol, Option.bind_some, found]

/-- The piece of an operator, if there is one, leads to where a name is awaited. -/
theorem reaches_operator (operator : Operator) (openBrace : Span)
    (expressions : List Expression) (position : Position) :
    ∃ next, Awaits next ⟨openBrace, operator, []⟩ ∧
      Reaches ⟨expressions, .opened openBrace⟩ (Piece.laid position operator.pieces)
        ⟨expressions, next⟩ := by
  cases operator with
  | simple => exact ⟨_, .opened openBrace, .nil _⟩
  | _ => exact ⟨_, .listing _, .cons rfl (.nil _)⟩

/-- The braces of an expression and what stands between them add the expression. -/
theorem reaches_expression {expression : Expression} (wellFormed : expression.IsWellFormed)
    (expressions : List Expression) (position : Position) :
    Reaches ⟨expressions, .outside⟩ (Piece.laid position expression.pieces)
      ⟨expressions ++ [expression.placedAt position], .outside⟩ := by
  let brace : Piece := (.openBrace, [Expression.openBrace])
  let before : List Piece :=
    brace :: expression.operator.pieces ++ Variable.listPieces expression.references
  obtain ⟨state, awaits, operated⟩ := reaches_operator expression.operator
    (Span.covering position [Expression.openBrace]) expressions
    (position.after [Expression.openBrace])
  obtain ⟨final, completes, listed⟩ := reaches_list awaits wellFormed.nonempty
    wellFormed.references expressions
    (position.after (Piece.joined (brace :: expression.operator.pieces)))
  have opened : Reaches ⟨expressions, .outside⟩ (Piece.laid position before)
      ⟨expressions, final⟩ := Reaches.append (.cons rfl operated) listed
  have split : Piece.joined before ++ [Expression.closeBrace] = expression.written := by
    rw [← Expression.joined_pieces, Expression.pieces, Piece.joined_append]
    simp [brace]
  have closed : step ⟨expressions, final⟩ (Token.covering .closeBrace
      (position.after (Piece.joined before)) [Expression.closeBrace]) =
        .ok ⟨expressions ++ [expression.placedAt position], .outside⟩ := by
    rw [step_separator completes expressions (.inr rfl), ← Draft.close_eq_placedAt split]
    rfl
  exact opened.append (.cons closed (.nil _))

/-- Literal text leaves the expressions as they are. -/
theorem reaches_literal (literal : Text) (expressions : List Expression) (position : Position) :
    Reaches ⟨expressions, .outside⟩ (Piece.laid position (Layout.literalPieces literal))
      ⟨expressions, .outside⟩ := by
  unfold Layout.literalPieces
  split
  · exact .nil _
  · exact .cons rfl (.nil _)

/-- The pieces of a layout lead to its expressions, each at its place. -/
theorem reaches_layout {layout : Layout} (wellFormed : layout.IsWellFormed)
    (expressions : List Expression) (position : Position) :
    Reaches ⟨expressions, .outside⟩ (Piece.laid position layout.pieces)
      ⟨expressions ++ layout.placed position, .outside⟩ := by
  induction layout generalizing expressions position with
  | last literal =>
      rw [Layout.placed, List.append_nil]
      exact reaches_literal literal expressions position
  | before literal expression rest inductionHypothesis =>
      obtain ⟨isLiteral, expressionWellFormed, restWellFormed⟩ := wellFormed
      have passed := reaches_literal literal expressions position
      have added := reaches_expression expressionWellFormed expressions (position.after literal)
      have others := inductionHypothesis restWellFormed
        (expressions ++ [expression.placedAt (position.after literal)])
        (position.after (literal ++ expression.written))
      have bothTexts : Piece.joined (Layout.literalPieces literal ++ expression.pieces) =
          literal ++ expression.written := by
        rw [Piece.joined_append, Layout.joined_literalPieces, Expression.joined_pieces]
      have upToExpression : Reaches ⟨expressions, .outside⟩
          (Piece.laid position (Layout.literalPieces literal ++ expression.pieces))
          ⟨expressions ++ [expression.placedAt (position.after literal)], .outside⟩ :=
        passed.append (by rw [Layout.joined_literalPieces]; exact added)
      rw [List.append_assoc, List.singleton_append] at others
      exact upToExpression.append (by rw [bothTexts]; exact others)

end Parser

/-- The text of a well-formed layout is a template with the expressions of the layout. -/
theorem Template.parse_written {layout : Layout} (wellFormed : layout.IsWellFormed) :
    parse layout.written = .ok layout.template := by
  have cut := Lexer.cutsOutside_layout wellFormed Position.start
  have read := Parser.reaches_layout wellFormed [] Position.start
  rw [List.nil_append] at read
  rw [parse, Lexer.stream, cut]
  simp only [Except.map, parseTokens, Parser.expressions]
  rw [read]
  rfl

end UriTemplate
