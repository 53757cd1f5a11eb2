import UriTemplate.Proofs.Syntax.ParserRun

namespace UriTemplate

open Grammar

namespace Draft

def written (draft : Draft) : Text :=
  Expression.openBrace :: draft.operator.symbol ++
    Text.join "," (draft.references.map Variable.written)

/-- The text in front of the next variable. -/
def leading (draft : Draft) : Text :=
  if draft.references = [] then draft.written else draft.written ++ ","

/-- The draft starts behind the text of a layout. -/
structure IsWellFormed (draft : Draft) (outer : Text) : Prop where
  openBrace : draft.openBrace = Span.covering (Position.start.after outer) [Expression.openBrace]
  references : ∀ reference ∈ draft.references, reference.IsWellFormed

/-- A further well-formed variable keeps a draft well-formed. -/
theorem IsWellFormed.add {draft : Draft} {outer : Text} {reference : Variable}
    (wellFormed : draft.IsWellFormed outer) (isWellFormed : reference.IsWellFormed) :
    (draft.add reference).IsWellFormed outer where
  openBrace := wellFormed.openBrace
  references other member := by
    rcases List.mem_append.mp member with earlier | isNew
    · exact wellFormed.references other earlier
    · exact List.mem_singleton.mp isNew ▸ isWellFormed

/-- A further variable is written behind what leads up to it. -/
theorem written_add (draft : Draft) (reference : Variable) :
    (draft.add reference).written = draft.leading ++ reference.written := by
  rcases draft with ⟨openBrace, operator, references⟩
  by_cases isEmpty : references = []
  · simp [add, written, leading, isEmpty, Text.join]
  · have nonempty : references.map Variable.written ≠ [] := by simpa using isEmpty
    simp [add, written, leading, isEmpty, Text.join_concat _ _ nonempty]

/-- A comma leads from one variable to the next. -/
theorem leading_add (draft : Draft) (reference : Variable) :
    (draft.add reference).leading = (draft.add reference).written ++ "," :=
  if_neg (by simp [add])

end Draft

/-- The text that was read since the last layout ended, in each state. -/
inductive ParserState.Follows (outer : Text) : ParserState → Text → Prop
  | outside : Follows outer .outside []
  | opened {openBrace : Span} (wellFormed : Draft.IsWellFormed ⟨openBrace, .simple, []⟩ outer) :
      Follows outer (.opened openBrace) [Expression.openBrace]
  | listing {draft : Draft} (wellFormed : draft.IsWellFormed outer) :
      Follows outer (.listing draft) draft.leading
  | continuing {draft : Draft} (wellFormed : draft.IsWellFormed outer) :
      Follows outer (.continuing draft) draft.leading
  | named {draft : Draft} {name : Text} (wellFormed : draft.IsWellFormed outer)
      (isName : IsName name) : Follows outer (.named draft name) (draft.leading ++ name)
  | sizing {draft : Draft} {name : Text} (wellFormed : draft.IsWellFormed outer)
      (isName : IsName name) : Follows outer (.sizing draft name) (draft.leading ++ name ++ ":")
  | specified {draft : Draft} {reference : Variable}
      (wellFormed : (draft.add reference).IsWellFormed outer) :
      Follows outer (.specified (draft.add reference)) (draft.add reference).written

/-- The text that was read is that of a layout and of what follows it. -/
structure Progress.Accounts (progress : Progress) (layout : Layout) (inner : Text) : Prop where
  wellFormed : layout.IsWellFormed
  expressions : layout.placed Position.start = progress.expressions
  follows : progress.state.Follows layout.written inner

def Progress.AccountsFor (progress : Progress) (text : Text) : Prop :=
  ∃ layout inner, progress.Accounts layout inner ∧ layout.written ++ inner = text

namespace Parser

/-- A reading keeps its promise or ends at an unexpected token. -/
def Ensures {α : Type} (result : Except ParserFault α) (promise : α → Prop) : Prop :=
  match result with
  | .ok value => promise value
  | .error (.unexpected _) => True
  | .error (.invalidPart _) => False

theorem Ensures.map {α β : Type} {result : Except ParserFault α} {promise : α → Prop}
    {kept : β → Prop} {f : α → β} (ensures : Ensures result promise)
    (implies : ∀ value, promise value → kept (f value)) : Ensures (result.map f) kept := by
  rcases result with (fault | fault) | value
  · trivial
  · exact ensures
  · exact implies value ensures

/-- The second reading may rely on the promise of the first. -/
theorem Ensures.bind {α β : Type} {result : Except ParserFault α} {promise : α → Prop}
    {kept : β → Prop} {next : α → Except ParserFault β} (ensures : Ensures result promise)
    (continues : ∀ value, promise value → Ensures (next value) kept) :
    Ensures (result >>= next) kept := by
  rcases result with (fault | fault) | value
  · trivial
  · exact ensures
  · exact continues value ensures

theorem Ensures.ite {α : Type} {condition : Prop} [Decidable condition]
    {first second : Except ParserFault α} {promise : α → Prop}
    (holds : condition → Ensures first promise) (fails : ¬condition → Ensures second promise) :
    Ensures (if condition then first else second) promise := by
  split
  · exact holds ‹_›
  · exact fails ‹_›

theorem ensures_ok {α : Type} {value : α} {promise : α → Prop} (holds : promise value) :
    Ensures (.ok value) promise :=
  holds

/-- Refusing a token breaks no promise. -/
theorem ensures_refuse {α : Type} (token : Token) (cause : SyntaxCause) (promise : α → Prop) :
    Ensures (refuse token cause) promise :=
  trivial

/-! One spec for each reading function, over tokens that are proper for their kinds. -/

section Readings

variable {outer taken : Text} {kind : TokenKind} {draft : Draft} {name : Text}

/-- A name goes on with the draft. -/
theorem readName_ensures (isProper : Piece.IsProper (kind, taken))
    (wellFormed : draft.IsWellFormed outer) (position : Position) :
    Ensures (readName draft (Token.covering kind position taken))
      fun next => next.Follows outer (draft.leading ++ taken) := by
  refine .ite (fun isName => ?_) fun _ => ensures_refuse _ _ _
  cases isName
  cases isProper with
  | name isName => exact .named wellFormed isName

theorem readFirstName_ensures (isProper : Piece.IsProper (kind, taken))
    (wellFormed : draft.IsWellFormed outer) (position : Position) :
    Ensures (readFirstName draft (Token.covering kind position taken))
      fun next => next.Follows outer (draft.leading ++ taken) :=
  .ite (fun _ => ensures_refuse _ _ _) fun _ => readName_ensures isProper wellFormed position

/-- An operator has the symbol it was read from. -/
theorem ofSymbol_ensures {symbol : CodePoint} (isSymbol : symbol ∈ Operator.symbols) :
    Ensures (part (Operator.ofSymbol (some [symbol]))) fun operator =>
      operator.symbol = [symbol] := by
  obtain ⟨operator, sameSymbol⟩ := mem_symbols_iff.mp isSymbol
  rw [ofSymbol_of_symbol sameSymbol]
  exact sameSymbol

/-- A prefix length completes the variable. -/
theorem readLength_ensures (isProper : Piece.IsProper (kind, taken))
    (wellFormed : draft.IsWellFormed outer) (isName : IsName name) (position : Position) :
    Ensures (readLength draft name (Token.covering kind position taken))
      fun next => next.Follows outer (draft.leading ++ name ++ ":" ++ taken) := by
  by_cases isLength : kind = .number ∧ taken.head? ≠ some (CodePoint.ofChar '0') ∧
      taken.length ≤ SyntaxCause.maximumDigits
  · obtain ⟨rfl, headNeZero, short⟩ := isLength
    cases isProper with
    | number nonempty isDigit =>
        have leading : Numeral.IsLeading taken := ⟨nonempty, isDigit, headNeZero⟩
        have positive := Numeral.value_pos leading
        have written := Numeral.ofNat_value leading
        rw [← written] at short
        have bounded := (Numeral.length_ofNat_le_iff (by decide)).mp short
        have read := readLength_eq positive (Nat.le_of_lt_succ bounded) draft isName.ne_nil position
        rw [written] at read
        rw [read]
        have isWellFormed : Variable.IsWellFormed
            ⟨name, ⟨.cut, Numeral.value taken⟩, isName.ne_nil⟩ :=
          ⟨isName, .cut positive (Nat.le_of_lt_succ bounded)⟩
        have follows := ParserState.Follows.specified (wellFormed.add isWellFormed)
        rw [Draft.written_add] at follows
        refine ensures_ok ?_
        simpa [Variable.written, Modifier.written, Numeral.ofInt, written] using follows
  · unfold readLength
    refine .ite (fun _ => ensures_refuse _ _ _) fun isNumber => ?_
    refine .ite (fun _ => ensures_refuse _ _ _) fun headNeZero => ?_
    refine .ite (fun _ => ensures_refuse _ _ _) fun isShort => ?_
    exact absurd ⟨not_not.mp isNumber, headNeZero, Nat.not_lt.mp isShort⟩ isLength

end Readings

/-! One spec for each state, over the text of a layout and what follows it. -/

section States

variable {layout : Layout} {expressions : List Expression} {taken : Text} {kind : TokenKind}
  (layoutWellFormed : layout.IsWellFormed)
  (samePlaces : layout.placed Position.start = expressions)
  (isProper : Piece.IsProper (kind, taken))

include layoutWellFormed samePlaces

/-- The layout stays while an expression is read. -/
theorem accountsFor_of_follows {next : ParserState} {inner : Text}
    (follows : next.Follows layout.written (inner ++ taken)) :
    Progress.AccountsFor ⟨expressions, next⟩ (layout.written ++ inner ++ taken) :=
  ⟨layout, inner ++ taken, ⟨layoutWellFormed, samePlaces, follows⟩, (List.append_assoc _ _ _).symm⟩

include isProper

/-- A comma asks for a further variable, a closing brace completes the layout. -/
theorem readSeparator_ensures {draft : Draft} {reference : Variable}
    (wellFormed : (draft.add reference).IsWellFormed layout.written) :
    Ensures (readSeparator expressions (draft.add reference) (Token.covering kind
        (Position.start.after (layout.written ++ (draft.add reference).written)) taken))
      fun next => next.AccountsFor (layout.written ++ (draft.add reference).written ++ taken) := by
  refine .ite (fun isComma => ?_) fun _ => .ite (fun isBrace => ?_) fun _ => ensures_refuse _ _ _
  · cases isComma
    cases isProper with
    | comma =>
        have follows := ParserState.Follows.continuing wellFormed
        rw [Draft.leading_add] at follows
        exact ensures_ok (accountsFor_of_follows layoutWellFormed samePlaces follows)
  · cases isBrace
    cases isProper with
    | closeBrace =>
        let expression : Expression := ⟨draft.operator, (draft.add reference).references, none⟩
        have split : (draft.add reference).written ++ [Expression.closeBrace] =
          expression.written := rfl
        have isWellFormed : expression.IsWellFormed :=
          ⟨by simp [expression, Draft.add], wellFormed.references⟩
        have sameExpression : (draft.add reference).close (Span.covering
            (Position.start.after (layout.written ++ (draft.add reference).written))
            [Expression.closeBrace]) =
              expression.placedAt (Position.start.after layout.written) := by
          rw [Position.after_append, ← Draft.close_eq_placedAt split, ← wellFormed.openBrace]
          rfl
        refine ⟨layout.append (.single expression), [],
          ⟨layoutWellFormed.append (Layout.isWellFormed_single isWellFormed), ?_, .outside⟩, ?_⟩
        · rw [Layout.placed_append, samePlaces]
          exact congrArg (expressions ++ [·]) sameExpression.symm
        · rw [Layout.written_append, Layout.written_single, List.append_nil, List.append_assoc]
          rfl

/-- Outside braces, literal text and an opening brace are accounted for. -/
theorem step_outside_ensures :
    Ensures (step ⟨expressions, .outside⟩
        (Token.covering kind (Position.start.after (layout.written ++ [])) taken))
      fun next => next.AccountsFor (layout.written ++ [] ++ taken) := by
  refine .ite (fun isLiteral => ?_) fun _ => .ite (fun isBrace => ?_) fun _ =>
    ensures_refuse _ _ _
  · cases isLiteral
    cases isProper with
    | literal nonempty noBrace =>
        have literalWellFormed : (Layout.last taken).IsWellFormed := noBrace
        refine ensures_ok ⟨layout.append (.last taken), [],
          ⟨layoutWellFormed.append literalWellFormed, ?_, .outside⟩, ?_⟩
        · rw [Layout.placed_append, samePlaces]
          exact List.append_nil expressions
        · rw [Layout.written_append, List.append_nil, List.append_nil]
          rfl
  · cases isBrace
    cases isProper with
    | openBrace =>
        have wellFormed : Draft.IsWellFormed ⟨Span.covering (Position.start.after
            (layout.written ++ [])) [Expression.openBrace], .simple, []⟩ layout.written :=
          ⟨by rw [List.append_nil], by simp⟩
        exact ensures_ok (accountsFor_of_follows layoutWellFormed samePlaces (.opened wellFormed))

/-- Behind an opening brace, an operator and a name are accounted for. -/
theorem step_opened_ensures {openBrace : Span} (position : Position)
    (wellFormed : Draft.IsWellFormed ⟨openBrace, .simple, []⟩ layout.written) :
    Ensures (step ⟨expressions, .opened openBrace⟩ (Token.covering kind position taken))
      fun next => next.AccountsFor (layout.written ++ [Expression.openBrace] ++ taken) := by
  refine .ite (fun isOperator => ?_) fun _ => ?_
  · cases isOperator
    cases isProper with
    | @operator symbol isSymbol =>
        refine ((ofSymbol_ensures isSymbol).map fun operator sameSymbol => ?_).map
          fun next follows => accountsFor_of_follows layoutWellFormed samePlaces follows
        have listing : Draft.IsWellFormed ⟨openBrace, operator, []⟩ layout.written :=
          ⟨wellFormed.openBrace, by simp⟩
        have leading : Draft.leading ⟨openBrace, operator, []⟩ =
            [Expression.openBrace] ++ [symbol] := by
          simp [Draft.leading, Draft.written, sameSymbol, Text.join]
        exact leading ▸ .listing listing
  · exact (readFirstName_ensures isProper wellFormed position).map
      fun next follows => accountsFor_of_follows layoutWellFormed samePlaces follows

/-- Behind a name, a modifier, a comma and a closing brace are accounted for. -/
theorem step_named_ensures {draft : Draft} {name : Text}
    (wellFormed : draft.IsWellFormed layout.written) (isName : IsName name) :
    Ensures (step ⟨expressions, .named draft name⟩ (Token.covering kind
        (Position.start.after (layout.written ++ (draft.leading ++ name))) taken))
      fun next => next.AccountsFor (layout.written ++ (draft.leading ++ name) ++ taken) := by
  refine .ite (fun isStar => ?_) fun _ => .ite (fun isColon => ?_) fun _ => ?_
  · cases isStar
    cases isProper with
    | star =>
        have isWellFormed : Variable.IsWellFormed ⟨name, .explode, isName.ne_nil⟩ :=
          ⟨isName, .explode⟩
        have follows := ParserState.Follows.specified (wellFormed.add isWellFormed)
        rw [Draft.written_add, Variable.written, ← List.append_assoc] at follows
        have complete : specify draft name .explode = _ :=
          specify_eq draft ⟨name, .explode, isName.ne_nil⟩
        rw [complete]
        exact ensures_ok (accountsFor_of_follows layoutWellFormed samePlaces follows)
  · cases isColon
    cases isProper with
    | colon =>
        exact ensures_ok
          (accountsFor_of_follows layoutWellFormed samePlaces (.sizing wellFormed isName))
  · have isWellFormed : Variable.IsWellFormed ⟨name, .none, isName.ne_nil⟩ := ⟨isName, .none⟩
    have separated := readSeparator_ensures layoutWellFormed samePlaces isProper
      (wellFormed.add isWellFormed)
    have sameText : (draft.add ⟨name, .none, isName.ne_nil⟩).written = draft.leading ++ name := by
      rw [Draft.written_add, Variable.written]
      exact congrArg (draft.leading ++ ·) (List.append_nil name)
    have complete : specify draft name .none = _ := specify_eq draft ⟨name, .none, isName.ne_nil⟩
    rw [sameText] at separated
    rw [complete]
    exact separated

end States

/-- One token keeps the account of the text. -/
theorem step_ensures {progress : Progress} {text taken : Text} {kind : TokenKind}
    (isProper : Piece.IsProper (kind, taken)) (accounts : progress.AccountsFor text) :
    Ensures (step progress (Token.covering kind (Position.start.after text) taken))
      fun next => next.AccountsFor (text ++ taken) := by
  obtain ⟨layout, inner, ⟨layoutWellFormed, samePlaces, follows⟩, rfl⟩ := accounts
  rcases progress with ⟨expressions, state⟩
  have stays (next : ParserState) (follows : next.Follows layout.written (inner ++ taken)) :
      Progress.AccountsFor ⟨expressions, next⟩ (layout.written ++ inner ++ taken) :=
    accountsFor_of_follows layoutWellFormed samePlaces follows
  cases follows with
  | outside => exact step_outside_ensures layoutWellFormed samePlaces isProper
  | opened wellFormed =>
      exact step_opened_ensures layoutWellFormed samePlaces isProper _ wellFormed
  | listing wellFormed => exact (readFirstName_ensures isProper wellFormed _).map stays
  | continuing wellFormed => exact (readName_ensures isProper wellFormed _).map stays
  | named wellFormed isName =>
      exact step_named_ensures layoutWellFormed samePlaces isProper wellFormed isName
  | sizing wellFormed isName => exact (readLength_ensures isProper wellFormed isName _).map stays
  | specified wellFormed =>
      exact readSeparator_ensures layoutWellFormed samePlaces isProper wellFormed

/-- A run over proper pieces keeps the account of the text. -/
theorem run_ensures {pieces : List Piece} (areProper : ∀ piece ∈ pieces, piece.IsProper)
    {progress : Progress} {text : Text} (accounts : progress.AccountsFor text) :
    Ensures ((Piece.laid (Position.start.after text) pieces).foldlM step progress)
      fun next => next.AccountsFor (text ++ Piece.joined pieces) := by
  induction pieces generalizing progress text with
  | nil => exact ensures_ok (by rwa [Piece.joined_nil, List.append_nil])
  | cons piece rest inductionHypothesis =>
      have ⟨isProper, restProper⟩ := List.forall_mem_cons.mp areProper
      rw [Piece.laid, List.foldlM_cons, Piece.joined_cons, ← List.append_assoc,
        ← Position.after_append]
      exact (step_ensures isProper accounts).bind
        fun next nextAccounts => inductionHypothesis restProper nextAccounts

/-- The end of the text is unexpected unless a layout is complete. -/
theorem finish_ensures {progress : Progress} {text : Text} (accounts : progress.AccountsFor text)
    (position : Position) :
    Ensures (finish progress (Token.finishAt position)) fun expressions =>
      ∃ layout : Layout, layout.IsWellFormed ∧ layout.written = text ∧
        layout.placed Position.start = expressions := by
  obtain ⟨layout, inner, ⟨layoutWellFormed, samePlaces, follows⟩, rfl⟩ := accounts
  rcases progress with ⟨expressions, state⟩
  cases follows with
  | outside =>
      exact ensures_ok ⟨layout, layoutWellFormed, (List.append_nil _).symm, samePlaces⟩
  | @named draft name wellFormed isName =>
      have complete : specify draft name .none = _ :=
        specify_eq draft ⟨name, .none, isName.ne_nil⟩
      have refused : step ⟨expressions, .named draft name⟩ (Token.finishAt position) =
          readSeparator expressions (draft.add ⟨name, .none, isName.ne_nil⟩)
            (Token.finishAt position) := by
        simp [step, Token.finishAt, complete, bind, Except.bind]
      rw [finish, refused]
      trivial
  | _ => trivial

end Parser

namespace Template

/-- A text is the text of a layout and read as its template, or it is refused as malformed. -/
theorem parse_layout_or_malformed (source : Text) :
    (∃ layout : Layout, layout.IsWellFormed ∧ layout.written = source ∧
      parse source = .ok layout.template) ∨
    ∃ error, parse source = .error (.malformed error) := by
  rw [parse, Lexer.stream]
  cases cut : Lexer.tokensFrom .literal Position.start source with
  | error fault => exact .inr ⟨_, rfl⟩
  | ok tokens =>
      obtain ⟨pieces, rfl, rfl, areProper⟩ := Lexer.tile_of_tokensFrom cut
      have start : Progress.AccountsFor ⟨[], .outside⟩ [] :=
        ⟨.last [], [], ⟨List.not_mem_nil, rfl, .outside⟩, rfl⟩
      have ensured : Parser.Ensures (Parser.expressions ⟨Piece.laid Position.start pieces,
          Token.finishAt (Position.start.after (Piece.joined pieces))⟩) _ :=
        (Parser.run_ensures areProper start).bind
          fun next accounts => Parser.finish_ensures accounts _
      simp only [Except.map, parseTokens]
      split
      · rename_i expressions read
        rw [read] at ensured
        obtain ⟨layout, wellFormed, written, rfl⟩ := ensured
        refine .inl ⟨layout, wellFormed, written, ?_⟩
        rw [Layout.template, written]
        rfl
      · exact .inr ⟨_, rfl⟩
      · rename_i fault read
        rw [read] at ensured
        exact ensured.elim

/-- The templates are the layouts. -/
theorem parse_eq_ok_iff {source : Text} {template : Template} :
    parse source = .ok template ↔ ∃ layout : Layout, layout.IsWellFormed ∧
      layout.written = source ∧ layout.template = template := by
  constructor
  · intro accepted
    rcases parse_layout_or_malformed source with ⟨layout, wellFormed, written, read⟩ | ⟨_, refused⟩
    · exact ⟨layout, wellFormed, written, Except.ok.inj (read.symm.trans accepted)⟩
    · rw [refused] at accepted
      cases accepted
  · rintro ⟨layout, wellFormed, rfl, rfl⟩
    exact parse_written wellFormed

end Template

end UriTemplate
