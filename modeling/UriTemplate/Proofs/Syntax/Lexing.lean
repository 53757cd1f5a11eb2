import UriTemplate.Proofs.Syntax.Piece
import UriTemplate.Proofs.Text.Splitting

namespace UriTemplate

open Grammar

def Modifier.pieces (modifier : Modifier) : List Piece :=
  match modifier.kind with
  | .none => []
  | .explode => [(.star, "*")]
  | .cut => [(.colon, ":"), (.number, Numeral.ofInt modifier.length)]

def Variable.pieces (reference : Variable) : List Piece :=
  (.name, reference.name) :: reference.modifier.pieces

/-- The pieces of a variable list with commas between the variables. -/
def Variable.listPieces : List Variable → List Piece
  | [] => []
  | [reference] => reference.pieces
  | reference :: next :: rest =>
      reference.pieces ++ ((.comma, ",") : Piece) :: listPieces (next :: rest)

def Operator.pieces (operator : Operator) : List Piece :=
  if operator = .simple then [] else [(.operator, operator.symbol)]

def Expression.pieces (expression : Expression) : List Piece :=
  (.openBrace, [openBrace]) :: expression.operator.pieces ++
    Variable.listPieces expression.references ++ [(.closeBrace, [closeBrace])]

namespace Layout

/-- There is no piece for a literal text that is empty. -/
def literalPieces (literal : Text) : List Piece :=
  if literal = [] then [] else [(.literal, literal)]

def pieces : Layout → List Piece
  | last literal => literalPieces literal
  | before literal expression rest =>
      literalPieces literal ++ expression.pieces ++ rest.pieces

end Layout

namespace Lexer

/-- Outside braces a text is cut into pieces, wherever it stands. -/
def CutsOutside (text : Text) (pieces : List Piece) : Prop :=
  ∀ position, tokensFrom .literal position text = .ok (Piece.laid position pieces)

/-- Inside braces a text is cut into pieces, wherever it stands. -/
def CutsInside (place : Place) (text : Text) (pieces : List Piece) : Prop :=
  ∀ position openBrace,
    tokensFrom (.expression place openBrace) position text = .ok (Piece.laid position pieces)

/-- Literal text goes on up to a brace or to the end. -/
def StopsLiteral (text : Text) : Prop :=
  ∀ first ∈ text.head?, first = Expression.openBrace

theorem cutsOutside_nil : CutsOutside [] [] := by
  intro position
  rw [tokensFrom]
  rfl

/-- A literal text is one piece, or none if it is empty. -/
theorem CutsOutside.literal_append {literal rest : Text} {pieces : List Piece}
    (isLiteral : Expression.openBrace ∉ literal) (stops : StopsLiteral rest)
    (continued : CutsOutside rest pieces) :
    CutsOutside (literal ++ rest) (Layout.literalPieces literal ++ pieces) := by
  cases literal with
  | nil => exact continued
  | cons first others =>
      intro position
      have allLiteral : ∀ other ∈ others, Lexeme.isLiteral other = true := by
        intro other member
        have different : other ≠ Expression.openBrace := by
          rintro rfl
          exact isLiteral (List.mem_cons_of_mem _ member)
        simpa [Lexeme.isLiteral] using different
      have stopsHere : ∀ brace ∈ rest.head?, Lexeme.isLiteral brace = false := by
        intro brace isHead
        simp [Lexeme.isLiteral, stops brace isHead]
      have ⟨taken, left⟩ := Text.takeWhile_dropWhile_append allLiteral stopsHere
      have firstIsLiteral : first ≠ Expression.openBrace := by
        rintro rfl
        exact isLiteral List.mem_cons_self
      rw [List.cons_append, tokensFrom]
      simp only [firstIsLiteral, if_false, taken, left,
        continued (position.after (first :: others))]
      rfl

/-- An opening brace is a piece, and an operator may follow it. -/
theorem CutsInside.openBrace_cons {text : Text} {pieces : List Piece}
    (continued : CutsInside .opening text pieces) :
    CutsOutside (Expression.openBrace :: text)
      ((.openBrace, [Expression.openBrace]) :: pieces) := by
  intro position
  rw [tokensFrom, if_pos rfl]
  dsimp only
  rw [continued]
  rfl

/-- A piece that leaves the expression open. -/
theorem CutsInside.of_next {place next : Place} {first : CodePoint} {rest taken left : Text}
    {kind : TokenKind} {pieces : List Piece}
    (found : Cut.next place first rest = .ok ⟨kind, taken, left, next⟩)
    (staysInside : kind ≠ .closeBrace) (continued : CutsInside next left pieces) :
    CutsInside place (first :: rest) ((kind, taken) :: pieces) := by
  intro position openBrace
  rw [tokensFrom]
  split
  · rename_i refused
    rw [found] at refused
    cases refused
  · rename_i other same
    rw [found] at same
    cases same
    simp only [staysInside, if_false, continued (position.after taken) openBrace]
    rfl

/-- A closing brace is a piece, and literal text follows it. -/
theorem CutsOutside.closeBrace_cons {place : Place} {rest : Text} {pieces : List Piece}
    (continued : CutsOutside rest pieces) :
    CutsInside place (Expression.closeBrace :: rest)
      ((.closeBrace, [Expression.closeBrace]) :: pieces) := by
  intro position openBrace
  have found : Cut.next place Expression.closeBrace rest =
      .ok ⟨.closeBrace, [Expression.closeBrace], rest, .inside⟩ := by
    cases place <;> rfl
  rw [tokensFrom]
  split
  · rename_i refused
    rw [found] at refused
    cases refused
  · rename_i other same
    rw [found] at same
    cases same
    simp only [if_true, continued (position.after [Expression.closeBrace])]
    rfl

/-- Right behind the brace a symbol is an operator. -/
theorem CutsInside.operator_cons {symbol : CodePoint} {rest : Text} {pieces : List Piece}
    (isSymbol : symbol ∈ Operator.symbols) (continued : CutsInside .inside rest pieces) :
    CutsInside .opening (symbol :: rest) ((.operator, [symbol]) :: pieces) := by
  have found : Cut.next .opening symbol rest = .ok ⟨.operator, [symbol], rest, .inside⟩ := by
    simp [Cut.next, Cut.symbol, isSymbol]
  exact .of_next found (by decide) continued

theorem CutsInside.comma_cons {rest : Text} {pieces : List Piece}
    (continued : CutsInside .inside rest pieces) :
    CutsInside .inside (CodePoint.ofChar ',' :: rest) ((.comma, ",") :: pieces) := by
  have found : Cut.next .inside (CodePoint.ofChar ',') rest =
      .ok ⟨.comma, ",", rest, .inside⟩ := rfl
  exact .of_next found (by decide) continued

theorem CutsInside.star_cons {rest : Text} {pieces : List Piece}
    (continued : CutsInside .inside rest pieces) :
    CutsInside .inside (CodePoint.ofChar '*' :: rest) ((.star, "*") :: pieces) := by
  have found : Cut.next .inside (CodePoint.ofChar '*') rest = .ok ⟨.star, "*", rest, .inside⟩ := rfl
  exact .of_next found (by decide) continued

theorem CutsInside.colon_cons {rest : Text} {pieces : List Piece}
    (continued : CutsInside .afterColon rest pieces) :
    CutsInside .inside (CodePoint.ofChar ':' :: rest) ((.colon, ":") :: pieces) := by
  have found : Cut.next .inside (CodePoint.ofChar ':') rest =
      .ok ⟨.colon, ":", rest, .afterColon⟩ := rfl
  exact .of_next found (by decide) continued

/-- Digits behind a colon are a number up to the first other character. -/
theorem CutsInside.number_append {digits rest : Text} {pieces : List Piece}
    (nonempty : digits ≠ []) (allDigits : ∀ digit ∈ digits, digit.isDigit = true)
    (stops : ∀ first ∈ rest.head?, first.isDigit = false)
    (continued : CutsInside .inside rest pieces) :
    CutsInside .afterColon (digits ++ rest) ((.number, digits) :: pieces) := by
  have ⟨taken, left⟩ := Text.takeWhile_dropWhile_append allDigits stops
  have number : Cut.number (digits ++ rest) = .ok ⟨.number, digits, rest, .inside⟩ := by
    rw [Cut.number, taken, left]
  cases digits with
  | nil => exact absurd rfl nonempty
  | cons first others =>
      have isDigit := allDigits first List.mem_cons_self
      have found : Cut.next .afterColon first (others ++ rest) =
          .ok ⟨.number, first :: others, rest, .inside⟩ := by
        simpa [Cut.next, isDigit] using number
      exact .of_next found (by decide) continued

/-- No character that starts a name has another part in an expression. -/
theorem isOther_of_startsName {first : CodePoint} (starts : startsName first = true) :
    Operator.symbols.contains first = false ∧ Operator.futureSymbols.contains first = false ∧
      first ≠ Expression.closeBrace ∧ first ≠ CodePoint.ofChar ',' ∧
      first ≠ CodePoint.ofChar '*' ∧ first ≠ CodePoint.ofChar ':' := by
  have different {other : CodePoint} (isOther : startsName other = false) : first ≠ other := by
    rintro rfl
    exact Bool.false_ne_true (isOther.symm.trans starts)
  have absent {others : Text} (areOther : ∀ other ∈ others, startsName other = false) :
      others.contains first = false := by
    rw [List.contains_eq_mem, decide_eq_false_iff_not]
    exact fun member => different (areOther first member) rfl
  exact ⟨absent (by decide), absent (by decide), different (by decide), different (by decide),
    different (by decide), different (by decide)⟩

/-- A name is one piece. -/
theorem CutsInside.name_append {place : Place} {name rest : Text} {pieces : List Piece}
    (isNotAfterColon : place ≠ .afterColon) (isName : IsName name)
    (stops : Lexeme.StopsName rest) (continued : CutsInside .inside rest pieces) :
    CutsInside place (name ++ rest) ((.name, name) :: pieces) := by
  have reading := Lexeme.name_append_of_isName isName stops
  obtain ⟨first, others, rfl, starts⟩ := isName.exists_cons
  have ⟨noOperator, noFuture, noBrace, noComma, noStar, noColon⟩ := isOther_of_startsName starts
  have found : Cut.next place first (others ++ rest) =
      .ok ⟨.name, first :: others, rest, .inside⟩ := by
    rw [List.cons_append] at reading
    simp only [startsName] at starts
    simp only [Cut.next, noOperator, noFuture, noBrace, noComma, noStar, noColon, isNotAfterColon,
      starts, Cut.name, reading, Bool.and_false, Bool.false_and, decide_false, if_false, if_true,
      Bool.false_eq_true]
  exact .of_next found (by decide) continued

/-- What may follow a variable of an expression. -/
def StopsVariable (text : Text) : Prop :=
  ∃ first rest, text = first :: rest ∧
    (first = CodePoint.ofChar ',' ∨ first = Expression.closeBrace)

/-- What ends a variable ends its name. -/
theorem StopsVariable.stopsName {text : Text} (stops : StopsVariable text) :
    Lexeme.StopsName text := by
  obtain ⟨first, rest, rfl, rfl | rfl⟩ := stops
  · exact Lexeme.stopsName_cons (by decide) (by decide)
  · exact Lexeme.stopsName_cons (by decide) (by decide)

/-- What ends a variable ends its prefix length. -/
theorem StopsVariable.stopsNumber {text : Text} (stops : StopsVariable text) :
    ∀ first ∈ text.head?, first.isDigit = false := by
  obtain ⟨first, rest, rfl, rfl | rfl⟩ := stops
  · exact fun other isHead => by cases isHead; decide
  · exact fun other isHead => by cases isHead; decide

/-- A modifier is cut into its own pieces. -/
theorem CutsInside.modifier_append {modifier : Modifier} {rest : Text} {pieces : List Piece}
    (wellFormed : modifier.IsWellFormed) (stops : StopsVariable rest)
    (continued : CutsInside .inside rest pieces) :
    CutsInside .inside (modifier.written ++ rest) (modifier.pieces ++ pieces) := by
  cases wellFormed with
  | none => exact continued
  | explode => exact continued.star_cons
  | @cut length positive bounded =>
      have leading := Numeral.isLeading_ofNat positive
      exact (continued.number_append leading.nonempty leading.isDigit stops.stopsNumber).colon_cons

/-- A modifier ends the name in front of it. -/
theorem stopsName_modifier_append {modifier : Modifier} {rest : Text}
    (wellFormed : modifier.IsWellFormed) (stops : StopsVariable rest) :
    Lexeme.StopsName (modifier.written ++ rest) := by
  cases wellFormed with
  | none => exact stops.stopsName
  | explode => exact Lexeme.stopsName_cons (by decide) (by decide)
  | cut positive bounded => exact Lexeme.stopsName_cons (by decide) (by decide)

/-- A variable is cut into its name and its modifier. -/
theorem CutsInside.variable_append {place : Place} {reference : Variable} {rest : Text}
    {pieces : List Piece} (isNotAfterColon : place ≠ .afterColon)
    (wellFormed : reference.IsWellFormed) (stops : StopsVariable rest)
    (continued : CutsInside .inside rest pieces) :
    CutsInside place (reference.written ++ rest) (reference.pieces ++ pieces) := by
  have behindName := continued.modifier_append wellFormed.modifier stops
  rw [Variable.written, List.append_assoc]
  exact behindName.name_append isNotAfterColon wellFormed.name
    (stopsName_modifier_append wellFormed.modifier stops)

/-- Variables are cut at the commas between them. -/
theorem CutsInside.list_append {place : Place} {references : List Variable} {rest : Text}
    {pieces : List Piece} (isNotAfterColon : place ≠ .afterColon) (nonempty : references ≠ [])
    (wellFormed : ∀ reference ∈ references, reference.IsWellFormed)
    (stops : StopsVariable rest) (continued : CutsInside .inside rest pieces) :
    CutsInside place (Text.join "," (references.map Variable.written) ++ rest)
      (Variable.listPieces references ++ pieces) := by
  induction references using Variable.listPieces.induct generalizing place with
  | case1 => exact absurd rfl nonempty
  | case2 reference =>
      simpa [Text.join, Variable.listPieces] using
        continued.variable_append isNotAfterColon (wellFormed reference (by simp)) stops
  | case3 reference next others inductionHypothesis =>
      have others := inductionHypothesis (by decide : Place.inside ≠ .afterColon) (by simp)
        fun other member => wellFormed other (List.mem_cons_of_mem _ member)
      have first := others.comma_cons.variable_append isNotAfterColon
        (wellFormed reference List.mem_cons_self) ⟨_, _, rfl, .inl rfl⟩
      rw [List.map_cons, Text.join_cons _ _ (by simp), Variable.listPieces]
      simp only [List.append_assoc]
      exact first

/-- An expression is cut into braces, operator and variables. -/
theorem CutsOutside.expression_append {expression : Expression} {rest : Text}
    {pieces : List Piece} (wellFormed : expression.IsWellFormed)
    (continued : CutsOutside rest pieces) :
    CutsOutside (expression.written ++ rest) (expression.pieces ++ pieces) := by
  have closing : CutsInside .inside (Expression.closeBrace :: rest)
      ((.closeBrace, [Expression.closeBrace]) :: pieces) := continued.closeBrace_cons
  have stops : StopsVariable (Expression.closeBrace :: rest) := ⟨_, _, rfl, .inr rfl⟩
  have list {place : Place} (isNotAfterColon : place ≠ .afterColon) :=
    closing.list_append isNotAfterColon wellFormed.nonempty wellFormed.references stops
  by_cases isSimple : expression.operator = .simple
  · have opened := (list (by decide : Place.opening ≠ .afterColon)).openBrace_cons
    have noSymbol : Operator.simple.symbol = [] := rfl
    simpa [Expression.written, Expression.pieces, isSimple, Operator.pieces, noSymbol] using opened
  · obtain ⟨symbol, sameSymbol⟩ := Operator.exists_symbol isSimple
    have isSymbol : symbol ∈ Operator.symbols := mem_symbols_iff.mpr ⟨_, sameSymbol⟩
    have opened := ((list (by decide : Place.inside ≠ .afterColon)).operator_cons
      isSymbol).openBrace_cons
    simpa [Expression.written, Expression.pieces, isSimple, Operator.pieces, sameSymbol]
      using opened

/-- The text of a well-formed layout is cut into the pieces of the layout. -/
theorem cutsOutside_layout {layout : Layout} (wellFormed : layout.IsWellFormed) :
    CutsOutside layout.written layout.pieces := by
  induction layout with
  | last literal =>
      have stops : StopsLiteral [] := fun first isHead => nomatch isHead
      simpa [Layout.written, Layout.pieces] using
        cutsOutside_nil.literal_append wellFormed stops
  | before literal expression rest inductionHypothesis =>
      obtain ⟨isLiteral, expressionWellFormed, restWellFormed⟩ := wellFormed
      have behind := (inductionHypothesis restWellFormed).expression_append expressionWellFormed
      have stops : StopsLiteral (expression.written ++ rest.written) := by
        intro first isHead
        cases isHead
        rfl
      simpa only [Layout.written, Layout.pieces, List.append_assoc] using
        behind.literal_append isLiteral stops

end Lexer

end UriTemplate
