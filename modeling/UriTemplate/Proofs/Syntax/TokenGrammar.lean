import UriTemplate.Proofs.Syntax.Piece

namespace UriTemplate

/-- What operators, names and numbers hold, wherever they come from. -/
structure Token.IsSound (token : Token) : Prop where
  operator : token.kind = .operator → ∃ symbol ∈ Operator.symbols, token.value = some [symbol]
  name : token.kind = .name → ∃ name, name ≠ [] ∧ token.value = some name
  number : token.kind = .number → ∃ digits, digits ≠ [] ∧
    (∀ digit ∈ digits, digit.isDigit = true) ∧ token.value = some digits

/-- A proper piece is a sound token wherever it stands. -/
theorem Piece.IsProper.isSound {kind : TokenKind} {taken : Text}
    (isProper : Piece.IsProper (kind, taken)) (position : Position) :
    (Token.covering kind position taken).IsSound where
  operator isOperator := by
    cases isOperator
    cases isProper with
    | operator isSymbol => exact ⟨_, isSymbol, rfl⟩
  name isName := by
    cases isName
    cases isProper with
    | name isName => exact ⟨taken, isName.ne_nil, rfl⟩
  number isNumber := by
    cases isNumber
    cases isProper with
    | number nonempty isDigit => exact ⟨taken, nonempty, isDigit, rfl⟩

namespace TokenGrammar

/-- A name, and behind it a star or a colon with the digits of a length. -/
inductive IsSpec : List Token → Prop
  | plain {name : Token} (isName : name.kind = .name) : IsSpec [name]
  | exploded {name star : Token} (isName : name.kind = .name) (isStar : star.kind = .star) :
      IsSpec [name, star]
  | cut {name colon number : Token} {digits : Text} (isName : name.kind = .name)
      (isColon : colon.kind = .colon) (isNumber : number.kind = .number)
      (hasDigits : number.value = some digits) (isMaxLength : Grammar.IsMaxLength digits) :
      IsSpec [name, colon, number]

inductive IsSpecList : List Token → Prop
  | single {spec : List Token} (isSpec : IsSpec spec) : IsSpecList spec
  | cons {spec rest : List Token} {comma : Token} (isSpec : IsSpec spec)
      (isComma : comma.kind = .comma) (isList : IsSpecList rest) :
      IsSpecList (spec ++ comma :: rest)

inductive IsExpression : List Token → Prop
  | plain {openBrace closeBrace : Token} {specs : List Token}
      (opens : openBrace.kind = .openBrace) (isList : IsSpecList specs)
      (closes : closeBrace.kind = .closeBrace) : IsExpression (openBrace :: specs ++ [closeBrace])
  | operated {openBrace operator closeBrace : Token} {specs : List Token}
      (opens : openBrace.kind = .openBrace) (isOperator : operator.kind = .operator)
      (isList : IsSpecList specs) (closes : closeBrace.kind = .closeBrace) :
      IsExpression (openBrace :: operator :: specs ++ [closeBrace])

inductive IsTemplate : List Token → Prop
  | empty : IsTemplate []
  | literal {literal : Token} {rest : List Token} (isLiteral : literal.kind = .literal)
      (isTemplate : IsTemplate rest) : IsTemplate (literal :: rest)
  | expression {expression rest : List Token} (isExpression : IsExpression expression)
      (isTemplate : IsTemplate rest) : IsTemplate (expression ++ rest)

/-- The tokens in front of the first finish form a template. -/
def IsAccepted (tokens : List Token) : Prop :=
  ∃ body finish rest, tokens = body ++ finish :: rest ∧ finish.kind = .finish ∧ IsTemplate body

/-- Some sound tokens continue these ones to an accepted sequence. -/
def IsViable (tokens : List Token) : Prop :=
  ∃ rest, (∀ token ∈ rest, token.IsSound) ∧ IsAccepted (tokens ++ rest)

/-- Templates can be put one behind the other. -/
theorem IsTemplate.append {first second : List Token} (isFirst : IsTemplate first)
    (isSecond : IsTemplate second) : IsTemplate (first ++ second) := by
  induction isFirst with
  | empty => exact isSecond
  | literal isLiteral _ inductionHypothesis => exact .literal isLiteral inductionHypothesis
  | expression isExpression _ inductionHypothesis =>
      rw [List.append_assoc]
      exact .expression isExpression inductionHypothesis

/-- An expression is a template. -/
theorem isTemplate_of_isExpression {tokens : List Token} (isExpression : IsExpression tokens) :
    IsTemplate tokens := by
  rw [← List.append_nil tokens]
  exact .expression isExpression .empty

/-! No rule derives a finish, so the first finish ends what is derived. -/

theorem IsSpec.kind_ne_finish {spec : List Token} (isSpec : IsSpec spec) :
    ∀ token ∈ spec, token.kind ≠ .finish := by
  cases isSpec with
  | plain isName => simp [isName]
  | exploded isName isStar => simp [isName, isStar]
  | cut isName isColon isNumber => simp [isName, isColon, isNumber]

theorem IsSpecList.kind_ne_finish {specs : List Token} (isList : IsSpecList specs) :
    ∀ token ∈ specs, token.kind ≠ .finish := by
  induction isList with
  | single isSpec => exact isSpec.kind_ne_finish
  | cons isSpec isComma _ inductionHypothesis =>
      refine List.forall_mem_append.mpr ⟨isSpec.kind_ne_finish, ?_⟩
      exact List.forall_mem_cons.mpr ⟨by simp [isComma], inductionHypothesis⟩

theorem IsExpression.kind_ne_finish {tokens : List Token} (isExpression : IsExpression tokens) :
    ∀ token ∈ tokens, token.kind ≠ .finish := by
  cases isExpression with
  | plain opens isList closes =>
      have listed := isList.kind_ne_finish
      simpa [opens, closes, List.forall_mem_append, or_imp, forall_and] using listed
  | operated opens isOperator isList closes =>
      have listed := isList.kind_ne_finish
      simpa [opens, closes, isOperator, List.forall_mem_append, or_imp, forall_and] using listed

/-- No template holds the end of the tokens. -/
theorem IsTemplate.kind_ne_finish {tokens : List Token} (isTemplate : IsTemplate tokens) :
    ∀ token ∈ tokens, token.kind ≠ .finish := by
  induction isTemplate with
  | empty => exact fun token member => absurd member List.not_mem_nil
  | literal isLiteral _ inductionHypothesis =>
      exact List.forall_mem_cons.mpr ⟨by simp [isLiteral], inductionHypothesis⟩
  | expression isExpression _ inductionHypothesis =>
      exact List.forall_mem_append.mpr ⟨isExpression.kind_ne_finish, inductionHypothesis⟩

end TokenGrammar

namespace TokenStream

/-- The first end among the tokens ends the stream. -/
theorem ofList?_append_cons {body rest : List Token} {finish : Token}
    (noFinish : ∀ token ∈ body, token.kind ≠ .finish) (isFinish : finish.kind = .finish) :
    ofList? (body ++ finish :: rest) = some ⟨body, finish⟩ := by
  induction body with
  | nil => exact if_pos isFinish
  | cons first others inductionHypothesis =>
      have ⟨firstIsNone, othersAreNone⟩ := List.forall_mem_cons.mp noFinish
      rw [List.cons_append, ofList?, if_neg firstIsNone, inductionHypothesis othersAreNone]
      rfl

/-- A stream consists of the tokens up to the first finish. -/
theorem ofList?_eq_some_iff {tokens : List Token} {stream : TokenStream} :
    ofList? tokens = some stream ↔
      (∃ rest, tokens = stream.body ++ stream.finish :: rest) ∧
        stream.finish.kind = .finish ∧ ∀ token ∈ stream.body, token.kind ≠ .finish := by
  constructor
  · intro found
    induction tokens generalizing stream with
    | nil => cases found
    | cons first others inductionHypothesis =>
        rw [ofList?] at found
        split at found
        · rename_i isFinish
          cases found
          exact ⟨⟨others, rfl⟩, isFinish, fun token member => absurd member List.not_mem_nil⟩
        · rename_i isNoFinish
          obtain ⟨inner, foundInner, rfl⟩ := Option.map_eq_some_iff.mp found
          obtain ⟨⟨rest, rfl⟩, isFinish, noFinish⟩ := inductionHypothesis foundInner
          exact ⟨⟨rest, rfl⟩, isFinish, List.forall_mem_cons.mpr ⟨isNoFinish, noFinish⟩⟩
  · rintro ⟨⟨rest, rfl⟩, isFinish, noFinish⟩
    exact ofList?_append_cons noFinish isFinish

/-- A list that ends with the end of the tokens holds a stream. -/
theorem exists_ofList? (front : List Token) {last : Token} (isFinish : last.kind = .finish) :
    ∃ stream, ofList? (front ++ [last]) = some stream := by
  induction front with
  | nil => exact ⟨⟨[], last⟩, if_pos isFinish⟩
  | cons first others inductionHypothesis =>
      obtain ⟨stream, found⟩ := inductionHypothesis
      rw [List.cons_append, ofList?, found]
      split
      · exact ⟨_, rfl⟩
      · exact ⟨_, rfl⟩

end TokenStream

namespace TokenGrammar

/-- A list is accepted if what is in front of its first end is a template. -/
theorem isAccepted_iff {tokens : List Token} {stream : TokenStream}
    (found : TokenStream.ofList? tokens = some stream) :
    IsAccepted tokens ↔ IsTemplate stream.body := by
  constructor
  · rintro ⟨body, finish, rest, rfl, isFinish, isTemplate⟩
    rw [TokenStream.ofList?_append_cons isTemplate.kind_ne_finish isFinish] at found
    exact Option.some.inj found ▸ isTemplate
  · obtain ⟨⟨rest, rfl⟩, isFinish, -⟩ := TokenStream.ofList?_eq_some_iff.mp found
    exact fun isTemplate => ⟨stream.body, stream.finish, rest, rfl, isFinish, isTemplate⟩

/-! The tokens of an expression that is still open. -/

/-- The tokens in front of a variable. -/
inductive IsLead : List Token → Prop
  | opened {openBrace : Token} (opens : openBrace.kind = .openBrace) : IsLead [openBrace]
  | operated {openBrace operator : Token} (opens : openBrace.kind = .openBrace)
      (isOperator : operator.kind = .operator) : IsLead [openBrace, operator]
  | listed {lead spec : List Token} {comma : Token} (isLead : IsLead lead) (isSpec : IsSpec spec)
      (isComma : comma.kind = .comma) : IsLead (lead ++ spec ++ [comma])

/-- A last list of variables and a closing brace complete an expression. -/
theorem IsLead.isExpression {lead specs : List Token} {closeBrace : Token} (isLead : IsLead lead)
    (isList : IsSpecList specs) (closes : closeBrace.kind = .closeBrace) :
    IsExpression (lead ++ specs ++ [closeBrace]) := by
  -- The list grows at its front, by the variables that the lead has before it.
  induction isLead generalizing specs with
  | opened opens => exact .plain opens isList closes
  | operated opens isOperator => exact .operated opens isOperator isList closes
  | @listed lead spec comma isLead isSpec isComma inductionHypothesis =>
      have whole := inductionHypothesis (.cons isSpec isComma isList)
      simpa only [List.append_assoc, List.singleton_append] using whole

theorem IsLead.kind_ne_finish {lead : List Token} (isLead : IsLead lead) :
    ∀ token ∈ lead, token.kind ≠ .finish := by
  induction isLead with
  | opened opens => simp [opens]
  | operated opens isOperator => simp [opens, isOperator]
  | listed isLead isSpec isComma inductionHypothesis =>
      have before := List.forall_mem_append.mpr ⟨inductionHypothesis, isSpec.kind_ne_finish⟩
      exact List.forall_mem_append.mpr ⟨before, by simp [isComma]⟩

end TokenGrammar

end UriTemplate
