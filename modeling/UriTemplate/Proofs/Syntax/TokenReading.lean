import UriTemplate.Proofs.Syntax.ParserRun
import UriTemplate.Proofs.Syntax.TokenGrammar

namespace UriTemplate

open TokenGrammar

/-- Up to four digits without a leading zero are a length of the grammar. -/
theorem Grammar.isMaxLength_of_isLeading {digits : Text} (leading : Numeral.IsLeading digits)
    (short : digits.length ≤ 4) : IsMaxLength digits := by
  have written := Numeral.ofNat_value leading
  rw [← written] at short
  have bounded := (Numeral.length_ofNat_le_iff (by decide)).mp short
  exact isMaxLength_iff.mpr
    ⟨Numeral.value digits, Numeral.value_pos leading, Nat.le_of_lt_succ bounded, written⟩

/-- The tokens that were read since the last expression ended, in each state. -/
inductive ParserState.HasRead : ParserState → List Token → Prop
  | outside : HasRead .outside []
  | opened {openBrace : Token} {span : Span} (opens : openBrace.kind = .openBrace) :
      HasRead (.opened span) [openBrace]
  | listing {draft : Draft} {lead : List Token} (isLead : IsLead lead) :
      HasRead (.listing draft) lead
  | continuing {draft : Draft} {lead : List Token} (isLead : IsLead lead) :
      HasRead (.continuing draft) lead
  | named {draft : Draft} {lead : List Token} {token : Token} {name : Text}
      (isLead : IsLead lead) (isName : token.kind = .name) (nonempty : name ≠ []) :
      HasRead (.named draft name) (lead ++ [token])
  | sizing {draft : Draft} {lead : List Token} {token colon : Token} {name : Text}
      (isLead : IsLead lead) (isName : token.kind = .name) (nonempty : name ≠ [])
      (isColon : colon.kind = .colon) : HasRead (.sizing draft name) (lead ++ [token, colon])
  | specified {draft : Draft} {lead spec : List Token} (isLead : IsLead lead)
      (isSpec : IsSpec spec) : HasRead (.specified draft) (lead ++ spec)

/-- The tokens that were read are a template and those of an open expression. -/
def Progress.HasRead (progress : Progress) (tokens : List Token) : Prop :=
  ∃ outer inner, tokens = outer ++ inner ∧ IsTemplate outer ∧ progress.state.HasRead inner

namespace Parser

/-- A reading keeps its promise or reports the token it was given. -/
def Settles {α : Type} (token : Token) (result : Except ParserFault α) (promise : α → Prop) :
    Prop :=
  match result with
  | .ok value => promise value
  | .error (.unexpected fault) => fault.span = token.span
  | .error (.invalidPart _) => False

section Settles

variable {α β : Type} {token : Token} {result : Except ParserFault α} {promise : α → Prop}
  {kept : β → Prop}

/-- Refusing a token reports it. -/
theorem settles_refuse (token : Token) (cause : SyntaxCause) (promise : α → Prop) :
    Settles token (refuse token cause) promise :=
  rfl

theorem Settles.map {f : α → β} (settles : Settles token result promise)
    (implies : ∀ value, promise value → kept (f value)) : Settles token (result.map f) kept := by
  rcases result with (fault | fault) | value
  · exact settles
  · exact settles
  · exact implies value settles

/-- The second reading may rely on the promise of the first. -/
theorem Settles.bind {next : α → Except ParserFault β} (settles : Settles token result promise)
    (continues : ∀ value, promise value → Settles token (next value) kept) :
    Settles token (result >>= next) kept := by
  rcases result with (fault | fault) | value
  · exact settles
  · exact settles
  · exact continues value settles

theorem Settles.ite {condition : Prop} [Decidable condition]
    {first second : Except ParserFault α} (holds : condition → Settles token first promise)
    (fails : ¬condition → Settles token second promise) :
    Settles token (if condition then first else second) promise := by
  split
  · exact holds ‹_›
  · exact fails ‹_›

end Settles

/-! One spec for each reading function, over sound tokens. -/

section Readings

variable {token : Token} {draft : Draft} {lead : List Token} (isSound : token.IsSound)
  (isLead : IsLead lead)

include isSound isLead

/-- A name is read, or its token is reported. -/
theorem readName_settles :
    Settles token (readName draft token) fun next => next.HasRead (lead ++ [token]) := by
  refine .ite (fun isName => ?_) fun _ => settles_refuse _ _ _
  obtain ⟨name, nonempty, value⟩ := isSound.name isName
  rw [value]
  exact .named isLead isName nonempty

theorem readFirstName_settles :
    Settles token (readFirstName draft token) fun next => next.HasRead (lead ++ [token]) :=
  .ite (fun _ => settles_refuse _ _ _) fun _ => readName_settles isSound isLead

/-- A prefix length is read, or its token is reported. -/
theorem readLength_settles {name : Text} {nameToken colon : Token}
    (isName : nameToken.kind = .name) (nonempty : name ≠ []) (isColon : colon.kind = .colon) :
    Settles token (readLength draft name token)
      fun next => next.HasRead (lead ++ [nameToken, colon] ++ [token]) := by
  by_cases isLength : token.kind = .number ∧ ∃ digits, token.value = some digits ∧
      Grammar.IsMaxLength digits
  · obtain ⟨isNumber, digits, hasDigits, isMaxLength⟩ := isLength
    obtain ⟨length, positive, bounded, rfl⟩ := Grammar.isMaxLength_iff.mp isMaxLength
    rw [readLength_of_value positive bounded draft nonempty isNumber hasDigits]
    rw [List.append_assoc]
    exact .specified isLead (.cut isName isColon isNumber hasDigits isMaxLength)
  · refine .ite (fun _ => settles_refuse _ _ _) fun isNumber => ?_
    refine .ite (fun _ => settles_refuse _ _ _) fun headNeZero => ?_
    refine .ite (fun _ => settles_refuse _ _ _) fun isShort => ?_
    obtain ⟨digits, hasDigit, isDigit, value⟩ := isSound.number (not_not.mp isNumber)
    rw [value, Option.getD_some] at headNeZero isShort
    have isMaxLength := Grammar.isMaxLength_of_isLeading ⟨hasDigit, isDigit, headNeZero⟩
      (Nat.not_lt.mp isShort)
    exact absurd ⟨not_not.mp isNumber, digits, value, isMaxLength⟩ isLength

end Readings

/-- The token of an operator is read. -/
theorem ofSymbol_settles {token : Token} (isSound : token.IsSound)
    (isOperator : token.kind = .operator) :
    Settles token (part (Operator.ofSymbol token.value)) fun _ => True := by
  obtain ⟨symbol, isSymbol, value⟩ := isSound.operator isOperator
  obtain ⟨operator, sameSymbol⟩ := Grammar.mem_symbols_iff.mp isSymbol
  rw [value, ofSymbol_of_symbol sameSymbol]
  trivial

/-! One spec for each state, behind the tokens of a template. -/

section States

variable {token : Token} {outer : List Token} {expressions : List Expression}
  (isTemplate : IsTemplate outer)

include isTemplate

/-- The tokens of an open expression stand behind those of the template in front. -/
theorem hasRead_append {state : ParserState} {inner : List Token} (read : state.HasRead inner) :
    Progress.HasRead ⟨expressions, state⟩ (outer ++ inner) :=
  ⟨outer, inner, rfl, isTemplate, read⟩

/-- Outside braces a token is read or reported. -/
theorem step_outside_settles :
    Settles token (step ⟨expressions, .outside⟩ token)
      fun next => next.HasRead (outer ++ [token]) := by
  refine .ite (fun isLiteral => ?_) fun _ => .ite (fun opens => ?_) fun _ => settles_refuse _ _ _
  · have literal : IsTemplate [token] := .literal isLiteral .empty
    exact ⟨outer ++ [token], [], (List.append_nil _).symm, isTemplate.append literal, .outside⟩
  · exact hasRead_append isTemplate (.opened opens)

/-- A comma asks for a further variable, a closing brace completes the template. -/
theorem readSeparator_settles {draft : Draft} {lead spec : List Token} (isLead : IsLead lead)
    (isSpec : IsSpec spec) :
    Settles token (readSeparator expressions draft token)
      fun next => next.HasRead (outer ++ (lead ++ spec) ++ [token]) := by
  refine .ite (fun isComma => ?_) fun _ => .ite (fun closes => ?_) fun _ => settles_refuse _ _ _
  · rw [List.append_assoc]
    exact hasRead_append isTemplate (.continuing (isLead.listed isSpec isComma))
  · have completed := isLead.isExpression (.single isSpec) closes
    refine ⟨outer ++ (lead ++ spec ++ [token]), [], ?_, ?_, .outside⟩
    · rw [List.append_nil, List.append_assoc]
    · exact isTemplate.append (isTemplate_of_isExpression completed)

/-- Behind a name a token is read or reported. -/
theorem step_named_settles {draft : Draft} {lead : List Token} {nameToken : Token} {name : Text}
    (isLead : IsLead lead) (isName : nameToken.kind = .name) (nonempty : name ≠ []) :
    Settles token (step ⟨expressions, .named draft name⟩ token)
      fun next => next.HasRead (outer ++ (lead ++ [nameToken]) ++ [token]) := by
  have specified (modifier : Modifier) : specify draft name modifier = _ :=
    specify_eq draft ⟨name, modifier, nonempty⟩
  refine .ite (fun isStar => ?_) fun _ => .ite (fun isColon => ?_) fun _ => ?_
  · have exploded : IsSpec [nameToken, token] := .exploded isName isStar
    rw [specified, List.append_assoc, List.append_assoc]
    exact hasRead_append isTemplate (.specified isLead exploded)
  · rw [List.append_assoc, List.append_assoc]
    exact hasRead_append isTemplate (.sizing isLead isName nonempty isColon)
  · rw [specified]
    exact readSeparator_settles isTemplate isLead (.plain isName)

end States

/-- One token keeps the account of the tokens, or is reported. -/
theorem step_settles {progress : Progress} {tokens : List Token} {token : Token}
    (isSound : token.IsSound) (read : progress.HasRead tokens) :
    Settles token (step progress token) fun next => next.HasRead (tokens ++ [token]) := by
  obtain ⟨outer, inner, rfl, isTemplate, readInner⟩ := read
  rcases progress with ⟨expressions, state⟩
  have stays (next : ParserState) (readNext : next.HasRead (inner ++ [token])) :
      Progress.HasRead ⟨expressions, next⟩ (outer ++ inner ++ [token]) := by
    rw [List.append_assoc]
    exact hasRead_append isTemplate readNext
  cases readInner with
  | outside =>
      rw [List.append_nil]
      exact step_outside_settles isTemplate
  | opened opens =>
      refine .ite (fun isOperator => ?_) fun _ => ?_
      · refine ((ofSymbol_settles isSound isOperator).map fun operator _ => ?_).map stays
        exact .listing (.operated opens isOperator)
      · exact (readFirstName_settles isSound (.opened opens)).map stays
  | listing isLead => exact (readFirstName_settles isSound isLead).map stays
  | continuing isLead => exact (readName_settles isSound isLead).map stays
  | named isLead isName nonempty => exact step_named_settles isTemplate isLead isName nonempty
  | sizing isLead isName nonempty isColon =>
      exact (readLength_settles isSound isLead isName nonempty isColon).map stays
  | specified isLead isSpec => exact readSeparator_settles isTemplate isLead isSpec

/-- What was read holds no finish, so a finish is never read. -/
theorem hasRead_kind_ne_finish {progress : Progress} {tokens : List Token}
    (read : progress.HasRead tokens) : ∀ token ∈ tokens, token.kind ≠ .finish := by
  rcases progress with ⟨expressions, state⟩
  obtain ⟨outer, inner, rfl, isTemplate, readInner⟩ := read
  refine List.forall_mem_append.mpr ⟨isTemplate.kind_ne_finish, ?_⟩
  cases readInner with
  | outside => simp
  | opened opens => simp [opens]
  | listing isLead => exact isLead.kind_ne_finish
  | continuing isLead => exact isLead.kind_ne_finish
  | named isLead isName =>
      exact List.forall_mem_append.mpr ⟨isLead.kind_ne_finish, by simp [isName]⟩
  | sizing isLead isName _ isColon =>
      exact List.forall_mem_append.mpr ⟨isLead.kind_ne_finish, by simp [isName, isColon]⟩
  | specified isLead isSpec =>
      exact List.forall_mem_append.mpr ⟨isLead.kind_ne_finish, isSpec.kind_ne_finish⟩

/-! Every derived sequence is read to its end. -/

/-- The tokens of a variable are read. -/
theorem reaches_spec {state : ParserState} {draft : Draft} (awaits : Awaits state draft)
    {spec : List Token} (isSpec : IsSpec spec) (areSound : ∀ token ∈ spec, token.IsSound)
    (expressions : List Expression) :
    ∃ next specified, Completes next specified ∧
      Reaches ⟨expressions, state⟩ spec ⟨expressions, next⟩ := by
  have named {token : Token} (member : token ∈ spec) (isName : token.kind = .name) :
      ∃ name, name ≠ [] ∧
        step ⟨expressions, state⟩ token = .ok ⟨expressions, .named draft name⟩ := by
    obtain ⟨name, nonempty, value⟩ := (areSound token member).name isName
    exact ⟨name, nonempty, step_name_of_value awaits expressions isName value⟩
  cases isSpec with
  | plain isName =>
      obtain ⟨name, nonempty, first⟩ := named List.mem_cons_self isName
      exact ⟨_, _, .named draft ⟨name, .none, nonempty⟩ rfl, .cons first (.nil _)⟩
  | @exploded nameToken star isName isStar =>
      obtain ⟨name, nonempty, first⟩ := named List.mem_cons_self isName
      have complete : specify draft name .explode =
          .ok (draft.add ⟨name, .explode, nonempty⟩) := specify_eq draft ⟨name, _, nonempty⟩
      have exploded : step ⟨expressions, .named draft name⟩ star =
          .ok ⟨expressions, .specified (draft.add ⟨name, .explode, nonempty⟩)⟩ := by
        simp [step, isStar, complete, Except.map]
      exact ⟨_, _, .specified _, .cons first (.cons exploded (.nil _))⟩
  | @cut nameToken colon number digits isName isColon isNumber hasDigits isMaxLength =>
      obtain ⟨name, nonempty, first⟩ := named List.mem_cons_self isName
      obtain ⟨length, positive, bounded, rfl⟩ := Grammar.isMaxLength_iff.mp isMaxLength
      have sizing : step ⟨expressions, .named draft name⟩ colon =
          .ok ⟨expressions, .sizing draft name⟩ := by
        simp [step, isColon, Except.map]
      have sized : step ⟨expressions, .sizing draft name⟩ number =
          .ok ⟨expressions, .specified (draft.add ⟨name, ⟨.cut, length⟩, nonempty⟩)⟩ := by
        simp [step, readLength_of_value positive bounded draft nonempty isNumber hasDigits,
          Except.map]
      exact ⟨_, _, .specified _, .cons first (.cons sizing (.cons sized (.nil _)))⟩

theorem reaches_specs {state : ParserState} {draft : Draft} (awaits : Awaits state draft)
    {specs : List Token} (isList : IsSpecList specs) (areSound : ∀ token ∈ specs, token.IsSound)
    (expressions : List Expression) :
    ∃ next specified, Completes next specified ∧
      Reaches ⟨expressions, state⟩ specs ⟨expressions, next⟩ := by
  induction isList generalizing state draft with
  | single isSpec => exact reaches_spec awaits isSpec areSound expressions
  | @cons spec rest comma isSpec isComma isList inductionHypothesis =>
      have ⟨specSound, othersSound⟩ := List.forall_mem_append.mp areSound
      obtain ⟨behind, specified, completes, first⟩ :=
        reaches_spec awaits isSpec specSound expressions
      have continuing : step ⟨expressions, behind⟩ comma =
          .ok ⟨expressions, .continuing specified⟩ := by
        rw [step_separator completes expressions (.inl isComma)]
        exact if_pos isComma
      obtain ⟨final, last, finalCompletes, later⟩ := inductionHypothesis (.continuing specified)
        (List.forall_mem_cons.mp othersSound).2
      exact ⟨final, last, finalCompletes, first.trans (.cons continuing later)⟩

/-- The tokens of an expression are read. -/
theorem reaches_tokens_of_isExpression {tokens : List Token} (isExpression : IsExpression tokens)
    (areSound : ∀ token ∈ tokens, token.IsSound) (expressions : List Expression) :
    ∃ others, Reaches ⟨expressions, .outside⟩ tokens ⟨others, .outside⟩ := by
  have opened {openBrace : Token} (opens : openBrace.kind = .openBrace) :
      step ⟨expressions, .outside⟩ openBrace = .ok ⟨expressions, .opened openBrace.span⟩ := by
    simp [step, opens, Except.map]
  have closed {state : ParserState} {draft : Draft} {closeBrace : Token}
      (completes : Completes state draft) (closes : closeBrace.kind = .closeBrace) :
      step ⟨expressions, state⟩ closeBrace =
        .ok ⟨expressions ++ [draft.close closeBrace.span], .outside⟩ := by
    rw [step_separator completes expressions (.inr closes)]
    simp [readSeparator, closes]
  cases isExpression with
  | plain opens isList closes =>
      obtain ⟨listSound, -⟩ := List.forall_mem_append.mp (List.forall_mem_cons.mp areSound).2
      obtain ⟨final, draft, completes, listed⟩ :=
        reaches_specs (.opened _) isList listSound expressions
      exact ⟨_, .cons (opened opens) (listed.trans (.cons (closed completes closes) (.nil _)))⟩
  | @operated openBrace operator closeBrace specs opens isOperator isList closes =>
      obtain ⟨operatorSound, behindSound⟩ :=
        List.forall_mem_cons.mp (List.forall_mem_cons.mp areSound).2
      obtain ⟨listSound, -⟩ := List.forall_mem_append.mp behindSound
      obtain ⟨symbol, isSymbol, value⟩ := operatorSound.operator isOperator
      obtain ⟨found, sameSymbol⟩ := Grammar.mem_symbols_iff.mp isSymbol
      have operated : step ⟨expressions, .opened openBrace.span⟩ operator =
          .ok ⟨expressions, .listing ⟨openBrace.span, found, []⟩⟩ := by
        simp [step, isOperator, value, ofSymbol_of_symbol sameSymbol, part, Except.map,
          Except.mapError]
      obtain ⟨final, draft, completes, listed⟩ :=
        reaches_specs (.listing _) isList listSound expressions
      exact ⟨_, .cons (opened opens) (.cons operated
        (listed.trans (.cons (closed completes closes) (.nil _))))⟩

/-- The tokens of a template are read. -/
theorem reaches_of_isTemplate {tokens : List Token} (isTemplate : IsTemplate tokens)
    (areSound : ∀ token ∈ tokens, token.IsSound) (expressions : List Expression) :
    ∃ others, Reaches ⟨expressions, .outside⟩ tokens ⟨others, .outside⟩ := by
  induction isTemplate generalizing expressions with
  | empty => exact ⟨expressions, .nil _⟩
  | @literal literal rest isLiteral _ inductionHypothesis =>
      obtain ⟨others, later⟩ :=
        inductionHypothesis (List.forall_mem_cons.mp areSound).2 expressions
      exact ⟨others, .cons (if_pos isLiteral) later⟩
  | expression isExpression _ inductionHypothesis =>
      have ⟨expressionSound, restSound⟩ := List.forall_mem_append.mp areSound
      obtain ⟨between, first⟩ :=
        reaches_tokens_of_isExpression isExpression expressionSound expressions
      obtain ⟨others, later⟩ := inductionHypothesis restSound between
      exact ⟨others, first.trans later⟩

end Parser

end UriTemplate
