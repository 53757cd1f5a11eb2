import UriTemplate.Number.Reading
import UriTemplate.Syntax.Lexer
import UriTemplate.Syntax.Template

/-
This file reads tokens one by one into expressions. Every state says which tokens may follow,
so the first token that cannot follow is the one that is reported.
-/

namespace UriTemplate

/-- An expression whose closing brace has not been read. -/
structure Draft where
  openBrace : Span
  operator : Operator
  references : List Variable
  deriving DecidableEq

namespace Draft

def add (draft : Draft) (reference : Variable) : Draft :=
  { draft with references := draft.references ++ [reference] }

def close (draft : Draft) (closeBrace : Span) : Expression :=
  ⟨draft.operator, draft.references, some (draft.openBrace.through closeBrace)⟩

end Draft

inductive ParserState
  /-- Literals and opening braces may follow. -/
  | outside
  /-- An operator or the first name may follow. -/
  | opened (openBrace : Span)
  /-- The first name must follow. -/
  | listing (draft : Draft)
  /-- A name must follow a comma. -/
  | continuing (draft : Draft)
  /-- A modifier may follow a name. -/
  | named (draft : Draft) (name : Text)
  /-- A number must follow a colon. -/
  | sizing (draft : Draft) (name : Text)
  /-- A comma or the closing brace must follow. -/
  | specified (draft : Draft)
  deriving DecidableEq

inductive ParserFault
  | unexpected (fault : SyntaxFault)
  | invalidPart (fault : PartFault)
  deriving DecidableEq

/-- What has been read so far. -/
structure Progress where
  expressions : List Expression
  state : ParserState
  deriving DecidableEq

namespace Parser

def refuse {α : Type} (token : Token) (cause : SyntaxCause) : Except ParserFault α :=
  .error (.unexpected ⟨cause, token.span⟩)

def part {α : Type} (result : Except PartFault α) : Except ParserFault α :=
  result.mapError .invalidPart

/-- A name is a variable once its modifier is known. -/
def specify (draft : Draft) (name : Text) (modifier : Modifier) : Except ParserFault Draft :=
  (part (Variable.make name modifier)).map draft.add

def readName (draft : Draft) (token : Token) : Except ParserFault ParserState :=
  if token.kind = .name then .ok (.named draft (token.value.getD []))
  else refuse token .missingName

def readFirstName (draft : Draft) (token : Token) : Except ParserFault ParserState :=
  if token.kind = .closeBrace then refuse token .emptyList else readName draft token

/-- A prefix length has one to four digits and does not start with a zero. -/
def readLength (draft : Draft) (name : Text) (token : Token) : Except ParserFault ParserState :=
  let digits := token.value.getD []
  if token.kind ≠ .number then refuse token .missingLength
  else if digits.head? = some (CodePoint.ofChar '0') then refuse token (.leadingZero digits)
  else if SyntaxCause.maximumDigits < digits.length then refuse token (.tooManyDigits digits)
  else do
    let length ← part ((Reading.integer? digits).elim (.error (.lengthNotNumeric digits)) .ok)
    let modifier ← part (Modifier.cutTo length)
    let draft ← specify draft name modifier
    pure (.specified draft)

/-- The closing brace completes an expression. -/
def readSeparator (expressions : List Expression) (draft : Draft) (token : Token) :
    Except ParserFault Progress :=
  if token.kind = .comma then .ok ⟨expressions, .continuing draft⟩
  else if token.kind = .closeBrace then
    .ok ⟨expressions ++ [draft.close token.span], .outside⟩
  else refuse token (.unfinishedVariable token.kind)

def step (progress : Progress) (token : Token) : Except ParserFault Progress :=
  let stay (next : Except ParserFault ParserState) : Except ParserFault Progress :=
    next.map fun state => ⟨progress.expressions, state⟩
  match progress.state with
  | .outside =>
      if token.kind = .literal then .ok progress
      else if token.kind = .openBrace then stay (.ok (.opened token.span))
      else refuse token (.unexpectedToken token)
  | .opened openBrace =>
      if token.kind = .operator then
        stay ((part (Operator.ofSymbol token.value)).map fun operator =>
          .listing ⟨openBrace, operator, []⟩)
      else stay (readFirstName ⟨openBrace, .simple, []⟩ token)
  | .listing draft => stay (readFirstName draft token)
  | .continuing draft => stay (readName draft token)
  | .named draft name =>
      if token.kind = .star then
        stay ((specify draft name .explode).map .specified)
      else if token.kind = .colon then stay (.ok (.sizing draft name))
      else do
        let draft ← specify draft name .none
        readSeparator progress.expressions draft token
  | .sizing draft name => stay (readLength draft name token)
  | .specified draft => readSeparator progress.expressions draft token

/-- The text may end outside expressions only; elsewhere its end is one more token that
cannot follow. -/
def finish (progress : Progress) (token : Token) : Except ParserFault (List Expression) :=
  match progress.state with
  | .outside => .ok progress.expressions
  | _ => (step progress token).map Progress.expressions

/-- The tokens are read from left to right. -/
def expressions (stream : TokenStream) : Except ParserFault (List Expression) := do
  let progress ← stream.body.foldlM step ⟨[], .outside⟩
  finish progress stream.finish

end Parser

namespace Template

def parseTokens (stream : TokenStream) (source : Option Text) (raw : Text) :
    Except ParseError Template :=
  match Parser.expressions stream with
  | .ok expressions => .ok ⟨raw, expressions⟩
  | .error (.unexpected fault) => .error (.malformed ⟨fault, source⟩)
  | .error (.invalidPart fault) => .error (.invalidPart fault)

/-- A text is cut into tokens before the first of them is read. -/
def parse (source : Text) : Except ParseError Template :=
  match Lexer.stream source with
  | .ok stream => parseTokens stream (some source) source
  | .error fault => .error (.malformed ⟨fault, some source⟩)

end Template

end UriTemplate
