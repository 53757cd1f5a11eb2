import UriTemplate.Syntax.Position
import UriTemplate.Text.Quoted

/-
This file defines the tokens of a template and the streams that a parser reads.
-/

namespace UriTemplate

inductive TokenKind
  | literal
  | openBrace
  | closeBrace
  | operator
  | name
  | comma
  | star
  | colon
  | number
  | finish
  deriving DecidableEq

namespace TokenKind

def all : List TokenKind :=
  [literal, openBrace, closeBrace, operator, name, comma, star, colon, number, finish]

def label : TokenKind → Text
  | literal => "LITERAL"
  | openBrace => "LBRACE"
  | closeBrace => "RBRACE"
  | operator => "OPERATOR"
  | name => "VARNAME"
  | comma => "COMMA"
  | star => "STAR"
  | colon => "COLON"
  | number => "NUMBER"
  | finish => "EOF"

def ofLabel? (label : Text) : Option TokenKind :=
  all.find? fun kind => kind.label = label

end TokenKind

structure Token where
  kind : TokenKind
  value : Option Text
  span : Span
  deriving DecidableEq

namespace Token

def written (token : Token) : Text :=
  token.kind.label ++ "('" ++ token.value.getD "None" ++ "') at " ++ token.span.written

/-- The token of a text that stands at a position. -/
def covering (kind : TokenKind) (position : Position) (text : Text) : Token :=
  ⟨kind, some text, Span.covering position text⟩

/-- The last token is empty and has no value. -/
def finishAt (position : Position) : Token :=
  ⟨.finish, none, Span.covering position []⟩

end Token

/-- The tokens in front of the first finish, and that finish. -/
structure TokenStream where
  body : List Token
  finish : Token
  deriving DecidableEq

namespace TokenStream

/-- What follows the first finish is never read. -/
def ofList? : List Token → Option TokenStream
  | [] => none
  | token :: rest =>
      if token.kind = .finish then some ⟨[], token⟩
      else (ofList? rest).map fun stream => ⟨token :: stream.body, stream.finish⟩

def toList (stream : TokenStream) : List Token :=
  stream.body ++ [stream.finish]

end TokenStream

end UriTemplate
