import UriTemplate.Syntax.Token
import UriTemplate.Syntax.Expression

/-
This file lists the ways in which a text or a token stream fails to be a template.
-/

namespace UriTemplate

inductive SyntaxCause
  | malformedTriplet
  | missingName
  | strayDot (taken : Text)
  | futureOperator (symbol : CodePoint)
  | nestedBrace
  | blank
  | unexpectedCharacter (character : CodePoint)
  | unterminated
  | unexpectedToken (token : Token)
  | emptyList
  | unfinishedVariable (found : TokenKind)
  | missingLength
  | leadingZero (digits : Text)
  | tooManyDigits (digits : Text)
  deriving DecidableEq

namespace SyntaxCause

/-- A prefix length has at most this many digits. -/
def maximumDigits : Nat := 4

/-- The largest number of as many digits. -/
def maximumLength : Nat := 9999

def message : SyntaxCause → Text
  | malformedTriplet => "Malformed percent-encoding in variable name"
  | missingName => "Expected variable name"
  | strayDot _ => "Dots in a variable name must separate name characters"
  | futureOperator symbol =>
      "Operator '" ++ [symbol] ++ "' is reserved for future extensions"
  | nestedBrace => "Nested '" ++ [Expression.openBrace] ++ "' inside expression"
  | blank => "Whitespace is not allowed inside an expression"
  | unexpectedCharacter character =>
      "Unexpected character '" ++ [character] ++ "' in expression"
  | unterminated => "Unterminated expression"
  | unexpectedToken token => "Unexpected token: " ++ token.written
  | emptyList => "Empty variable list"
  | unfinishedVariable found =>
      "Expected ',' or '" ++ [Expression.closeBrace] ++ "' after variable, got " ++ found.label
  | missingLength => "Expected prefix length after ':'"
  | leadingZero digits => "Prefix length must start with 1-9, got '" ++ digits ++ "'"
  | tooManyDigits digits =>
      "Prefix length has more than " ++ Numeral.ofNat maximumDigits ++ " digits: '" ++
        digits ++ "'"

def suggestions : SyntaxCause → List Text
  | malformedTriplet => ["Use '%' followed by two hex digits, e.g. %20"]
  | strayDot taken => ["Remove the stray '.' from '" ++ taken ++ "'"]
  | futureOperator _ =>
      ["Use one of: " ++ Text.join " " (Operator.symbols.map fun symbol => [symbol])]
  | unterminated => ["Add a closing '" ++ [Expression.closeBrace] ++ "'"]
  | emptyList =>
      ["Name at least one variable, e.g. " ++ [Expression.openBrace] ++ "var" ++
        [Expression.closeBrace]]
  | tooManyDigits _ =>
      ["Use a prefix length of at most " ++ Numeral.ofNat maximumLength]
  | _ => []

end SyntaxCause

/-- A cause and the place it was found at. -/
structure SyntaxFault where
  cause : SyntaxCause
  span : Span
  deriving DecidableEq

/-- A fault together with the template text, where that text is known. -/
structure SyntaxError where
  fault : SyntaxFault
  source : Option Text
  deriving DecidableEq

/-- Why something is not read as a template. -/
inductive ParseError
  | malformed (error : SyntaxError)
  | invalidPart (fault : PartFault)
  | notText (typeName : Text)
  deriving DecidableEq

def ParseError.message : ParseError → Text
  | malformed error => error.fault.cause.message
  | invalidPart fault => fault.message
  | notText typeName => "Template must be a string, got " ++ typeName

end UriTemplate
