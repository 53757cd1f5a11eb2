import UriTemplate.Syntax.Operator
import UriTemplate.Syntax.Position
import UriTemplate.Text.Quoted

/-
This file defines modifiers, variables and expressions, and writes them as template text.
-/

namespace UriTemplate

/-- What is wrong with a part of an expression that was given by itself. -/
inductive PartFault
  | unknownOperator (symbol : Option Text)
  | lengthNotPositive (length : Int)
  | lengthNotNumeric (digits : Text)
  | emptyName
  deriving DecidableEq

def PartFault.message : PartFault → Text
  | unknownOperator symbol =>
      "Unknown operator symbol: " ++ (symbol.map Quoted.text).getD "None"
  | lengthNotPositive length =>
      "Prefix length must be positive, got " ++ Numeral.ofInt length
  | lengthNotNumeric digits =>
      "invalid literal for int() with base 10: " ++ Quoted.text digits
  | emptyName => "Variable name must not be empty"

def Operator.ofSymbol (symbol : Option Text) : Except PartFault Operator :=
  match symbol.bind Operator.ofSymbol? with
  | some operator => .ok operator
  | none => .error (.unknownOperator symbol)

inductive ModifierKind
  | none
  | explode
  | cut
  deriving DecidableEq

def ModifierKind.name : ModifierKind → Text
  | .none => "none"
  | .explode => "explode"
  | .cut => "prefix"

/-- A positive length cuts a scalar value to its first code points, whatever the kind. -/
structure Modifier where
  kind : ModifierKind
  length : Int
  deriving DecidableEq

namespace Modifier

def none : Modifier := ⟨.none, 0⟩

def explode : Modifier := ⟨.explode, 0⟩

def cutTo (length : Int) : Except PartFault Modifier :=
  if 0 < length then .ok ⟨.cut, length⟩ else .error (.lengthNotPositive length)

def written (modifier : Modifier) : Text :=
  match modifier.kind with
  | .none => []
  | .explode => "*"
  | .cut => ":" ++ Numeral.ofInt modifier.length

/-- The number of code points a scalar value is cut to, if it is cut. -/
def limit? (modifier : Modifier) : Option Nat :=
  if 0 < modifier.length then some modifier.length.toNat else Option.none

end Modifier

structure Variable where
  name : Text
  modifier : Modifier
  nameNonempty : name ≠ []
  deriving DecidableEq

namespace Variable

def make (name : Text) (modifier : Modifier) : Except PartFault Variable :=
  if empty : name = [] then .error .emptyName else .ok ⟨name, modifier, empty⟩

def isExploded (reference : Variable) : Bool :=
  reference.modifier.kind = .explode

def hasModifier (reference : Variable) : Bool :=
  reference.modifier.kind ≠ .none

def written (reference : Variable) : Text :=
  reference.name ++ reference.modifier.written

end Variable

/-- The span covers the braces of an expression that was read from a text. -/
structure Expression where
  operator : Operator
  references : List Variable
  span : Option Span
  deriving DecidableEq

namespace Expression

/-- The offset of the opening brace. -/
def start (expression : Expression) : Nat :=
  (expression.span.map Span.start).getD 0

/-- The offset behind the closing brace. -/
def stop (expression : Expression) : Nat :=
  (expression.span.map Span.stop).getD 0

/-- Two expressions of one content differ at most in where they stand. -/
def content (expression : Expression) : Operator × List Variable :=
  (expression.operator, expression.references)

def openBrace : CodePoint := CodePoint.ofChar '\x7b'

def closeBrace : CodePoint := CodePoint.ofChar '\x7d'

def written (expression : Expression) : Text :=
  openBrace :: expression.operator.symbol ++
    Text.join "," (expression.references.map Variable.written) ++ [closeBrace]

end Expression

end UriTemplate
