import UriTemplate.Text.Basic

/-
This file defines the operators of an expression and the table of what each one does.
-/

namespace UriTemplate

inductive Operator
  | simple
  | reserved
  | fragment
  | label
  | path
  | parameter
  | query
  | continuation
  deriving DecidableEq

namespace Operator

def all : List Operator :=
  [simple, reserved, fragment, label, path, parameter, query, continuation]

def name : Operator → Text
  | simple => "NONE"
  | reserved => "RESERVED"
  | fragment => "FRAGMENT"
  | label => "LABEL"
  | path => "PATH"
  | parameter => "MATRIX"
  | query => "QUERY"
  | continuation => "QUERY_CONTINUATION"

/-- The text that introduces the operator after an opening brace. -/
def symbol : Operator → Text
  | simple => ""
  | reserved => "+"
  | fragment => "#"
  | label => "."
  | path => "/"
  | parameter => ";"
  | query => "?"
  | continuation => "&"

/-- All operators but one are introduced by one symbol. -/
theorem exists_symbol {operator : Operator} (isNoSimple : operator ≠ .simple) :
    ∃ symbol, operator.symbol = [symbol] := by
  cases operator with
  | simple => exact absurd rfl isNoSimple
  | _ => exact ⟨_, rfl⟩

/-- The text between two expanded variables. -/
def separator : Operator → Text
  | simple => ","
  | reserved => ","
  | fragment => ","
  | label => "."
  | path => "/"
  | parameter => ";"
  | query => "&"
  | continuation => "&"

/-- Values are written behind their names. -/
def isNamed : Operator → Bool
  | parameter => true
  | query => true
  | continuation => true
  | _ => false

/-- An empty value keeps its equals sign. -/
def isQuery : Operator → Bool
  | query => true
  | continuation => true
  | _ => false

def allowsReserved : Operator → Bool
  | reserved => true
  | fragment => true
  | _ => false

theorem allowsReserved_eq_false {operator : Operator} (isNoReserved : operator ≠ .reserved)
    (isNoFragment : operator ≠ .fragment) : operator.allowsReserved = false := by
  cases operator with
  | reserved => exact absurd rfl isNoReserved
  | fragment => exact absurd rfl isNoFragment
  | _ => rfl

/-- The text in front of the first defined variable. -/
def opening : Operator → Text
  | simple => []
  | reserved => []
  | operator => operator.symbol

def ofSymbol? (symbol : Text) : Option Operator :=
  all.find? fun operator => operator.symbol ≠ [] && operator.symbol = symbol

def ofName? (name : Text) : Option Operator :=
  all.find? fun operator => operator.name = name

/-- The characters that introduce an operator. -/
def symbols : Text := "+#./;?&"

/-- The characters kept for operators of a later grammar. -/
def futureSymbols : Text := "=,!@|"

end Operator

end UriTemplate
