import UriTemplate.Syntax.Expression

/-
This file defines templates: a text together with the expressions that were found in it.
-/

namespace UriTemplate

structure Template where
  raw : Text
  expressions : List Expression
  deriving DecidableEq

namespace Template

/-- The ranges before, between and behind expressions, given the end of what precedes. -/
def rangesFrom (previous length : Nat) : List Expression → List (Nat × Nat)
  | [] => [(previous, length)]
  | expression :: rest =>
      (previous, expression.start) :: rangesFrom expression.stop length rest

/-- The ranges of literal text, empty ones included. -/
def literalRanges (template : Template) : List (Nat × Nat) :=
  rangesFrom 0 template.raw.length template.expressions

def canonicalFrom (raw : Text) (previous : Nat) : List Expression → Text
  | [] => raw.drop previous
  | expression :: rest =>
      raw.slice previous expression.start ++ expression.written ++
        canonicalFrom raw expression.stop rest

/-- Literal text is copied and each expression is written anew. -/
def canonical (template : Template) : Text :=
  canonicalFrom template.raw 0 template.expressions

/-- The first occurrence of each name stays. -/
def distinct (names : List Text) : List Text :=
  names.foldl (fun seen name => if seen.contains name then seen else seen ++ [name]) []

def variableNames (template : Template) : List Text :=
  distinct (template.expressions.flatMap fun expression =>
    expression.references.map Variable.name)

/-- The distinct names in the order of their code points. -/
def sortedNames (template : Template) : List Text :=
  template.variableNames.mergeSort fun first second => !Text.precedes second first

/-- Two templates agree if their texts do and their expressions have the same content. -/
def agreesWith (first second : Template) : Bool :=
  first.raw = second.raw &&
    first.expressions.map Expression.content = second.expressions.map Expression.content

/-- The text between quotes, in a form that names the kind of thing it is. -/
def label (template : Template) : Text :=
  "URITemplate(" ++ Quoted.text template.raw ++ ")"

end Template

end UriTemplate
