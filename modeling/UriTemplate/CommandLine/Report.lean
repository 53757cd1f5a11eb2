import UriTemplate.Syntax.Template

/-
This file lays out the structure of a template for a terminal.
-/

namespace UriTemplate.CommandLine.Report

def line : CodePoint := CodePoint.ofChar '─'

def rule (length : Nat) : Text := List.replicate length line

/-- A title with a rule on both sides. -/
def heading (width : Nat) (title : Text) : Text :=
  rule 2 ++ " " ++ title ++ " " ++ rule (max 4 (width - title.length - 4)) ++ "\n"

/-- The values of several labels start in the same column. -/
def labelled (label value : Text) : Text :=
  "  " ++ Text.padRight (label ++ ":") 12 ++ value ++ "\n"

/-- Every line hangs on a branch; the last branch goes no further. -/
def branches : List Text → Text
  | [] => []
  | [last] => "└" ++ rule 2 ++ " " ++ last ++ "\n"
  | first :: rest => "├" ++ rule 2 ++ " " ++ first ++ "\n" ++ branches rest

def expressionLine (expression : Expression) : Text :=
  expression.written ++ "  " ++ Text.lowerAscii expression.operator.name ++ "  [" ++
    Numeral.ofNat expression.start ++ ", " ++ Numeral.ofNat expression.stop ++ ")"

def template (width : Nat) (template : Template) : Text :=
  let names := template.variableNames
  let expressions : Text :=
    if template.expressions.isEmpty then []
    else heading width "Expressions" ++ branches (template.expressions.map expressionLine)
  heading width "Template" ++
    labelled "Template" template.raw ++
    labelled "Canonical" template.canonical ++
    labelled "Variables" (if names.isEmpty then "-" else Text.join ", " names) ++
    expressions

end UriTemplate.CommandLine.Report
