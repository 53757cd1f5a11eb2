import UriTemplate.Json.Basic
import UriTemplate.Syntax.Template

/-
This file describes templates as JSON documents.
-/

namespace UriTemplate

def member (name : String) (value : Json) : Text × Json :=
  (Text.ofString name, value)

def Modifier.document (modifier : Modifier) : Json :=
  .object [member "kind" (.text modifier.kind.name),
    member "max_length" (.integer modifier.length)]

def Variable.document (reference : Variable) : Json :=
  .object [member "name" (.text reference.name),
    member "modifier" reference.modifier.document]

/-- Only the offsets of a span are shown. -/
def Span.document (span : Span) : Json :=
  .object [member "start" (.integer span.start), member "end" (.integer span.stop)]

def Expression.document (expression : Expression) : Json :=
  .object [member "operator" (.text expression.operator.name),
    member "symbol" (.text expression.operator.symbol),
    member "variables" (.array (expression.references.map Variable.document)),
    member "span" ((expression.span.map Span.document).getD .null)]

def Template.document (template : Template) : Json :=
  .object [member "raw" (.text template.raw),
    member "expressions" (.array (template.expressions.map Expression.document)),
    member "variables" (.array (template.variableNames.map Json.text))]

end UriTemplate
