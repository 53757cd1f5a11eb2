import UriTemplate.Diagnostic
import UriTemplate.Expansion
import UriTemplate.Syntax.Parser
import UriTemplate.UriReference

/-
This file reads templates from values and expands them; in strict mode only URI references are
accepted as results.
-/

namespace UriTemplate

namespace Template

/-- Only a text can be a template. -/
def ofValue : Value → Except ParseError Template
  | .text source => parse source
  | value => .error (.notText value.typeName)

/-- In strict mode a result must be a URI reference. -/
def accept (strict : Bool) (result : Text) : Except UriReference.Invalid Text :=
  if strict then UriReference.validate result else .ok result

/-- What a template expands to, however many digits its numbers have. -/
def expand (template : Template) (bindings : Bindings) (strict : Bool) :
    Except UriReference.Invalid Text :=
  accept strict (Expansion.template template bindings)

end Template

/-- A template has no expansion if a number in it cannot be written, or if the result is refused. -/
inductive ExpansionFault
  | tooManyDigits
  | invalid (invalid : UriReference.Invalid)
  deriving DecidableEq

namespace Template

/-- The text that a template and the values of its variables are written as. -/
def written (template : Template) (bindings : Bindings) : Except ExpansionFault Text :=
  if Expansion.isWritable template bindings then .ok (Expansion.template template bindings)
  else .error .tooManyDigits

/-- The result is checked when all of it has been written. -/
def tryExpand (template : Template) (bindings : Bindings) (strict : Bool) :
    Except ExpansionFault Text := do
  let result ← template.written bindings
  (accept strict result).mapError .invalid

variable {template : Template} {bindings : Bindings}

end Template

def UriReference.Invalid.diagnostic (invalid : UriReference.Invalid) : Diagnostic :=
  ⟨.invalidResult invalid.uri, invalid.fault.message, none, none, []⟩

end UriTemplate
