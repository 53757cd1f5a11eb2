import UriTemplate.Bindings
import UriTemplate.PercentEncoding
import UriTemplate.Syntax.Template
import UriTemplate.Value.Written

/-
This file expands templates: literal text is encoded, and each expression is replaced by the
values of its variables in the form that its operator asks for.
-/

namespace UriTemplate.Expansion

open PercentEncoding

def equals : Text := "="

/-- The name stays in front of an empty text, and the equals sign too if it is forced. -/
def labelled (forced : Bool) (label text encoded : Text) : Text :=
  label ++ (if forced || !text.isEmpty then equals else []) ++ encoded

/-- A list of texts with a separator between any two. -/
def separated (separator : Text) (texts : List Text) : Text :=
  Text.join separator texts

def item (operator : Operator) (value : Value) : Text :=
  encode operator.allowsReserved value.toText

/-- An item of an exploded sequence repeats the name under a named operator. -/
def explodedItem (operator : Operator) (name : Text) (value : Value) : Text :=
  if operator.isNamed then
    labelled operator.isQuery (encodeLiteral name) value.toText (item operator value)
  else item operator value

/-- The key of a pair is encoded without reserved characters under every operator. -/
def pair (operator : Operator) (value : Value × Value) : Text :=
  encode false value.1.toText ++ "," ++ item operator value.2

/-- A pair of an exploded mapping has its key for a name. -/
def explodedPair (operator : Operator) (value : Value × Value) : Text :=
  labelled (!operator.isNamed || operator.isQuery) (encode false value.1.toText)
    value.2.toText (item operator value.2)

/-- A named operator puts the name in front of a collection that is not exploded. -/
def nameBefore (operator : Operator) (name : Text) : Text :=
  if operator.isNamed then encodeLiteral name ++ equals else []

/-- A scalar is cut before it is encoded; whether it is empty is decided before it is cut. -/
def scalar (operator : Operator) (reference : Variable) (text : Text) : Text :=
  let encoded := encodeFirst operator.allowsReserved
    (reference.modifier.limit?.getD text.length) text
  if operator.isNamed then
    labelled operator.isQuery (encodeLiteral reference.name) text encoded
  else encoded

/-- The expansion of one variable that has a defined value. -/
def variableText (operator : Operator) (reference : Variable) (value : Value) : Text :=
  match value with
  | .mapping pairs =>
      if reference.isExploded then
        separated operator.separator ((Value.definedPairs pairs).map (explodedPair operator))
      else
        nameBefore operator reference.name ++
          separated "," ((Value.definedPairs pairs).map (pair operator))
  | .sequence _ items =>
      if reference.isExploded then
        separated operator.separator
          ((Value.definedItems items).map (explodedItem operator reference.name))
      else
        nameBefore operator reference.name ++
          separated "," ((Value.definedItems items).map (item operator))
  | value => scalar operator reference value.toText

/-- The values of the variables, each read when its turn comes, and the bindings after that. -/
def resolve (bindings : Bindings) : List Variable → List (Variable × Value) × Bindings
  | [] => ([], bindings)
  | reference :: rest =>
      let read := bindings.read reference.name
      let others := resolve read.2 rest
      ((reference, read.1) :: others.1, others.2)

/-- The opening stands before the first defined variable, the separator before later ones. -/
def variableTexts (operator : Operator) (isFirst : Bool) : List (Variable × Value) → Text
  | [] => []
  | (reference, value) :: rest =>
      if value.isUndefined then variableTexts operator isFirst rest
      else
        (if isFirst then operator.opening else operator.separator) ++
          variableText operator reference value ++ variableTexts operator false rest

def expressionText (operator : Operator) (resolved : List (Variable × Value)) : Text :=
  variableTexts operator true resolved

def expression (bindings : Bindings) (expression : Expression) : Text :=
  expressionText expression.operator (resolve bindings expression.references).1

/-- The text from the end of what precedes up to the next expression is literal. -/
def templateFrom (raw : Text) (previous : Nat) (bindings : Bindings) : List Expression → Text
  | [] => encodeRange true raw previous none
  | expression :: rest =>
      let resolved := resolve bindings expression.references
      encodeRange true raw previous (some expression.start) ++
        expressionText expression.operator resolved.1 ++
        templateFrom raw expression.stop resolved.2 rest

/-- Whether the expansion of a variable can be written: an undefined member of a collection is left
out, and the others are written with all that they hold. -/
def isWritableValue : Value → Bool
  | .mapping pairs => Value.pairsWritable (Value.definedPairs pairs)
  | .sequence _ items => Value.itemsWritable (Value.definedItems items)
  | value => value.isWritable

def isWritableFrom (bindings : Bindings) : List Expression → Bool
  | [] => true
  | expression :: rest =>
      let resolved := resolve bindings expression.references
      resolved.1.all (fun read => isWritableValue read.2) && isWritableFrom resolved.2 rest

/-- Whether no expression writes a whole number with too many digits. -/
def isWritable (template : Template) (bindings : Bindings) : Bool :=
  isWritableFrom bindings template.expressions

/-- Expressions are expanded from left to right. -/
def template (template : Template) (bindings : Bindings) : Text :=
  templateFrom template.raw 0 bindings template.expressions

end UriTemplate.Expansion
