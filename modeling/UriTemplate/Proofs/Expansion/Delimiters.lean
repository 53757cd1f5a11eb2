import UriTemplate.Proofs.Expansion.OperatorTable
import UriTemplate.Proofs.PercentEncoding.Alphabet

namespace UriTemplate

open PercentEncoding

namespace Text

/-- The reserved characters of a text in their order. -/
def delimiters (text : Text) : Text :=
  text.filter CodePoint.isReserved

@[simp] theorem delimiters_nil : delimiters [] = [] := rfl

/-- The delimiters of two texts follow one another. -/
@[simp] theorem delimiters_append (first second : Text) :
    delimiters (first ++ second) = delimiters first ++ delimiters second :=
  List.filter_append first second

/-- Joined texts have the delimiters of the separator between their own. -/
@[simp] theorem delimiters_join (separator : Text) (pieces : List Text) :
    delimiters (join separator pieces) =
      join (delimiters separator) (pieces.map delimiters) := by
  induction pieces with
  | nil => rfl
  | cons piece rest inductionHypothesis =>
      by_cases isLast : rest = []
      · simp [isLast, join]
      · rw [join_cons _ _ isLast, List.map_cons, join_cons _ _ (by simpa using isLast)]
        simp [inductionHypothesis]

/-- Encoding without reserved characters leaves no delimiters. -/
@[simp] theorem delimiters_encode (text : Text) : delimiters (encode false text) = [] := by
  rw [delimiters, List.filter_eq_nil_iff]
  intro codePoint member isReserved
  exact not_mem_encode_of_isReserved isReserved text member

end Text

/-- The kind of a value, with the question for each of its texts whether it is empty. -/
inductive ValueShape
  | undefined
  | scalar (isEmpty : Bool)
  | sequence (areEmpty : List Bool)
  | mapping (areEmpty : List Bool)
  deriving DecidableEq

def Value.hasEmptyText (value : Value) : Bool :=
  value.toText.isEmpty

/-- Only the defined members of a collection count. -/
def Value.shape (value : Value) : ValueShape :=
  if value.isUndefined then .undefined
  else
    match value with
    | .sequence _ items => .sequence ((definedItems items).map hasEmptyText)
    | .stream items => .sequence ((definedItems items).map hasEmptyText)
    | .mapping pairs => .mapping ((definedPairs pairs).map fun pair => pair.2.hasEmptyText)
    | value => .scalar value.hasEmptyText

/-- The shape tells whether a value is undefined. -/
theorem Value.shape_eq_undefined_iff {value : Value} :
    value.shape = .undefined ↔ value.isUndefined = true := by
  unfold shape
  by_cases isUndefined : value.isUndefined = true
  · simp [isUndefined]
  · cases value <;> simp [isUndefined]

namespace ValueShape

/-- The delimiters of a label and of the equals sign behind it. -/
def labelDelimiters (forced : Bool) (label : Text) (isEmpty : Bool) : Text :=
  label.delimiters ++ (if forced || !isEmpty then Text.delimiters "=" else [])

def memberDelimiters (operator : Operator) (name : Text) (isEmpty : Bool) : Text :=
  if operator.isNamed then labelDelimiters operator.isQuery (encodeLiteral name) isEmpty else []

def nameDelimiters (operator : Operator) (name : Text) : Text :=
  if operator.isNamed then (encodeLiteral name).delimiters ++ Text.delimiters "=" else []

/-- The delimiters that a variable with a value of this shape brings. -/
def delimiters (operator : Operator) (reference : Variable) : ValueShape → Text
  | undefined => []
  | scalar isEmpty => memberDelimiters operator reference.name isEmpty
  | sequence areEmpty =>
      if reference.isExploded then
        Text.join operator.separator.delimiters
          (areEmpty.map (memberDelimiters operator reference.name))
      else
        nameDelimiters operator reference.name ++
          Text.join (Text.delimiters ",") (areEmpty.map fun _ => [])
  | mapping areEmpty =>
      if reference.isExploded then
        Text.join operator.separator.delimiters
          (areEmpty.map (labelDelimiters (!operator.isNamed || operator.isQuery) []))
      else
        nameDelimiters operator reference.name ++
          Text.join (Text.delimiters ",") (areEmpty.map fun _ => Text.delimiters ",")

end ValueShape

/-- The delimiters of an expression, as far as shapes tell: those of the opening or of a
separator in front of every defined variable, and those of the variable. -/
def Operator.delimiters (operator : Operator) (isFirst : Bool) :
    List (Variable × ValueShape) → Text
  | [] => []
  | (reference, shape) :: rest =>
      if shape = .undefined then operator.delimiters isFirst rest
      else
        (if isFirst then operator.opening else operator.separator).delimiters ++
          shape.delimiters operator reference ++ operator.delimiters false rest

namespace Expansion

section Values

variable {operator : Operator} (encodes : operator.allowsReserved = false)

/-- Besides the label and its equals sign, the encoded text alone has delimiters. -/
theorem delimiters_labelled (forced : Bool) (label text encoded : Text) :
    (labelled forced label text encoded).delimiters =
      ValueShape.labelDelimiters forced label text.isEmpty ++ encoded.delimiters := by
  unfold labelled ValueShape.labelDelimiters
  split <;> simp [equals]

theorem delimiters_nameBefore (name : Text) :
    (nameBefore operator name).delimiters = ValueShape.nameDelimiters operator name := by
  unfold nameBefore ValueShape.nameDelimiters
  split <;> simp [equals]

include encodes

theorem delimiters_item (value : Value) : (item operator value).delimiters = [] := by
  rw [item, encodes, Text.delimiters_encode]

theorem delimiters_explodedItem (name : Text) (value : Value) :
    (explodedItem operator name value).delimiters =
      ValueShape.memberDelimiters operator name value.hasEmptyText := by
  unfold explodedItem ValueShape.memberDelimiters
  split
  · rw [delimiters_labelled, delimiters_item encodes, List.append_nil]
    rfl
  · exact delimiters_item encodes value

/-- A pair has a comma as its only delimiter. -/
theorem delimiters_pair (pair : Value × Value) :
    (Expansion.pair operator pair).delimiters = Text.delimiters "," := by
  simp [Expansion.pair, delimiters_item encodes]

/-- An exploded pair has an equals sign, unless an empty value goes without it. -/
theorem delimiters_explodedPair (pair : Value × Value) :
    (explodedPair operator pair).delimiters =
      ValueShape.labelDelimiters (!operator.isNamed || operator.isQuery) []
        pair.2.hasEmptyText := by
  rw [explodedPair, delimiters_labelled, delimiters_item encodes, List.append_nil,
    ValueShape.labelDelimiters, Text.delimiters_encode]
  rfl

theorem delimiters_scalar (reference : Variable) (text : Text) :
    (scalar operator reference text).delimiters =
      ValueShape.memberDelimiters operator reference.name text.isEmpty := by
  have encoded (window : Nat) :
      (encodeFirst operator.allowsReserved window text).delimiters = [] := by
    rw [encodeFirst_eq_encode_take, encodes, Text.delimiters_encode]
  unfold scalar ValueShape.memberDelimiters
  split
  · rw [delimiters_labelled, encoded, List.append_nil]
  · exact encoded _

/-- The shape of a defined value settles the delimiters of its variable. -/
theorem delimiters_variableText (reference : Variable) {value : Value}
    (streamless : value.hasStream = false) (isDefined : value.isUndefined = false) :
    (variableText operator reference value).delimiters =
      value.shape.delimiters operator reference := by
  have explodedItems (items : List Value) :
      (items.map (explodedItem operator reference.name)).map Text.delimiters =
        (items.map Value.hasEmptyText).map
          (ValueShape.memberDelimiters operator reference.name) := by
    simp [delimiters_explodedItem encodes]
  unfold Value.shape
  rw [if_neg (by simp [isDefined])]
  cases value with
  | stream items => cases streamless
  | sequence form items =>
      rw [variableText, ValueShape.delimiters]
      split
      · rw [separated, Text.delimiters_join, explodedItems]
      · rw [Text.delimiters_append, delimiters_nameBefore, separated, Text.delimiters_join]
        simp [Function.comp_def, delimiters_item encodes]
  | mapping pairs =>
      rw [variableText, ValueShape.delimiters]
      split
      · rw [separated, Text.delimiters_join]
        simp [Function.comp_def, delimiters_explodedPair encodes]
      · rw [Text.delimiters_append, delimiters_nameBefore, separated, Text.delimiters_join]
        simp [Function.comp_def, delimiters_pair encodes]
  | _ => exact delimiters_scalar encodes reference _

/-- The shapes of all values settle the delimiters of an expansion. -/
theorem delimiters_variableTexts (isFirst : Bool) {resolved : List (Variable × Value)}
    (streamless : ∀ entry ∈ resolved, entry.2.hasStream = false) :
    (variableTexts operator isFirst resolved).delimiters =
      operator.delimiters isFirst (resolved.map fun entry => (entry.1, entry.2.shape)) := by
  induction resolved generalizing isFirst with
  | nil => rfl
  | cons entry rest inductionHypothesis =>
      obtain ⟨reference, value⟩ := entry
      have ⟨here, others⟩ := List.forall_mem_cons.mp streamless
      rw [variableTexts, List.map_cons, Operator.delimiters]
      by_cases isUndefined : value.isUndefined = true
      · rw [if_pos isUndefined, if_pos (Value.shape_eq_undefined_iff.mpr isUndefined),
          inductionHypothesis isFirst others]
      · rw [if_neg isUndefined, if_neg (mt Value.shape_eq_undefined_iff.mp isUndefined),
          Text.delimiters_append, Text.delimiters_append, inductionHypothesis false others,
          delimiters_variableText encodes reference here (by simpa using isUndefined)]

/-- The delimiters of an expansion are those that the shapes of the values tell. -/
theorem delimiters_expressionText {bindings : Bindings} (streamless : bindings.Streamless)
    (references : List Variable) :
    (expressionText operator (resolve bindings references).1).delimiters =
      operator.delimiters true
        (references.map fun reference => (reference, (bindings.value reference.name).shape)) := by
  rw [resolve_of_streamless streamless, expressionText, delimiters_variableTexts encodes,
    List.map_map]
  · rfl
  · intro entry member
    obtain ⟨reference, -, rfl⟩ := List.mem_map.mp member
    exact Bindings.hasStream_value streamless reference.name

end Values

/-- Values of one shape give the same delimiters in the same order, whatever texts the values
and their keys hold. -/
theorem expression_delimiters_eq {expression : Expression}
    (isNotReserved : expression.operator ≠ .reserved)
    (isNoFragment : expression.operator ≠ .fragment) {first second : Bindings}
    (firstStreamless : first.Streamless) (secondStreamless : second.Streamless)
    (sameShapes : ∀ reference ∈ expression.references,
      (first.value reference.name).shape = (second.value reference.name).shape) :
    (Expansion.expression first expression).delimiters =
      (Expansion.expression second expression).delimiters := by
  have encodes := Operator.allowsReserved_eq_false isNotReserved isNoFragment
  rw [Expansion.expression, Expansion.expression,
    delimiters_expressionText encodes firstStreamless,
    delimiters_expressionText encodes secondStreamless]
  congr 1
  apply List.map_congr_left
  intro reference member
  rw [sameShapes reference member]

theorem expression_delimiters_eq_query :
    let expression : Expression := ⟨.query, [⟨"q", ⟨.cut, 3⟩, by decide⟩,
      ⟨"l", .explode, by decide⟩, ⟨"m", .none, by decide⟩], none⟩
    let first : Bindings := [("q", .text "a&b=c"), ("l", .sequence .list [.text "/", .text []]),
      ("m", .mapping [(.text "k;", .text "#"), (.text "?", .null)])]
    let second : Bindings := [("q", .integer 7), ("l", .sequence .tuple [.text "%2F", .text []]),
      ("m", .mapping [(.text "m", .boolean true)])]
    Expansion.expression first expression = "?q=a%26b&l=%2F&l=&m=k%3B,%23" ∧
      Expansion.expression second expression = "?q=7&l=%2F&l=&m=m,true" ∧
      (Expansion.expression first expression).delimiters =
        (Expansion.expression second expression).delimiters := by
  intro expression first second
  refine ⟨by decide +kernel, by decide +kernel, ?_⟩
  exact expression_delimiters_eq (by decide) (by decide) (by decide) (by decide)
    (by decide +kernel)

end Expansion

end UriTemplate
