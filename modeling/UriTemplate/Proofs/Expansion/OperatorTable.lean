import UriTemplate.Expansion
import UriTemplate.Proofs.Bindings.Streamless
import UriTemplate.Proofs.PercentEncoding.Window
import UriTemplate.Proofs.Syntax.RoundTrip

namespace UriTemplate

open PercentEncoding

/-- What an operator does with the defined variables of an expression. -/
structure OperatorRow where
  first : Text
  separator : Text
  named : Bool
  keepsEquals : Bool
  allowsReserved : Bool

namespace OperatorRow

/-- The published table of operators. -/
def of : Operator → OperatorRow
  | .simple => ⟨"", ",", false, false, false⟩
  | .reserved => ⟨"", ",", false, false, true⟩
  | .fragment => ⟨"#", ",", false, false, true⟩
  | .label => ⟨".", ".", false, false, false⟩
  | .path => ⟨"/", "/", false, false, false⟩
  | .parameter => ⟨";", ";", true, false, false⟩
  | .query => ⟨"?", "&", true, true, false⟩
  | .continuation => ⟨"&", "&", true, true, false⟩

/-- The part of a scalar text that a modifier lets through. -/
def shown (modifier : Modifier) (text : Text) : Text :=
  match modifier.kind with
  | .cut => text.take modifier.length.toNat
  | _ => text

/-- The pairs with the texts of their keys and values. -/
def textPairs (pairs : List (Value × Value)) : List (Text × Text) :=
  pairs.map fun pair => (pair.1.toText, pair.2.toText)

variable (row : OperatorRow)

/-- What is shown of a text, behind the name if the row is named. The equals sign belongs to a
text that is not empty, and to every text if the row keeps it. -/
def labelled (name text shown : Text) : Text :=
  if row.named then
    name ++ (if row.keepsEquals = true ∨ text ≠ [] then Text.ofString "=" else []) ++
      encode row.allowsReserved shown
  else encode row.allowsReserved shown

def scalar (reference : Variable) (text : Text) : Text :=
  row.labelled reference.name text (shown reference.modifier text)

/-- The name in front of a collection that stays in one piece. -/
def nameBefore (name : Text) : Text :=
  if row.named then name ++ Text.ofString "=" else []

def sequence (reference : Variable) (texts : List Text) : Text :=
  if reference.isExploded then
    Text.join row.separator (texts.map fun text => row.labelled reference.name text text)
  else
    row.nameBefore reference.name ++ Text.join "," (texts.map (encode row.allowsReserved))

/-- The equals sign behind a key is left out for an empty text if the row is named but keeps no
equals sign. -/
def explodedPair (pair : Text × Text) : Text :=
  encode false pair.1 ++
    (if row.named = true ∧ row.keepsEquals = false ∧ pair.2 = [] then []
      else Text.ofString "=") ++
    encode row.allowsReserved pair.2

/-- Keys are encoded without reserved characters under every operator. -/
def mapping (reference : Variable) (pairs : List (Text × Text)) : Text :=
  if reference.isExploded then
    Text.join row.separator (pairs.map row.explodedPair)
  else
    row.nameBefore reference.name ++
      Text.join "," (pairs.map fun pair =>
        encode false pair.1 ++ Text.ofString "," ++ encode row.allowsReserved pair.2)

/-- The text of a defined variable, whose collections show only their defined members. -/
def rendering (reference : Variable) : Value → Text
  | .sequence _ items => row.sequence reference ((Value.definedItems items).map Value.toText)
  | .stream items => row.sequence reference ((Value.definedItems items).map Value.toText)
  | .mapping pairs => row.mapping reference (textPairs (Value.definedPairs pairs))
  | value => row.scalar reference value.toText

/-- The defined variables of an expression in their order. -/
def defined (bindings : Bindings) (references : List Variable) : List Variable :=
  references.filter fun reference => !(bindings.value reference.name).isUndefined

def expression (bindings : Bindings) (references : List Variable) : Text :=
  match defined bindings references with
  | [] => []
  | present =>
      row.first ++ Text.join row.separator
        (present.map fun reference => row.rendering reference (bindings.value reference.name))

end OperatorRow

/-- Encoded literal texts and the texts of the expressions in turn. -/
def Template.tabulated (template : Template) (bindings : Bindings) : Text :=
  (alternate (template.literalTexts.map (encode true))
    (template.expressions.map fun expression =>
      (OperatorRow.of expression.operator).expression bindings expression.references)).flatten

/-! One variable of the table is one variable of expansion. -/

namespace OperatorRow

/-- The rows hold what the operators say of themselves. -/
theorem of_eq (operator : Operator) :
    of operator = ⟨operator.opening, operator.separator, operator.isNamed, operator.isQuery,
      operator.allowsReserved⟩ := by
  cases operator <;> rfl

/-- A prefix takes its length off the text, and any other modifier takes all of it. -/
theorem take_limit_eq_shown {modifier : Modifier} (wellFormed : modifier.IsWellFormed)
    (text : Text) :
    text.take (modifier.limit?.getD text.length) = shown modifier text := by
  cases wellFormed with
  | none => exact List.take_length
  | explode => exact List.take_length
  | @cut length positive bounded =>
      have isCut : (⟨.cut, length⟩ : Modifier).limit? = some length :=
        if_pos (Int.natCast_pos.mpr positive)
      rw [isCut]
      rfl

/-- Expansion asks whether the text is empty, the table whether it is not. -/
theorem equals_eq (forced : Bool) (text : Text) :
    (if forced || !text.isEmpty then Expansion.equals else []) =
      if forced = true ∨ text ≠ [] then Text.ofString "=" else [] := by
  cases text with
  | nil => simp [Expansion.equals]
  | cons first rest => simp [Expansion.equals]

variable (operator : Operator) {reference : Variable} (wellFormed : reference.IsWellFormed)

include wellFormed

/-- The row of an operator puts the label where the operator puts it. -/
theorem labelled_eq (text shown : Text) :
    (of operator).labelled reference.name text shown =
      if operator.isNamed then
        Expansion.labelled operator.isQuery (encodeLiteral reference.name) text
          (encode operator.allowsReserved shown)
      else encode operator.allowsReserved shown := by
  rw [of_eq, labelled, Expansion.labelled, encodeLiteral_of_isName wellFormed.name, equals_eq]

/-- The row puts the name in front where the operator does. -/
theorem nameBefore_eq :
    (of operator).nameBefore reference.name =
      Expansion.nameBefore operator reference.name := by
  rw [of_eq, nameBefore, Expansion.nameBefore, encodeLiteral_of_isName wellFormed.name]
  rfl

theorem scalar_eq (text : Text) :
    (of operator).scalar reference text = Expansion.scalar operator reference text := by
  rw [scalar, labelled_eq operator wellFormed, Expansion.scalar, encodeFirst_eq_encode_take,
    take_limit_eq_shown wellFormed.modifier]

theorem sequence_eq (items : List Value) :
    (of operator).sequence reference (items.map Value.toText) =
      if reference.isExploded then
        Expansion.separated operator.separator
          (items.map (Expansion.explodedItem operator reference.name))
      else
        Expansion.nameBefore operator reference.name ++
          Expansion.separated "," (items.map (Expansion.item operator)) := by
  have sameItems : (items.map Value.toText).map
      (fun text => (of operator).labelled reference.name text text) =
        items.map (Expansion.explodedItem operator reference.name) := by
    rw [List.map_map]
    apply List.map_congr_left
    intro item _
    exact labelled_eq operator wellFormed item.toText item.toText
  rw [sequence, sameItems, nameBefore_eq operator wellFormed, of_eq, List.map_map]
  rfl

omit wellFormed in
theorem explodedPair_eq (pair : Value × Value) :
    (of operator).explodedPair (pair.1.toText, pair.2.toText) =
      Expansion.explodedPair operator pair := by
  have sameEquals : (if operator.isNamed = true ∧ operator.isQuery = false ∧
      pair.2.toText = [] then [] else Text.ofString "=") =
        if (!operator.isNamed || operator.isQuery) = true ∨ pair.2.toText ≠ []
          then Text.ofString "=" else [] := by
    rw [← ite_not]
    congr 1
    simp only [not_and_or, Bool.not_eq_true, Bool.not_eq_false, Bool.or_eq_true,
      Bool.not_eq_true', or_assoc, ne_eq]
  rw [of_eq, explodedPair, Expansion.explodedPair, Expansion.labelled, equals_eq, sameEquals]
  rfl

theorem mapping_eq (pairs : List (Value × Value)) :
    (of operator).mapping reference (textPairs pairs) =
      if reference.isExploded then
        Expansion.separated operator.separator (pairs.map (Expansion.explodedPair operator))
      else
        Expansion.nameBefore operator reference.name ++
          Expansion.separated "," (pairs.map (Expansion.pair operator)) := by
  have samePairs : (textPairs pairs).map (of operator).explodedPair =
      pairs.map (Expansion.explodedPair operator) := by
    rw [textPairs, List.map_map]
    apply List.map_congr_left
    intro pair _
    exact explodedPair_eq operator pair
  rw [mapping, samePairs, nameBefore_eq operator wellFormed, of_eq, textPairs, List.map_map]
  rfl

/-- Whatever the value is, the row writes the variable as the operator does. -/
theorem rendering_eq {value : Value} (streamless : value.hasStream = false) :
    (of operator).rendering reference value =
      Expansion.variableText operator reference value := by
  cases value with
  | stream items => cases streamless
  | sequence form items => exact sequence_eq operator wellFormed _
  | mapping pairs => exact mapping_eq operator wellFormed _
  | _ => exact scalar_eq operator wellFormed _

end OperatorRow

/-! The first defined variable has the opening before it, the later ones the separator. -/

namespace Expansion

/-- The texts of the defined variables. -/
def definedTexts (operator : Operator) (resolved : List (Variable × Value)) : List Text :=
  (resolved.filter fun entry => !entry.2.isUndefined).map fun entry =>
    variableText operator entry.1 entry.2

theorem definedTexts_cons (operator : Operator) (reference : Variable) (value : Value)
    (rest : List (Variable × Value)) :
    definedTexts operator ((reference, value) :: rest) =
      if value.isUndefined then definedTexts operator rest
      else variableText operator reference value :: definedTexts operator rest := by
  unfold definedTexts
  by_cases isUndefined : value.isUndefined <;> simp [isUndefined]

/-- Either nothing is defined, or the opening stands in front of everything, or the separator if
other variables came before. -/
theorem variableTexts_eq (operator : Operator) (isFirst : Bool)
    (resolved : List (Variable × Value)) :
    variableTexts operator isFirst resolved =
      if definedTexts operator resolved = [] then []
      else (if isFirst then operator.opening else operator.separator) ++
        Text.join operator.separator (definedTexts operator resolved) := by
  induction resolved generalizing isFirst with
  | nil => rfl
  | cons entry rest inductionHypothesis =>
      obtain ⟨reference, value⟩ := entry
      rw [variableTexts, definedTexts_cons, inductionHypothesis isFirst, inductionHypothesis false]
      by_cases isUndefined : value.isUndefined = true
      · simp only [isUndefined, if_true]
      · cases definedTexts operator rest with
        | nil => simp [isUndefined, Text.join]
        | cons text others => simp [isUndefined, Text.join_cons]

/-- Without streams every variable is read from the same bindings. -/
theorem resolve_of_streamless {bindings : Bindings} (streamless : bindings.Streamless)
    (references : List Variable) :
    resolve bindings references =
      (references.map fun reference => (reference, bindings.value reference.name), bindings) := by
  induction references with
  | nil => rfl
  | cons reference rest inductionHypothesis =>
      simp only [resolve, Bindings.read_of_streamless streamless, inductionHypothesis,
        List.map_cons]

/-- The texts of the defined variables are those of the table. -/
theorem definedTexts_resolved (operator : Operator) {bindings : Bindings}
    (streamless : bindings.Streamless) {references : List Variable}
    (wellFormed : ∀ reference ∈ references, reference.IsWellFormed) :
    definedTexts operator
        (references.map fun reference => (reference, bindings.value reference.name)) =
      (OperatorRow.defined bindings references).map fun reference =>
        (OperatorRow.of operator).rendering reference (bindings.value reference.name) := by
  rw [definedTexts, List.filter_map, List.map_map]
  apply List.map_congr_left
  intro reference member
  have isThere : reference ∈ references := List.mem_of_mem_filter member
  exact (OperatorRow.rendering_eq operator (wellFormed reference isThere)
    (Bindings.hasStream_value streamless reference.name)).symm

/-- The loop over the variables writes the row of texts. -/
theorem expressionText_eq (operator : Operator) {bindings : Bindings}
    (streamless : bindings.Streamless) {references : List Variable}
    (wellFormed : ∀ reference ∈ references, reference.IsWellFormed) :
    expressionText operator (resolve bindings references).1 =
      (OperatorRow.of operator).expression bindings references := by
  rw [resolve_of_streamless streamless, expressionText, variableTexts_eq,
    definedTexts_resolved operator streamless wellFormed, OperatorRow.expression]
  cases OperatorRow.defined bindings references with
  | nil => rfl
  | cons reference rest => rw [OperatorRow.of_eq]; rfl

/-- The loop over the expressions writes literal texts and expansions in turn. -/
theorem templateFrom_eq (raw : Text) (previous : Nat) {bindings : Bindings}
    (streamless : bindings.Streamless) {expressions : List Expression}
    (wellFormed : ∀ expression ∈ expressions, expression.IsWellFormed) :
    templateFrom raw previous bindings expressions =
      (alternate
        ((Template.rangesFrom previous raw.length expressions).map fun range =>
          encode true (raw.slice range.1 range.2))
        (expressions.map fun expression => (OperatorRow.of expression.operator).expression bindings
          expression.references)).flatten := by
  induction expressions generalizing previous with
  | nil =>
      rw [templateFrom, encodeRange_eq_encode_slice]
      exact (List.append_nil _).symm
  | cons expression rest inductionHypothesis =>
      have ⟨here, others⟩ := List.forall_mem_cons.mp wellFormed
      have unchanged : (resolve bindings expression.references).2 = bindings :=
        congrArg Prod.snd (resolve_of_streamless streamless expression.references)
      simp only [templateFrom, unchanged, encodeRange_eq_encode_slice,
        expressionText_eq expression.operator streamless here.references,
        inductionHypothesis expression.stop others]
      exact List.append_assoc _ _ _

/-- The templates that are read expand as the table of operators says, whatever their variables
are bound to, as long as no stream stands in a value. -/
theorem template_eq_tabulated {source : Text} {template : Template}
    (read : Template.parse source = .ok template) {bindings : Bindings}
    (streamless : bindings.Streamless) :
    Expansion.template template bindings = template.tabulated bindings := by
  obtain ⟨layout, wellFormed, -, rfl⟩ := Template.parse_eq_ok_iff.mp read
  have allWellFormed : ∀ expression ∈ layout.template.expressions, expression.IsWellFormed :=
    fun _ member => wellFormed.of_mem_placed member
  rw [Expansion.template, templateFrom_eq _ _ streamless allWellFormed, Template.tabulated,
    Template.literalTexts, List.map_map]
  rfl

theorem template_eq_tabulated_parameter :
    let template : Template := ⟨Text.ofString "a b\x7b;e,n:1,m*\x7d", [⟨.parameter,
      [⟨"e", .none, by decide⟩, ⟨"n", ⟨.cut, 1⟩, by decide⟩, ⟨"m", .explode, by decide⟩],
      some ⟨3, 14, 1, 4⟩⟩]⟩
    let bindings : Bindings := [("e", .text []), ("n", .text "/x"),
      ("m", .mapping [(.text "k", .text []), (.text "l", .null), (.text "h", .integer 7)])]
    Expansion.template template bindings = "a%20b;e;n=%2F;k;h=7" ∧
      Expansion.template template bindings = template.tabulated bindings := by
  intro template bindings
  have read : Template.parse template.raw = .ok template := by decide +kernel
  have streamless : bindings.Streamless := by decide
  exact ⟨by decide +kernel, template_eq_tabulated read streamless⟩

end Expansion

end UriTemplate
