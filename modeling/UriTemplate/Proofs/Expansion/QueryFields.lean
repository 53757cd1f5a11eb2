import UriTemplate.Proofs.Expansion.OperatorTable
import UriTemplate.Proofs.PercentEncoding.Decoding
import UriTemplate.Proofs.Text.Splitting
import UriTemplate.Proofs.Value.Undefined

namespace UriTemplate

open PercentEncoding

/-- The fields that a variable puts into a query, each a name or a key and a text. A scalar is
one field, and so is every defined member of a collection. -/
def Variable.fields (reference : Variable) (value : Value) : List (Text × Text) :=
  if value.isUndefined then []
  else
    match value with
    | .sequence _ items =>
        (Value.definedItems items).map fun item => (reference.name, item.toText)
    | .stream items => (Value.definedItems items).map fun item => (reference.name, item.toText)
    | .mapping pairs => OperatorRow.textPairs (Value.definedPairs pairs)
    | value => [(reference.name, OperatorRow.shown reference.modifier value.toText)]

/-- The fields of the variables of an expression in their order. -/
def Bindings.fields (bindings : Bindings) (references : List Variable) : List (Text × Text) :=
  references.flatMap fun reference => reference.fields (bindings.value reference.name)

/-- A query is read by splitting it at ampersands and each piece at its first equals sign. The
second part is missing in a piece without an equals sign. -/
def readQuery (query : Text) : List (List Octet × Option (List Octet)) :=
  (Text.splitOn '&' query).map fun piece =>
    (decode (Text.cut '=' piece).1, (Text.cut '=' piece).2.map decode)

/-- A name or key and a text with an equals sign between them, both encoded. -/
def fieldText (field : Text × Text) : Text :=
  encode false field.1 ++ CodePoint.ofChar '=' :: encode false field.2

/-! Fields that are written as a query are read back. -/

/-- Encoding leaves no ampersand in a field. -/
theorem ampersand_not_mem_fieldText (field : Text × Text) :
    CodePoint.ofChar '&' ∉ fieldText field := by
  have isReserved : (CodePoint.ofChar '&').isReserved = true := by decide
  have isNoEquals : CodePoint.ofChar '&' ≠ CodePoint.ofChar '=' := by decide
  simp [fieldText, not_mem_encode_of_isReserved isReserved, isNoEquals]

/-- The first equals sign of a field is the one between name and text. -/
theorem cut_fieldText (field : Text × Text) :
    Text.cut '=' (fieldText field) = (encode false field.1, some (encode false field.2)) :=
  Text.cut_append_cons (not_mem_encode_of_isReserved (by decide) field.1) _

/-- What is read of joined fields are the fields, decoded. -/
theorem readQuery_join {fields : List (Text × Text)} (nonempty : fields ≠ []) :
    readQuery (Text.join "&" (fields.map fieldText)) =
      fields.map fun field => (decode field.1, some (decode field.2)) := by
  have pieces : Text.splitOn '&' (Text.join "&" (fields.map fieldText)) = fields.map fieldText := by
    refine Text.splitOn_join (by simpa using nonempty) ?_
    intro piece member
    obtain ⟨field, -, rfl⟩ := List.mem_map.mp member
    exact ampersand_not_mem_fieldText field
  rw [readQuery, pieces, List.map_map]
  apply List.map_congr_left
  intro field _
  simp [cut_fieldText, decode_encode]

/-! A query expression writes the fields of its variables. -/

/-- Only an undefined value has no field. -/
theorem Variable.fields_eq_nil_iff {reference : Variable} {value : Value} :
    reference.fields value = [] ↔ value.isUndefined = true := by
  unfold fields
  by_cases isUndefined : value.isUndefined = true
  · simp [isUndefined]
  · rw [if_neg isUndefined]
    cases value with
    | sequence form items => simp [Value.isUndefined, Value.itemsUndefined_iff]
    | stream items => simp [Value.isUndefined, Value.itemsUndefined_iff]
    | mapping pairs =>
        simp [Value.isUndefined, Value.pairsUndefined_iff, OperatorRow.textPairs]
    | _ => simp [isUndefined]

namespace OperatorRow

/-- Both query operators name every text and keep every equals sign. -/
def query (first : Text) : OperatorRow :=
  ⟨first, "&", true, true, false⟩

/-- Both query operators have the row of a query. -/
theorem of_isQuery {operator : Operator} (isQuery : operator.isQuery = true) :
    of operator = query operator.symbol := by
  cases operator with
  | query => rfl
  | continuation => rfl
  | _ => cases isQuery

variable {first : Text}

/-- A labelled text of a query is a field. -/
theorem labelled_query {name : Text} (isName : Grammar.IsName name) (text shown : Text) :
    (query first).labelled name text shown = fieldText (name, shown) := by
  have stays := encode_of_isName false isName
  simp [labelled, query, fieldText, stays, Text.ofString]

theorem explodedPair_query (pair : Text × Text) :
    (query first).explodedPair pair = fieldText pair := by
  simp [explodedPair, query, fieldText, Text.ofString]

/-- A collection that is not exploded would be one field with commas in its text. -/
theorem rendering_query {reference : Variable} (isName : Grammar.IsName reference.name)
    {value : Value} (isDefined : value.isUndefined = false)
    (isExploded : value.kind = .sequence ∨ value.kind = .mapping → reference.isExploded = true) :
    (query first).rendering reference value =
      Text.join "&" ((reference.fields value).map fieldText) := by
  have itemTexts (items : List Value) :
      (items.map Value.toText).map (fun text => (query first).labelled reference.name text text) =
        (items.map fun item => (reference.name, item.toText)).map fieldText := by
    simp [labelled_query isName]
  unfold Variable.fields
  rw [if_neg (by simp [isDefined])]
  cases value with
  | sequence form items =>
      have exploded := isExploded (.inl (by simp [Value.kind, isDefined]))
      rw [rendering, sequence, if_pos exploded, itemTexts]
      rfl
  | stream items =>
      have exploded := isExploded (.inl (by simp [Value.kind, isDefined]))
      rw [rendering, sequence, if_pos exploded, itemTexts]
      rfl
  | mapping pairs =>
      have exploded := isExploded (.inr (by simp [Value.kind, isDefined]))
      rw [rendering, mapping, if_pos exploded, List.map_congr_left fun pair _ =>
        explodedPair_query pair]
      rfl
  | _ => simp [rendering, scalar, labelled_query isName, Text.join]

/-- Undefined variables have no fields. -/
theorem fields_defined (bindings : Bindings) (references : List Variable) :
    bindings.fields (defined bindings references) = bindings.fields references := by
  induction references with
  | nil => rfl
  | cons reference rest inductionHypothesis =>
      unfold Bindings.fields defined at inductionHypothesis ⊢
      rw [List.filter_cons, List.flatMap_cons, ← inductionHypothesis]
      by_cases isUndefined : (bindings.value reference.name).isUndefined = true
      · simp [isUndefined, Variable.fields_eq_nil_iff.mpr isUndefined]
      · simp [isUndefined]

/-- A query is a mark and the fields of its variables, with ampersands between them. -/
theorem expression_query {bindings : Bindings} {references : List Variable}
    (wellFormed : ∀ reference ∈ references, reference.IsWellFormed)
    (isExploded : ∀ reference ∈ references, (bindings.value reference.name).kind = .sequence ∨
      (bindings.value reference.name).kind = .mapping → reference.isExploded = true)
    (anyDefined : defined bindings references ≠ []) :
    (query first).expression bindings references =
      first ++ Text.join "&" ((bindings.fields references).map fieldText) := by
  -- Every variable writes a group of fields, and the groups are joined like the fields in them.
  let fieldTexts (reference : Variable) : List Text :=
    (reference.fields (bindings.value reference.name)).map fieldText
  have renderings : (defined bindings references).map (fun reference =>
        (query first).rendering reference (bindings.value reference.name)) =
      ((defined bindings references).map fieldTexts).map (Text.join "&") := by
    rw [List.map_map]
    apply List.map_congr_left
    intro reference member
    obtain ⟨isThere, isDefined⟩ := List.mem_filter.mp member
    exact rendering_query (wellFormed reference isThere).name (by simpa using isDefined)
      (isExploded reference isThere)
  have nonempty : ∀ group ∈ (defined bindings references).map fieldTexts, group ≠ [] := by
    intro group member
    obtain ⟨reference, isThere, rfl⟩ := List.mem_map.mp member
    have isDefined := (List.mem_filter.mp isThere).2
    simpa [fieldTexts, Variable.fields_eq_nil_iff] using isDefined
  have sameFields : ((defined bindings references).map fieldTexts).flatten =
      (bindings.fields references).map fieldText := by
    rw [← fields_defined, Bindings.fields, List.map_flatMap, List.flatMap_def]
  rw [expression]
  split
  case h_1 noneDefined => exact absurd noneDefined anyDefined
  case h_2 => rw [renderings, query, Text.join_join _ nonempty, sameFields]

end OperatorRow

/-- The expansion of a query expression holds its fields: it is read back as their names or keys
and their texts, octet by octet and in their order. Nothing is written if no variable is
defined. -/
theorem Expansion.expression_reads_back {source : Text} {template : Template}
    (read : Template.parse source = .ok template) {expression : Expression}
    (member : expression ∈ template.expressions)
    (isQuery : expression.operator = .query ∨ expression.operator = .continuation)
    {bindings : Bindings} (streamless : bindings.Streamless)
    (isExploded : ∀ reference ∈ expression.references,
      (bindings.value reference.name).kind = .sequence ∨
        (bindings.value reference.name).kind = .mapping → reference.isExploded = true) :
    ((∃ reference ∈ expression.references,
        (bindings.value reference.name).isUndefined = false) →
      ∃ query,
        Expansion.expression bindings expression = expression.operator.symbol ++ query ∧
          readQuery query = (bindings.fields expression.references).map fun field =>
            (decode field.1, some (decode field.2))) ∧
      ((∀ reference ∈ expression.references,
        (bindings.value reference.name).isUndefined = true) →
      Expansion.expression bindings expression = []) := by
  have wellFormed := Template.isWellFormed_of_parse read member
  have isQuery : expression.operator.isQuery = true := by
    rcases isQuery with isQuery | isQuery <;> rw [isQuery] <;> rfl
  rw [Expansion.expression, expressionText_eq _ streamless wellFormed.references,
    OperatorRow.of_isQuery isQuery]
  constructor
  · rintro ⟨reference, isThere, isDefined⟩
    have anyDefined : OperatorRow.defined bindings expression.references ≠ [] :=
      List.ne_nil_of_mem (List.mem_filter.mpr ⟨isThere, by simp [isDefined]⟩)
    have anyField : bindings.fields expression.references ≠ [] := by
      intro noField
      have noneHere := List.flatMap_eq_nil_iff.mp noField reference isThere
      rw [Variable.fields_eq_nil_iff, isDefined] at noneHere
      cases noneHere
    exact ⟨_, OperatorRow.expression_query wellFormed.references isExploded anyDefined,
      readQuery_join anyField⟩
  · intro allUndefined
    have noneDefined : OperatorRow.defined bindings expression.references = [] := by
      rw [OperatorRow.defined, List.filter_eq_nil_iff]
      intro reference isThere
      simp [allUndefined reference isThere]
    rw [OperatorRow.expression, noneDefined]

theorem Expansion.expression_reads_back_query :
    let source := Text.ofString "/find\x7b?q:4,l*,none,m*\x7d"
    let expression : Expression := ⟨.query, [⟨"q", ⟨.cut, 4⟩, by decide⟩,
      ⟨"l", .explode, by decide⟩, ⟨"none", .none, by decide⟩, ⟨"m", .explode, by decide⟩],
      some ⟨5, 22, 1, 6⟩⟩
    let bindings : Bindings := [("q", .text "a=%26&"),
      ("l", .sequence .list [.text [], .null, .text "&"]),
      ("m", .mapping [(.text "=", .text "é")])]
    Template.parse source = .ok ⟨source, [expression]⟩ ∧
      Expansion.expression bindings expression = "?q=a%3D%252&l=&l=%26&%3D=%C3%A9" ∧
      ∃ query, Expansion.expression bindings expression = expression.operator.symbol ++ query ∧
        readQuery query = [("q", "a=%2"), ("l", ""), ("l", "&"), ("=", "é")].map
          fun field : String × String => (decode field.1, some (decode field.2)) := by
  intro source expression bindings
  have read : Template.parse source = .ok ⟨source, [expression]⟩ := by decide +kernel
  have anyDefined : ∃ reference ∈ expression.references,
      (bindings.value reference.name).isUndefined = false := by decide +kernel
  obtain ⟨query, written, readBack⟩ := (expression_reads_back read List.mem_cons_self (.inl rfl)
    (by decide) (by decide +kernel)).1 anyDefined
  exact ⟨read, by decide +kernel, query, written, readBack.trans (by decide +kernel)⟩

end UriTemplate
