import UriTemplate.Proofs.Expansion.Members
import UriTemplate.Proofs.PercentEncoding.Window
import UriTemplate.Proofs.Value.Octets

namespace UriTemplate

namespace Expansion

variable (operator : Operator)

section Items

variable {first second : Value} (laidOut : first.LaidOut second)

include laidOut

/-- An item has the same text as its octets. -/
theorem item_laidOut : item operator first = item operator second := by
  rw [item, item, laidOut.toText]

theorem explodedItem_laidOut (name : Text) :
    explodedItem operator name first = explodedItem operator name second := by
  rw [explodedItem, explodedItem, laidOut.toText, item_laidOut operator laidOut]

end Items

section Pairs

variable {first second : Value × Value} (laidOut : Value.PairLaidOut first second)

include laidOut

theorem pair_laidOut : pair operator first = pair operator second := by
  rw [pair, pair, laidOut.key.toText, item_laidOut operator laidOut.value]

theorem explodedPair_laidOut : explodedPair operator first = explodedPair operator second := by
  rw [explodedPair, explodedPair, laidOut.key.toText, laidOut.value.toText,
    item_laidOut operator laidOut.value]

end Pairs

/-- The members that are written are the same number in the same order. -/
theorem map_eq_of_laidOut {α : Type} {related : α → α → Prop} (written : α → Text)
    (sameText : ∀ first second, related first second → written first = written second)
    {first second : List α} (members : List.Forall₂ related first second) :
    first.map written = second.map written := by
  rw [← List.forall₂_eq_eq_eq, List.forall₂_map_left_iff, List.forall₂_map_right_iff]
  exact members.imp sameText

section Collections

variable (reference : Variable)

/-- A variable has the same text if octets stand for its value. -/
theorem variableText_laidOut {first second : Value} (laidOut : first.LaidOut second) :
    variableText operator reference first = variableText operator reference second := by
  cases laidOut with
  | same => rfl
  | octets form noSurrogate =>
      exact congrArg (scalar operator reference) (Utf8.decode_encode noSurrogate).symm

/-- A variable has the same text if octets stand for items of its sequence. -/
theorem variableText_sequence_laidOut (form : SequenceForm) {first second : List Value}
    (items : List.Forall₂ Value.LaidOut first second) :
    variableText operator reference (.sequence form first) =
      variableText operator reference (.sequence form second) := by
  have defined := Value.definedItems_laidOut items
  rw [variableText, variableText,
    map_eq_of_laidOut (item operator) (fun _ _ => item_laidOut operator) defined,
    map_eq_of_laidOut (explodedItem operator reference.name)
      (fun _ _ item => explodedItem_laidOut operator item reference.name) defined]

/-- A variable has the same text if octets stand for keys or values of its mapping. -/
theorem variableText_mapping_laidOut {first second : List (Value × Value)}
    (pairs : List.Forall₂ Value.PairLaidOut first second) :
    variableText operator reference (.mapping first) =
      variableText operator reference (.mapping second) := by
  have defined := Value.definedPairs_laidOut pairs
  rw [variableText, variableText,
    map_eq_of_laidOut (pair operator) (fun _ _ => pair_laidOut operator) defined,
    map_eq_of_laidOut (explodedPair operator) (fun _ _ => explodedPair_laidOut operator) defined]

end Collections

end Expansion

/-- A value expands as it does with octets for its texts. -/
theorem Value.LaidOutWithin.expandsLike {first second : Value}
    (laidOut : first.LaidOutWithin second) : first.ExpandsLike second where
  isUndefined := laidOut.isUndefined.symm
  sameText _ operator reference := by
    cases laidOut with
    | whole laidOut => exact Expansion.variableText_laidOut operator reference laidOut
    | sequence form items =>
        exact Expansion.variableText_sequence_laidOut operator reference form items
    | stream items => rfl
    | mapping pairs => exact Expansion.variableText_mapping_laidOut operator reference pairs

namespace Bindings

/-- The same names in the same order, and octets for any of the texts. -/
def LaidOut (first second : Bindings) : Prop :=
  List.Forall₂ (fun first second => first.1 = second.1 ∧ first.2.LaidOutWithin second.2)
    first second

namespace LaidOut

variable {first second : Bindings} (laidOut : first.LaidOut second)

include laidOut

/-- A name has the same value in both bindings, but for octets. -/
theorem value (name : Text) : (first.value name).LaidOutWithin (second.value name) := by
  induction laidOut with
  | nil => exact .whole (.same .null)
  | @cons here there _ _ related _ inductionHypothesis =>
      rw [Bindings.value, Bindings.value, List.lookup_cons, List.lookup_cons, related.1]
      cases name == there.1 with
      | true => exact related.2
      | false => exact inductionHypothesis

/-- Reading drains the same streams on both sides. -/
theorem read (name : Text) : (first.read name).1.LaidOutWithin (second.read name).1 ∧
    (first.read name).2.LaidOut (second.read name).2 := by
  refine ⟨(laidOut.value name).settled, ?_⟩
  rw [LaidOut, Bindings.read, Bindings.read, List.forall₂_map_left_iff,
    List.forall₂_map_right_iff]
  refine laidOut.imp fun here there related => ?_
  rw [related.1]
  split
  · exact ⟨rfl, related.2.drained⟩
  · exact related

end LaidOut

end Bindings

namespace Expansion

/-- Reading keeps the bindings alike, so all that is read is expanded alike. -/
theorem resolve_laidOut (references : List Variable) {first second : Bindings}
    (laidOut : first.LaidOut second) :
    List.Forall₂ (fun first second => first.1 = second.1 ∧ first.2.ExpandsLike second.2)
        (resolve first references).1 (resolve second references).1 ∧
      (resolve first references).2.LaidOut (resolve second references).2 := by
  induction references generalizing first second with
  | nil => exact ⟨.nil, laidOut⟩
  | cons reference rest inductionHypothesis =>
      have ⟨here, behind⟩ := laidOut.read reference.name
      have ⟨others, atEnd⟩ := inductionHypothesis behind
      exact ⟨.cons ⟨rfl, here.expandsLike⟩ others, atEnd⟩

/-- What streams were drained by one expression is the same for the next one on both sides. -/
theorem templateFrom_laidOut (raw : Text) (previous : Nat) (expressions : List Expression)
    {first second : Bindings} (laidOut : first.LaidOut second) :
    templateFrom raw previous first expressions =
      templateFrom raw previous second expressions := by
  induction expressions generalizing previous first second with
  | nil => rfl
  | cons expression rest inductionHypothesis =>
      have ⟨resolved, behind⟩ := resolve_laidOut expression.references laidOut
      rw [templateFrom, templateFrom, expressionText, expressionText,
        variableTexts_of_expandsLike expression.operator true resolved,
        inductionHypothesis _ behind]

end Expansion

/-- Octets can stand for any of the texts that are bound, and a prefix of them has as many code
points as a prefix of the text. -/
theorem Template.expand_octets :
    (∀ (template : Template) (first second : Bindings), first.LaidOut second →
      ∀ strict, template.expand second strict = template.expand first strict) ∧
    ∀ (operator : Operator) (reference : Variable) (length : Nat),
      reference.modifier.limit? = some length → ∀ (form : OctetsForm) (text : Text),
      (∀ codePoint ∈ text, codePoint.isSurrogate = false) →
      Expansion.variableText operator reference (.octets form (Utf8.encode text)) =
        let encoded := PercentEncoding.encode operator.allowsReserved (text.take length)
        if operator.isNamed then
          Expansion.labelled operator.isQuery (PercentEncoding.encodeLiteral reference.name) text
            encoded
        else encoded := by
  constructor
  · intro template first second laidOut strict
    have sameText : Expansion.template template first = Expansion.template template second :=
      Expansion.templateFrom_laidOut _ _ _ laidOut
    rw [expand, expand, sameText]
  · intro operator reference length isCut form text noSurrogate
    rw [← Expansion.variableText_laidOut operator reference (.octets form noSurrogate)]
    change Expansion.scalar operator reference text = _
    rw [Expansion.scalar, isCut, Option.getD_some, PercentEncoding.encodeFirst_eq_encode_take]

/-- Every kind of place at once: a scalar that is cut, an item, a key, a value of a pair and an item
of a stream that is read twice. -/
theorem Template.expand_octets_everywhere :
    let template : Template := ⟨"{?s:2,l*,m*,g}{+g}",
      [⟨.query, [⟨"s", ⟨.cut, 2⟩, by decide⟩, ⟨"l", .explode, by decide⟩,
        ⟨"m", .explode, by decide⟩, ⟨"g", .none, by decide⟩], some ⟨0, 15, 1, 1⟩⟩,
        ⟨.reserved, [⟨"g", .none, by decide⟩], some ⟨15, 19, 1, 16⟩⟩]⟩
    let octets (form : OctetsForm) (text : Text) : Value := .octets form (Utf8.encode text)
    let first : Bindings := [("s", .text "€𝄞x"),
      ("l", .sequence .tuple [.text "é", .null, .integer 7]),
      ("m", .mapping [(.text "ü", .text "%41"), (.text "k", .null)]), ("g", .stream [.text "/"])]
    let second : Bindings := [("s", octets .growable "€𝄞x"),
      ("l", .sequence .tuple [octets .fixed "é", .null, .integer 7]),
      ("m", .mapping [(octets .fixed "ü", octets .growable "%41"), (.text "k", .null)]),
      ("g", .stream [octets .fixed "/"])]
    first.LaidOut second ∧
      template.expand first false =
        .ok "?s=%E2%82%AC%F0%9D%84%9E&l=%C3%A9&l=7&%C3%BC=%41&g=%2F" ∧
      template.expand second false = template.expand first false ∧
      Expansion.variableText .path ⟨"s", ⟨.cut, 1⟩, by decide⟩ (octets .growable "€𝄞x") =
        "%E2%82%AC" := by
  intro template octets first second
  have laidOut : first.LaidOut second :=
    .cons ⟨rfl, .whole (.octets _ (by decide))⟩
      (.cons ⟨rfl, .sequence _ (.cons (.octets _ (by decide))
        (.cons (.same _) (.cons (.same _) .nil)))⟩
      (.cons ⟨rfl, .mapping (.cons ⟨.octets _ (by decide), .octets _ (by decide)⟩
        (.cons ⟨.same _, .same _⟩ .nil))⟩
      (.cons ⟨rfl, .stream (.cons (.octets _ (by decide)) .nil)⟩ .nil)))
  have expanded : Expansion.template template first =
      "?s=%E2%82%AC%F0%9D%84%9E&l=%C3%A9&l=7&%C3%BC=%41&g=%2F" := by decide +kernel
  have isCut := Template.expand_octets.2 .path ⟨"s", ⟨.cut, 1⟩, by decide⟩ 1 rfl .growable
    "€𝄞x" (by decide)
  exact ⟨laidOut, congrArg Except.ok expanded,
    Template.expand_octets.1 template first second laidOut false,
    isCut.trans (by decide +kernel)⟩

end UriTemplate
