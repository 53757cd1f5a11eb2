import UriTemplate.Proofs.Bindings.Listed
import UriTemplate.Proofs.Expansion.Definedness
import UriTemplate.Template
import Mathlib.Data.List.Forall2

namespace UriTemplate

namespace Value

/-- Both values are undefined, or every operator and modifier makes the same text of them. -/
structure ExpandsLike (first second : Value) : Prop where
  isUndefined : first.isUndefined = second.isUndefined
  sameText : first.isUndefined = false → ∀ operator reference,
    Expansion.variableText operator reference first =
      Expansion.variableText operator reference second

/-- Undefined values are not told apart. -/
theorem ExpandsLike.of_undefined {first second : Value} (firstUndefined : first.isUndefined = true)
    (secondUndefined : second.isUndefined = true) : first.ExpandsLike second where
  isUndefined := firstUndefined.trans secondUndefined.symm
  sameText isDefined := absurd firstUndefined (by simp [isDefined])

/-- A collection without its hollow members. The others stay as they are, whatever is hollow in
them. -/
def withoutHollow : Value → Value
  | .sequence form items => .sequence form (items.filter fun item => ¬ item.IsHollow)
  | .mapping pairs => .mapping (pairs.filter fun pair => ¬ pair.2.IsHollow)
  | value => value

/-- A collection without members. -/
def isBare : Value → Bool
  | .sequence _ items => items.isEmpty
  | .mapping pairs => pairs.isEmpty
  | _ => false

/-- A collection without members is undefined. -/
theorem isUndefined_of_isBare {value : Value} (isBare : value.isBare = true) :
    value.isUndefined = true := by
  cases value with
  | sequence form items =>
      obtain rfl := List.isEmpty_iff.mp isBare
      rfl
  | mapping pairs =>
      obtain rfl := List.isEmpty_iff.mp isBare
      rfl
  | _ => cases isBare

/-- The defined items are all defined. -/
theorem definedItems_definedItems (items : List Value) :
    definedItems (definedItems items) = definedItems items := by
  simp [definedItems]

theorem definedPairs_definedPairs (pairs : List (Value × Value)) :
    definedPairs (definedPairs pairs) = definedPairs pairs := by
  simp [definedPairs]

/-- Taking out hollow members defines nothing and undefines nothing. -/
theorem isUndefined_withoutHollow (value : Value) :
    value.withoutHollow.isUndefined = value.isUndefined := by
  rw [Bool.eq_iff_iff]
  cases value with
  | sequence form items =>
      rw [withoutHollow, filter_isHollow_eq_definedItems, isUndefined, isUndefined,
        itemsUndefined_iff, itemsUndefined_iff, definedItems_definedItems]
  | mapping pairs =>
      rw [withoutHollow, filter_isHollow_eq_definedPairs, isUndefined, isUndefined,
        pairsUndefined_iff, pairsUndefined_iff, definedPairs_definedPairs]
  | _ => rfl

/-- Only the defined members of a collection are written. -/
theorem withoutHollow_expandsLike (value : Value) : value.withoutHollow.ExpandsLike value where
  isUndefined := isUndefined_withoutHollow value
  sameText _ operator reference := by
    cases value with
    | sequence form items =>
        rw [withoutHollow, filter_isHollow_eq_definedItems, Expansion.variableText,
          Expansion.variableText, definedItems_definedItems]
    | mapping pairs =>
        rw [withoutHollow, filter_isHollow_eq_definedPairs, Expansion.variableText,
          Expansion.variableText, definedPairs_definedPairs]
    | _ => rfl

/-- Taking out hollow members brings no stream. -/
theorem hasStream_withoutHollow {value : Value} (streamless : value.hasStream = false) :
    value.withoutHollow.hasStream = false := by
  cases value with
  | sequence form items =>
      have members := itemsHaveStream_eq_false_iff.mp streamless
      exact itemsHaveStream_eq_false_iff.mpr fun item member =>
        members item (List.mem_of_mem_filter member)
  | mapping pairs =>
      have members := pairsHaveStream_eq_false_iff.mp streamless
      exact pairsHaveStream_eq_false_iff.mpr fun pair member =>
        members pair (List.mem_of_mem_filter member)
  | _ => exact streamless

end Value

namespace Bindings

/-- Every collection without its hollow members, and no name whose collection becomes bare. -/
def withoutHollow (bindings : Bindings) : Bindings :=
  (bindings.filter fun binding => !(bindings.value binding.1).withoutHollow.isBare).map
    fun binding => (binding.1, binding.2.withoutHollow)

/-- A name loses its binding if no member is left. -/
theorem value_withoutHollow (bindings : Bindings) (name : Text) :
    bindings.withoutHollow.value name =
      if (bindings.value name).withoutHollow.isBare then .null
      else (bindings.value name).withoutHollow := by
  have found := Dictionary.lookup_filter bindings
    (fun name => !(bindings.value name).withoutHollow.isBare) name
  rw [value, withoutHollow, Dictionary.lookup_map _ fun _ => Value.withoutHollow, found]
  cases (bindings.value name).withoutHollow.isBare with
  | true => rfl
  | false =>
      rw [value]
      cases bindings.lookup name <;> rfl

/-- Without hollow members a variable is expanded as before. -/
theorem value_withoutHollow_expandsLike (bindings : Bindings) (name : Text) :
    (bindings.withoutHollow.value name).ExpandsLike (bindings.value name) := by
  rw [value_withoutHollow]
  split
  case isTrue isBare =>
      refine .of_undefined rfl ?_
      rw [← Value.isUndefined_withoutHollow]
      exact Value.isUndefined_of_isBare isBare
  case isFalse => exact Value.withoutHollow_expandsLike _

/-- Bindings without hollow members are streamless if they were before. -/
theorem streamless_withoutHollow {bindings : Bindings} (streamless : bindings.Streamless) :
    bindings.withoutHollow.Streamless := by
  intro binding member
  obtain ⟨original, isThere, rfl⟩ := List.mem_map.mp member
  exact Value.hasStream_withoutHollow (streamless original (List.mem_of_mem_filter isThere))

end Bindings

namespace Expansion

variable {first second : Bindings}

/-- Values that expand alike can stand for one another in the variables of an expression. -/
theorem variableTexts_of_expandsLike (operator : Operator) (isFirst : Bool)
    {first second : List (Variable × Value)}
    (alike : List.Forall₂
      (fun first second => first.1 = second.1 ∧ first.2.ExpandsLike second.2) first second) :
    variableTexts operator isFirst first = variableTexts operator isFirst second := by
  induction alike generalizing isFirst with
  | nil => rfl
  | @cons here there _ _ related _ inductionHypothesis =>
      have ⟨sameReference, sameValue⟩ := related
      rw [variableTexts, variableTexts, sameReference, ← sameValue.isUndefined]
      split
      case isTrue => exact inductionHypothesis isFirst
      case isFalse isDefined =>
          rw [sameValue.sameText (by simpa using isDefined), inductionHypothesis false]

/-- Values that expand alike give the same text in an expression. -/
theorem variableTexts_congr (operator : Operator) (isFirst : Bool) {references : List Variable}
    (alike : ∀ reference ∈ references,
      (first.value reference.name).ExpandsLike (second.value reference.name)) :
    variableTexts operator isFirst
        (references.map fun reference => (reference, first.value reference.name)) =
      variableTexts operator isFirst
        (references.map fun reference => (reference, second.value reference.name)) := by
  apply variableTexts_of_expandsLike
  rw [List.forall₂_map_left_iff, List.forall₂_map_right_iff, List.forall₂_same]
  exact fun reference member => ⟨rfl, alike reference member⟩

section Streamless

variable (firstStreamless : first.Streamless) (secondStreamless : second.Streamless)

include firstStreamless secondStreamless

/-- Values that expand alike can stand for one another in all expressions. -/
theorem templateFrom_congr (raw : Text) (previous : Nat) {expressions : List Expression}
    (alike : ∀ expression ∈ expressions, ∀ reference ∈ expression.references,
      (first.value reference.name).ExpandsLike (second.value reference.name)) :
    templateFrom raw previous first expressions =
      templateFrom raw previous second expressions := by
  induction expressions generalizing previous with
  | nil => rfl
  | cons expression rest inductionHypothesis =>
      have ⟨here, others⟩ := List.forall_mem_cons.mp alike
      simp only [templateFrom, resolve_of_streamless firstStreamless,
        resolve_of_streamless secondStreamless, expressionText,
        variableTexts_congr expression.operator true here, inductionHypothesis _ others]

end Streamless

end Expansion

/-- Members with nothing in them can be taken out of every collection, and a collection of which
nothing is left can be taken out of the bindings. -/
theorem Template.expand_withoutHollow (template : Template) {bindings : Bindings}
    (streamless : bindings.Streamless) (strict : Bool) :
    template.expand bindings.withoutHollow strict = template.expand bindings strict := by
  have sameText : Expansion.template template bindings.withoutHollow =
      Expansion.template template bindings :=
    Expansion.templateFrom_congr (Bindings.streamless_withoutHollow streamless) streamless _ _
      fun _ _ reference _ => bindings.value_withoutHollow_expandsLike reference.name
  rw [expand, expand, sameText]

theorem Template.expand_withoutHollow_nested :
    let template : Template := ⟨"\x7b?l*,m,e,t\x7d",
      [⟨.query, [⟨"l", .explode, by decide⟩, ⟨"m", .none, by decide⟩, ⟨"e", .none, by decide⟩,
        ⟨"t", .none, by decide⟩], some ⟨0, 11, 1, 1⟩⟩]⟩
    let whole : Value := .sequence .tuple [.null, .text "a"]
    let hollow : Value := .mapping [(.text "k", .sequence .list [.null])]
    let bindings : Bindings := [("l", .sequence .list [hollow, whole, .null, .text []]),
      ("e", .sequence .tuple [hollow, .null]), ("t", .text "b"),
      ("m", .mapping [(.text "x", .null), (.text "y", .integer 7)])]
    Template.parse template.raw = .ok template ∧ bindings.Streamless ∧
      bindings.withoutHollow.names = ["l", "t", "m"] ∧
      template.expand bindings false = .ok "?l=%28None%2C%20%27a%27%29&l=&m=y,7&t=b" ∧
      template.expand bindings.withoutHollow false = template.expand bindings false := by
  intro template whole hollow bindings
  have streamless : bindings.Streamless := by decide
  have expanded : Expansion.template template bindings =
      "?l=%28None%2C%20%27a%27%29&l=&m=y,7&t=b" := by decide +kernel
  exact ⟨by decide +kernel, streamless, by decide +kernel, congrArg Except.ok expanded,
    Template.expand_withoutHollow template streamless false⟩

end UriTemplate
