import UriTemplate.Proofs.Bindings.Streamless

namespace UriTemplate.Value

def isCollection : Value → Bool
  | .sequence .. => true
  | .stream _ => true
  | .mapping _ => true
  | _ => false

/-- Induction over the members of collections; the keys of a mapping are no members. -/
theorem membersInduction {motive : Value → Prop}
    (plain : ∀ value, value.isCollection = false → motive value)
    (sequence : ∀ form items, (∀ item ∈ items, motive item) → motive (.sequence form items))
    (stream : ∀ items, (∀ item ∈ items, motive item) → motive (.stream items))
    (mapping : ∀ pairs, (∀ pair ∈ pairs, motive pair.2) → motive (.mapping pairs))
    (value : Value) : motive value := by
  refine @Value.rec motive (fun items => ∀ item ∈ items, motive item)
    (fun pairs => ∀ pair ∈ pairs, motive pair.2) (fun pair => motive pair.2)
    (plain _ rfl) (fun _ => plain _ rfl) (fun _ => plain _ rfl) (fun _ => plain _ rfl)
    (fun _ => plain _ rfl) (fun _ _ => plain _ rfl) sequence stream mapping ?_ ?_ ?_ ?_ ?_ value
  case refine_1 => simp
  case refine_2 => exact fun _ _ here others => List.forall_mem_cons.mpr ⟨here, others⟩
  case refine_3 => simp
  case refine_4 => exact fun _ _ here others => List.forall_mem_cons.mpr ⟨here, others⟩
  case refine_5 => exact fun _ _ _ here => here

/-- A value is part of itself, and the parts of its members are parts of it. -/
inductive IsPart (part : Value) : Value → Prop
  | itself : IsPart part part
  | item {form : SequenceForm} {items : List Value} {item : Value} (member : item ∈ items)
      (inside : IsPart part item) : IsPart part (.sequence form items)
  | streamed {items : List Value} {item : Value} (member : item ∈ items)
      (inside : IsPart part item) : IsPart part (.stream items)
  | paired {pairs : List (Value × Value)} {pair : Value × Value} (member : pair ∈ pairs)
      (inside : IsPart part pair.2) : IsPart part (.mapping pairs)

/-- Only collections have streams. -/
theorem hasStream_of_not_isCollection {value : Value} (isPlain : value.isCollection = false) :
    value.hasStream = false := by
  cases value with
  | sequence => cases isPlain
  | stream => cases isPlain
  | mapping => cases isPlain
  | _ => rfl

/-- A value has no stream just if none of its parts is one. -/
theorem hasStream_eq_false_iff {value : Value} :
    value.hasStream = false ↔ ∀ items, ¬ IsPart (.stream items) value := by
  constructor
  · intro streamless items isPart
    induction isPart with
    | itself => cases streamless
    | item member _ inductionHypothesis =>
        exact inductionHypothesis (itemsHaveStream_eq_false_iff.mp streamless _ member)
    | streamed => cases streamless
    | paired member _ inductionHypothesis =>
        exact inductionHypothesis (pairsHaveStream_eq_false_iff.mp streamless _ member)
  · intro noStream
    induction value using membersInduction with
    | plain value isPlain => exact hasStream_of_not_isCollection isPlain
    | sequence form items inductionHypothesis =>
        refine itemsHaveStream_eq_false_iff.mpr fun item member => ?_
        exact inductionHypothesis item member fun _ inside => noStream _ (.item member inside)
    | stream items => exact absurd .itself (noStream items)
    | mapping pairs inductionHypothesis =>
        refine pairsHaveStream_eq_false_iff.mpr fun pair member => ?_
        exact inductionHypothesis pair member fun _ inside => noStream _ (.paired member inside)

end UriTemplate.Value
