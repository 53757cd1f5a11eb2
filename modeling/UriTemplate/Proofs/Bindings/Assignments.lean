import UriTemplate.Bindings.Assignments
import UriTemplate.Proofs.Text.Splitting
import Mathlib.Algebra.GroupWithZero.Nat
import Mathlib.Data.List.Induction

namespace UriTemplate

/-- The value that was there is no longer counted, and the new one is. -/
theorem Dictionary.sum_insert {α : Type} (size : α → Nat) (dictionary : Dictionary α)
    (name : Text) (value : α) :
    ((dictionary.insert name value).map fun entry => size entry.2).sum +
        ((dictionary.lookup name).map size).getD 0 =
      (dictionary.map fun entry => size entry.2).sum + size value := by
  induction dictionary with
  | nil => simp [insert]
  | cons entry rest inductionHypothesis =>
      rw [insert, List.lookup_cons, List.map_cons, List.sum_cons]
      by_cases same : entry.1 = name
      · rw [if_pos same, same, beq_self_eq_true, List.map_cons, List.sum_cons]
        simp only [Option.map_some, Option.getD_some]
        omega
      · rw [if_neg same, beq_eq_false_iff_ne.mpr (Ne.symm same), List.map_cons, List.sum_cons]
        dsimp only
        omega

/-- A change of the values and an insertion can be done in either order. -/
theorem Dictionary.map_insert {α β : Type} (change : α → β) (dictionary : Dictionary α)
    (name : Text) (value : α) :
    (dictionary.insert name value).map (fun entry => (entry.1, change entry.2)) =
      insert (dictionary.map fun entry => (entry.1, change entry.2)) name (change value) := by
  induction dictionary with
  | nil => rfl
  | cons entry rest inductionHypothesis =>
      rw [insert, List.map_cons, insert]
      by_cases same : entry.1 = name
      · rw [if_pos same, if_pos same, List.map_cons]
      · rw [if_neg same, if_neg same, List.map_cons, inductionHypothesis]

namespace Assignments

/-- The texts of each name stay in their order. -/
def addText (groups : Dictionary (List Text)) (assignment : Text × Text) :
    Dictionary (List Text) :=
  groups.insert assignment.1 ((groups.lookup assignment.1).getD [] ++ [assignment.2])

def group (assignments : List (Text × Text)) : Dictionary (List Text) :=
  assignments.foldl addText []

/-- What the texts of a name are bound as. -/
def valueOf : List Text → Value
  | [text] => .text text
  | texts => .sequence .list (texts.map Value.text)

/-- Names with the values that their texts are bound as. -/
def valuesOf (groups : Dictionary (List Text)) : Bindings :=
  groups.map fun entry => (entry.1, valueOf entry.2)

/-- The text in front of the first equals sign. -/
def nameOf (item : Text) : Text :=
  item.takeWhile fun codePoint => codePoint ≠ CodePoint.ofChar '='

/-- The text behind the first equals sign, further ones included. -/
def textOf (item : Text) : Text :=
  (item.dropWhile fun codePoint => codePoint ≠ CodePoint.ofChar '=').drop 1

/-- There is no equals sign, or nothing in front of the first one. -/
def IsMalformed (item : Text) : Prop :=
  CodePoint.ofChar '=' ∉ item ∨ nameOf item = []

instance (item : Text) : Decidable (IsMalformed item) :=
  inferInstanceAs (Decidable (CodePoint.ofChar '=' ∉ item ∨ nameOf item = []))

/-- What the name is given by the items, in their order. -/
def textsFor (items : List Text) (name : Text) : List Text :=
  (items.filter fun item => nameOf item = name).map textOf

/-- How many texts a name is bound to. -/
def textCount : Value → Nat
  | .text _ => 1
  | .sequence _ texts => texts.length
  | _ => 0

/-- An assignment is cut at its first equals sign; without one, or without a name, it is malformed.
-/
theorem split_eq (item : Text) :
    split item = if IsMalformed item then .error ⟨item⟩ else .ok (nameOf item, textOf item) := by
  rw [split, Text.cut_eq]
  by_cases hasEquals : CodePoint.ofChar '=' ∈ item
  · simp [IsMalformed, hasEquals, nameOf, textOf]
  · simp [IsMalformed, hasEquals]

/-! One more assignment changes what its name is bound to and leaves the other names alone. -/

section Groups

variable (groups : Dictionary (List Text)) (assignment : Text × Text)

/-- Only a name that is assigned for the first time is new, and it goes last. -/
theorem names_addText :
    (addText groups assignment).names =
      if assignment.1 ∈ groups.names then groups.names else groups.names ++ [assignment.1] :=
  Dictionary.names_insert _ _ _

/-- The text goes behind those that its name has already. -/
theorem lookup_addText (name : Text) :
    ((addText groups assignment).lookup name).getD [] =
      (groups.lookup name).getD [] ++ if assignment.1 = name then [assignment.2] else [] := by
  rw [addText]
  split
  · next same => rw [← same, Dictionary.lookup_insert_self, Option.getD_some]
  · next different =>
      rw [Dictionary.lookup_insert_of_ne _ _ (Ne.symm different), List.append_nil]

/-- There is one text more. -/
theorem sum_addText :
    ((addText groups assignment).map fun entry => entry.2.length).sum =
      (groups.map fun entry => entry.2.length).sum + 1 := by
  have counted := Dictionary.sum_insert List.length groups assignment.1
    ((groups.lookup assignment.1).getD [] ++ [assignment.2])
  have sameLength : ((groups.lookup assignment.1).map List.length).getD 0 =
      ((groups.lookup assignment.1).getD []).length := by
    cases groups.lookup assignment.1 <;> rfl
  rw [sameLength, List.length_append, List.length_singleton, ← Nat.add_assoc] at counted
  rw [addText]
  omega

/-- A name that is there has at least one text. -/
theorem ne_nil_addText (nonempty : ∀ name, groups.lookup name ≠ some []) (name : Text) :
    (addText groups assignment).lookup name ≠ some [] := by
  rw [addText]
  by_cases same : name = assignment.1
  · rw [same, Dictionary.lookup_insert_self]
    simp
  · rw [Dictionary.lookup_insert_of_ne _ _ same]
    exact nonempty name

/-- The value of a name goes through the same states as its texts: none, one, and more of them. -/
theorem add_valuesOf (nonempty : ∀ name, groups.lookup name ≠ some []) :
    add (valuesOf groups) assignment = valuesOf (addText groups assignment) := by
  have found : (valuesOf groups).lookup assignment.1 =
      (groups.lookup assignment.1).map valueOf :=
    Dictionary.lookup_map groups (fun _ => valueOf) assignment.1
  rw [add, found, addText, valuesOf, valuesOf, Dictionary.map_insert]
  have isNonempty := nonempty assignment.1
  generalize groups.lookup assignment.1 = texts at isNonempty ⊢
  rcases texts with _ | _ | ⟨first, _ | ⟨second, rest⟩⟩
  · rfl
  · exact absurd rfl isNonempty
  · rfl
  · simp [valueOf]

end Groups

section Group

variable (assignments : List (Text × Text))

/-- A further assignment is added to the groups of those before it. -/
theorem group_concat (last : Text × Text) :
    group (assignments ++ [last]) = addText (group assignments) last := by
  rw [group, List.foldl_append]
  rfl

/-- The groups stand in the order in which their names come up first. -/
theorem names_group : (group assignments).names = (assignments.map Prod.fst).eraseDups := by
  induction assignments using List.reverseRecOn with
  | nil => rfl
  | append_singleton assignments last inductionHypothesis =>
      rw [group_concat, names_addText, inductionHypothesis, List.map_append, List.eraseDups_append]
      simp only [List.mem_eraseDups, List.map_singleton]
      by_cases isOld : last.1 ∈ assignments.map Prod.fst
      · simp [isOld, List.removeAll]
      · simp [isOld, List.removeAll, List.eraseDups_cons]

/-- The group of a name holds its texts in the order of the assignments. -/
theorem lookup_group (name : Text) :
    ((group assignments).lookup name).getD [] =
      (assignments.filter fun assignment => assignment.1 = name).map Prod.snd := by
  induction assignments using List.reverseRecOn with
  | nil => rfl
  | append_singleton assignments last inductionHypothesis =>
      rw [group_concat, lookup_addText, inductionHypothesis, List.filter_append, List.map_append]
      congr 1
      by_cases same : last.1 = name <;> simp [same]

/-- Every assignment is in one group. -/
theorem sum_group :
    ((group assignments).map fun entry => entry.2.length).sum = assignments.length := by
  induction assignments using List.reverseRecOn with
  | nil => rfl
  | append_singleton assignments last inductionHypothesis =>
      rw [group_concat, sum_addText, inductionHypothesis, List.length_append, List.length_singleton]

/-- A group is made for a text and never without one. -/
theorem ne_nil_group (name : Text) : (group assignments).lookup name ≠ some [] := by
  induction assignments using List.reverseRecOn generalizing name with
  | nil => nofun
  | append_singleton assignments last inductionHypothesis =>
      rw [group_concat]
      exact ne_nil_addText _ last inductionHypothesis name

/-- Binding text after text gives the values of the groups. -/
theorem foldl_add : assignments.foldl add [] = valuesOf (group assignments) := by
  induction assignments using List.reverseRecOn with
  | nil => rfl
  | append_singleton assignments last inductionHypothesis =>
      rw [List.foldl_append, List.foldl_cons, List.foldl_nil, inductionHypothesis,
        add_valuesOf _ last (ne_nil_group assignments), group_concat]

end Group

/-! The texts are bound one after another, up to the first malformed one. -/

section Read

variable {items : List Text}

/-- It makes no difference if all texts are split before the first of them is bound. -/
theorem read_eq (items : List Text) :
    read items = (items.mapM split).map fun assignments => assignments.foldl add [] := by
  have step (values : Bindings) :
      items.foldlM (fun values item => (split item).map (add values)) values =
        (items.mapM split).map fun assignments => assignments.foldl add values := by
    induction items generalizing values with
    | nil => rfl
    | cons item rest inductionHypothesis =>
        rw [List.foldlM_cons, List.mapM_cons]
        cases split item with
        | error fault => rfl
        | ok assignment =>
            refine (inductionHypothesis (add values assignment)).trans ?_
            cases rest.mapM split <;> rfl
  exact step []

/-- If no item is malformed, all of them are split. -/
theorem mapM_split_of_wellFormed (wellFormed : ∀ item ∈ items, ¬ IsMalformed item) :
    items.mapM split = .ok (items.map fun item => (nameOf item, textOf item)) := by
  induction items with
  | nil => rfl
  | cons item rest inductionHypothesis =>
      have ⟨here, others⟩ := List.forall_mem_cons.mp wellFormed
      rw [List.mapM_cons, split_eq, if_neg here, inductionHypothesis others]
      rfl

/-- The first malformed item ends the splitting, whatever comes after it. -/
theorem mapM_split_of_malformed {before : List Text}
    (wellFormed : ∀ item ∈ before, ¬ IsMalformed item) {item : Text}
    (isMalformed : IsMalformed item) (behind : List Text) :
    (before ++ item :: behind).mapM split = .error ⟨item⟩ := by
  rw [List.mapM_append, mapM_split_of_wellFormed wellFormed, List.mapM_cons, split_eq,
    if_pos isMalformed]
  rfl

/-- A list of texts has a first malformed one unless all of them assign something. -/
theorem exists_first_malformed (someMalformed : ∃ item ∈ items, IsMalformed item) :
    ∃ before item behind, items = before ++ item :: behind ∧
      (∀ item ∈ before, ¬ IsMalformed item) ∧ IsMalformed item := by
  have isFound : (items.find? fun item => decide (IsMalformed item)).isSome = true :=
    List.find?_isSome.mpr (by simpa using someMalformed)
  obtain ⟨item, found⟩ := Option.isSome_iff_exists.mp isFound
  obtain ⟨isMalformed, before, behind, isSplit, wellFormed⟩ :=
    List.find?_eq_some_iff_append.mp found
  exact ⟨before, item, behind, isSplit, by simpa using wellFormed, by simpa using isMalformed⟩

/-- The first malformed item is the one that is reported. -/
theorem read_of_malformed {before : List Text} (wellFormed : ∀ item ∈ before, ¬ IsMalformed item)
    {item : Text} (isMalformed : IsMalformed item) (behind : List Text) :
    read (before ++ item :: behind) = .error ⟨item⟩ := by
  rw [read_eq, mapM_split_of_malformed wellFormed isMalformed]
  rfl

/-- What a list of texts binds that all assign something. -/
def bound (items : List Text) : Bindings :=
  valuesOf (group (items.map fun item => (nameOf item, textOf item)))

/-- If no item is malformed, all of them are bound. -/
theorem read_of_wellFormed (wellFormed : ∀ item ∈ items, ¬ IsMalformed item) :
    read items = .ok (bound items) := by
  rw [read_eq, mapM_split_of_wellFormed wellFormed, bound, ← foldl_add]
  rfl

/-- A reported item is malformed, and no earlier one is. -/
theorem read_eq_error_iff {fault : Malformed} :
    read items = .error fault ↔
      ∃ before behind, items = before ++ fault.item :: behind ∧
        (∀ item ∈ before, ¬ IsMalformed item) ∧ IsMalformed fault.item := by
  constructor
  · intro failed
    by_cases someMalformed : ∃ item ∈ items, IsMalformed item
    · obtain ⟨before, item, behind, rfl, wellFormed, isMalformed⟩ :=
        exists_first_malformed someMalformed
      rw [read_of_malformed wellFormed isMalformed] at failed
      obtain rfl := Except.error.inj failed
      exact ⟨before, behind, rfl, wellFormed, isMalformed⟩
    · push Not at someMalformed
      rw [read_of_wellFormed someMalformed] at failed
      cases failed
  · rintro ⟨before, behind, rfl, wellFormed, isMalformed⟩
    exact read_of_malformed wellFormed isMalformed behind

end Read

/-! What the texts of a name are bound as depends on how many there are. -/

section Bound

variable (items : List Text)

/-- The bound names stand in the order in which they come up first. -/
theorem names_bound : (bound items).names = (items.map nameOf).eraseDups := by
  rw [bound, valuesOf, Dictionary.names, List.map_map]
  refine (names_group _).trans ?_
  rw [List.map_map]
  rfl

/-- Every item leaves one text in the bindings. -/
theorem sum_bound : ((bound items).map fun binding => textCount binding.2).sum = items.length := by
  have sameCount (texts : List Text) : textCount (valueOf texts) = texts.length := by
    rcases texts with _ | ⟨first, _ | ⟨second, rest⟩⟩
    · rfl
    · rfl
    · simp [valueOf, textCount]
  have counted := sum_group (items.map fun item => (nameOf item, textOf item))
  rw [List.length_map] at counted
  rw [bound, valuesOf, List.map_map, ← counted]
  simp only [Function.comp_def, sameCount]

/-- A name has as many texts as there are items that assign to it. -/
theorem length_textsFor (name : Text) :
    (textsFor items name).length = (items.map nameOf).count name := by
  rw [textsFor, List.length_map, List.count, List.countP_map, List.countP_eq_length_filter]
  simp only [Function.comp_def, beq_eq_decide]

/-- A name is bound to its only text or to the list of its texts. -/
theorem lookup_bound {name : Text} (isNamed : name ∈ items.map nameOf) :
    (bound items).lookup name = some (valueOf (textsFor items name)) := by
  have given := lookup_group (items.map fun item => (nameOf item, textOf item)) name
  rw [List.filter_map, List.map_map] at given
  rw [bound, valuesOf, Dictionary.lookup_map _ fun _ => valueOf]
  cases found : (group (items.map fun item => (nameOf item, textOf item))).lookup name with
  | some texts =>
      rw [found, Option.getD_some] at given
      rw [Option.map_some, given]
      rfl
  | none =>
      rw [found] at given
      exact absurd given.symm (by simpa [textsFor, List.filter_eq_nil_iff] using isNamed)

end Bound

/-- The first text that assigns nothing is reported. If there is none, the names are bound in the
order in which they occur for the first time, a single text as it is and more of them as a list in
their order, and no text is lost. -/
theorem read_groups (items : List Text) :
    ((∃ fault, read items = .error fault) ↔ ∃ item ∈ items, IsMalformed item) ∧
      (∀ fault, read items = .error fault ↔
        ∃ before behind, items = before ++ fault.item :: behind ∧
          (∀ item ∈ before, ¬ IsMalformed item) ∧ IsMalformed fault.item) ∧
      ((∀ item ∈ items, ¬ IsMalformed item) → ∃ bindings, read items = .ok bindings ∧
        bindings.names = (items.map nameOf).eraseDups ∧
        (∀ item ∈ items, (items.map nameOf).count (nameOf item) = 1 →
          bindings.lookup (nameOf item) = some (.text (textOf item))) ∧
        (∀ name, 2 ≤ (items.map nameOf).count name →
          (textsFor items name).length = (items.map nameOf).count name ∧
          bindings.lookup name = some (.sequence .list ((textsFor items name).map .text))) ∧
        (bindings.map fun binding => textCount binding.2).sum = items.length) := by
  refine ⟨⟨?_, ?_⟩, fun _ => read_eq_error_iff, fun wellFormed => ?_⟩
  · rintro ⟨fault, failed⟩
    obtain ⟨before, behind, rfl, -, isMalformed⟩ := read_eq_error_iff.mp failed
    exact ⟨fault.item, by simp, isMalformed⟩
  · intro someMalformed
    obtain ⟨before, item, behind, rfl, wellFormed, isMalformed⟩ :=
      exists_first_malformed someMalformed
    exact ⟨_, read_of_malformed wellFormed isMalformed behind⟩
  refine ⟨bound items, read_of_wellFormed wellFormed, names_bound items, ?_, ?_, sum_bound items⟩
  · intro item member once
    have single : textsFor items (nameOf item) = [textOf item] := by
      have length := length_textsFor items (nameOf item)
      rw [once] at length
      obtain ⟨text, isSingle⟩ := List.length_eq_one_iff.mp length
      have isThere : textOf item ∈ textsFor items (nameOf item) :=
        List.mem_map_of_mem (List.mem_filter.mpr ⟨member, by simp⟩)
      rw [isSingle] at isThere ⊢
      rw [List.mem_singleton.mp isThere]
    rw [lookup_bound items (List.mem_map_of_mem member), single]
    rfl
  · intro name often
    have length := length_textsFor items name
    have isNamed : name ∈ items.map nameOf := List.count_pos_iff.mp (by omega)
    refine ⟨length, ?_⟩
    rw [lookup_bound items isNamed]
    -- A single text would not be bound as a list.
    cases texts : textsFor items name with
    | nil => rfl
    | cons first rest =>
        cases rest with
        | nil =>
            rw [texts, List.length_singleton] at length
            omega
        | cons second rest => rfl

theorem read_groups_interleaved :
    let items : List Text := ["b=1", "a=x=y", "b=", "c==", "b=1"]
    let bindings : Bindings := [("b", .sequence .list [.text "1", .text [], .text "1"]),
      ("a", .text "x=y"), ("c", .text "=")]
    read items = .ok bindings ∧ bindings.names = (items.map nameOf).eraseDups ∧
      bindings.lookup (Text.ofString "a") = some (.text "x=y") ∧
      bindings.lookup (Text.ofString "b") =
        some (.sequence .list ((textsFor items "b").map .text)) ∧
      (bindings.map fun binding => textCount binding.2).sum = 5 ∧
      read ["a=1", "=1", "a"] = .error ⟨"=1"⟩ := by
  intro items bindings
  have isRead : read items = .ok bindings := rfl
  obtain ⟨-, -, groups⟩ := read_groups items
  obtain ⟨found, isFound, names, once, often, counted⟩ := groups (by decide +kernel)
  obtain rfl : bindings = found := Except.ok.inj (isRead.symm.trans isFound)
  have isError := ((read_groups ["a=1", "=1", "a"]).2.1 ⟨"=1"⟩).mpr
    ⟨["a=1"], ["a"], rfl, by decide +kernel, by decide +kernel⟩
  exact ⟨isRead, names, once "a=x=y" (by decide +kernel) (by decide +kernel),
    (often "b" (by decide +kernel)).2, counted, isError⟩

end Assignments

end UriTemplate
