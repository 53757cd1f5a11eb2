import UriTemplate.Text.Basic

/-
This file defines dictionaries that keep their names in the order of first arrival.
-/

namespace UriTemplate

abbrev Dictionary (α : Type) := List (Text × α)

namespace Dictionary

variable {α : Type}

def names (dictionary : Dictionary α) : List Text :=
  dictionary.map Prod.fst

/-- A name that is there keeps its place and gets the new value; a new name goes last. -/
def insert (dictionary : Dictionary α) (name : Text) (value : α) : Dictionary α :=
  match dictionary with
  | [] => [(name, value)]
  | entry :: rest =>
      if entry.1 = name then (name, value) :: rest else entry :: insert rest name value

/-- The entries of the second dictionary are inserted one after another. -/
def insertAll (dictionary entries : Dictionary α) : Dictionary α :=
  entries.foldl (fun dictionary entry => dictionary.insert entry.1 entry.2) dictionary

def erase (dictionary : Dictionary α) (name : Text) : Dictionary α :=
  dictionary.filter fun entry => entry.1 ≠ name

theorem names_cons (entry : Text × α) (rest : Dictionary α) :
    names (entry :: rest) = entry.1 :: names rest :=
  rfl

/-- Only a new name changes the names, and it goes last. -/
theorem names_insert (dictionary : Dictionary α) (name : Text) (value : α) :
    (dictionary.insert name value).names =
      if name ∈ dictionary.names then dictionary.names else dictionary.names ++ [name] := by
  induction dictionary with
  | nil => rfl
  | cons entry rest inductionHypothesis =>
      rw [insert, names_cons]
      by_cases same : entry.1 = name
      · rw [if_pos same, names_cons, same, if_pos List.mem_cons_self]
      · rw [if_neg same, names_cons, inductionHypothesis]
        simp only [List.mem_cons, Ne.symm same, false_or]
        split <;> rfl

theorem lookup_insert_self (dictionary : Dictionary α) (name : Text) (value : α) :
    (dictionary.insert name value).lookup name = some value := by
  induction dictionary with
  | nil => simp [insert]
  | cons entry rest inductionHypothesis =>
      unfold insert
      by_cases same : entry.1 = name
      · simp [same]
      · have different : (name == entry.1) = false := by
          simpa using fun equal : name = entry.1 => same equal.symm
        rw [if_neg same, List.lookup_cons, different]
        exact inductionHypothesis

theorem lookup_insert_of_ne (dictionary : Dictionary α) (value : α) {name other : Text}
    (different : other ≠ name) :
    (dictionary.insert name value).lookup other = dictionary.lookup other := by
  have distinct : (other == name) = false := by simpa using different
  induction dictionary with
  | nil => simp [insert, List.lookup_cons, distinct]
  | cons entry rest inductionHypothesis =>
      unfold insert
      by_cases same : entry.1 = name
      · rw [if_pos same, List.lookup_cons, List.lookup_cons, same, distinct]
      · rw [if_neg same, List.lookup_cons, List.lookup_cons, inductionHypothesis]

/-- A change of the values that may depend on their names. -/
theorem lookup_map {β : Type} (dictionary : Dictionary α) (change : Text → α → β) (name : Text) :
    (dictionary.map fun entry => (entry.1, change entry.1 entry.2)).lookup name =
      (dictionary.lookup name).map (change name) := by
  induction dictionary with
  | nil => rfl
  | cons entry rest inductionHypothesis =>
      rw [List.map_cons, List.lookup_cons, List.lookup_cons, inductionHypothesis]
      cases same : name == entry.1 with
      | true =>
          rw [eq_of_beq same]
          rfl
      | false => rfl

/-- The names that are kept keep their values. -/
theorem lookup_filter (dictionary : Dictionary α) (keeps : Text → Bool) (name : Text) :
    (dictionary.filter fun entry => keeps entry.1).lookup name =
      if keeps name then dictionary.lookup name else none := by
  induction dictionary with
  | nil => exact (ite_self _).symm
  | cons entry rest inductionHypothesis =>
      rw [List.filter_cons]
      by_cases kept : keeps entry.1 = true
      · rw [if_pos kept, List.lookup_cons, List.lookup_cons, inductionHypothesis]
        cases same : name == entry.1 with
        | true => exact (if_pos (eq_of_beq same ▸ kept)).symm
        | false => rfl
      · rw [if_neg kept, List.lookup_cons, inductionHypothesis]
        cases same : name == entry.1 with
        | true => rw [eq_of_beq same, if_neg kept, if_neg kept]
        | false => rfl

end Dictionary

end UriTemplate
