import UriTemplate.Bindings

/-
This file reads bindings from texts of the form `name=value`. A name that is assigned more than
once is bound to the list of its texts.
-/

namespace UriTemplate.Assignments

/-- A text that assigns nothing. -/
structure Malformed where
  item : Text
  deriving DecidableEq

def Malformed.message (fault : Malformed) : Text :=
  "Expected name=value, got '" ++ fault.item ++ "'"

/-- The name in front of the first equals sign, and the text behind it. -/
def split (item : Text) : Except Malformed (Text × Text) :=
  match Text.cut '=' item with
  | (_, none) => .error ⟨item⟩
  | (name, some value) => if name = [] then .error ⟨item⟩ else .ok (name, value)

/-- The first text of a name stands by itself. With the second one a list begins, which takes the
others at its end. -/
def add (values : Bindings) (assignment : Text × Text) : Bindings :=
  match values.lookup assignment.1 with
  | none => values.insert assignment.1 (.text assignment.2)
  | some (.sequence .list texts) =>
      values.insert assignment.1 (.sequence .list (texts ++ [.text assignment.2]))
  | some value =>
      values.insert assignment.1 (.sequence .list [value, .text assignment.2])

/-- The first malformed text is reported. -/
def read (items : List Text) : Except Malformed Bindings :=
  items.foldlM (fun values item => (split item).map (add values)) []

end UriTemplate.Assignments
