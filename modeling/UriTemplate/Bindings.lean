import UriTemplate.Dictionary
import UriTemplate.Value.Stream

/-
This file defines bindings, which give values to names.
-/

namespace UriTemplate

/-- The first pair of a name counts. Values are trees, so no two names share a stream. -/
abbrev Bindings := Dictionary Value

namespace Bindings

/-- A name without a value is undefined. -/
def value (bindings : Bindings) (name : Text) : Value :=
  (bindings.lookup name).getD .null

/-- The second bindings win where both have a name. -/
def overriddenBy (bindings stronger : Bindings) : Bindings :=
  stronger ++ bindings

/-- A value is settled when it is read, and its streams are drained. Every binding has streams of
its own: that one stream is bound to several names, or stands twice in a value, cannot be said
here. -/
def read (bindings : Bindings) (name : Text) : Value × Bindings :=
  ((bindings.value name).settled,
    bindings.map fun binding =>
      if binding.1 = name then (binding.1, binding.2.drained) else binding)

end Bindings

end UriTemplate
