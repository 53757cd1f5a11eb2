import UriTemplate.Proofs.Bindings.Streamless

namespace UriTemplate

namespace Value

def isStream : Value → Bool
  | .stream _ => true
  | _ => false

/-- The list of its items stands for a stream. -/
def listed : Value → Value
  | .stream items => .sequence .list items
  | value => value

/-- The items of a stream hold no stream themselves. -/
def yieldsPlain : Value → Bool
  | .stream items => !itemsHaveStream items
  | _ => true

/-- A stream of plain items settles to the list of them. -/
theorem settled_stream {items : List Value} (plain : itemsHaveStream items = false) :
    (stream items).settled = .sequence .list items := by
  rw [settled, rebuild?, rebuildItems_of_streamless plain]
  rfl

/-- A list of plain items has no stream left in it. -/
theorem hasStream_listed {value : Value} (isStream : value.isStream = true)
    (plain : value.yieldsPlain = true) : value.listed.hasStream = false := by
  cases value with
  | stream items =>
      rw [yieldsPlain, Bool.not_eq_true'] at plain
      exact plain
  | _ => cases isStream

/-- Writing a stream out as a list does not change what it settles to. -/
theorem settled_listed {value : Value} (plain : value.yieldsPlain = true) :
    value.listed.settled = value.settled := by
  cases value with
  | stream items =>
      rw [settled_of_streamless (hasStream_listed rfl plain)]
      rw [yieldsPlain, Bool.not_eq_true'] at plain
      exact (settled_stream plain).symm
  | _ => rfl

end Value

namespace Bindings

variable {bindings : Bindings}

def isStream (bindings : Bindings) (name : Text) : Bool :=
  (bindings.value name).isStream

/-- Every name that is bound to a stream is bound to a list instead. -/
def listed (bindings : Bindings) : Bindings :=
  bindings.map fun binding => (binding.1, binding.2.listed)

/-- What the streams yield holds no stream. -/
def YieldPlain (bindings : Bindings) : Prop :=
  ∀ binding ∈ bindings, binding.2.yieldsPlain = true

instance (bindings : Bindings) : Decidable bindings.YieldPlain :=
  inferInstanceAs (Decidable (∀ binding ∈ bindings, binding.2.yieldsPlain = true))

/-- The value of a name among the listed bindings is the listed value. -/
theorem value_listed (bindings : Bindings) (name : Text) :
    bindings.listed.value name = (bindings.value name).listed := by
  rw [value, listed, Dictionary.lookup_map bindings fun _ => Value.listed, value]
  cases bindings.lookup name <;> rfl

/-- Reading a name drains its own value and leaves the others. -/
theorem value_behind_read (bindings : Bindings) (name other : Text) :
    (bindings.read name).2.value other =
      if other = name then (bindings.value other).drained else bindings.value other := by
  have sameMap : (bindings.map fun binding =>
      if binding.1 = name then (binding.1, binding.2.drained) else binding) =
      bindings.map fun binding =>
        (binding.1, if binding.1 = name then binding.2.drained else binding.2) := by
    apply List.map_congr_left
    intro binding _
    split <;> rfl
  change value (bindings.map fun binding =>
    if binding.1 = name then (binding.1, binding.2.drained) else binding) other = _
  rw [sameMap, value, value,
    Dictionary.lookup_map bindings fun label value => if label = name then value.drained else value]
  cases bindings.lookup other with
  | none => exact (ite_self _).symm
  | some value => rfl

/-- What a name is bound to yields plain items only. -/
theorem yieldsPlain_value (plain : bindings.YieldPlain) (name : Text) :
    (bindings.value name).yieldsPlain = true := by
  rw [value]
  cases found : bindings.lookup name with
  | none => rfl
  | some value =>
      obtain ⟨before, behind, rfl, -⟩ := List.lookup_eq_some_iff.mp found
      exact plain (name, value) (by simp)

/-- Bindings that have been read in turn beside bindings with lists for the streams. Of a name that
was read before only an empty stream is left. -/
structure Follows (bindings lists : Bindings) (isStream : Text → Bool) (seen : List Text) :
    Prop where
  spent : ∀ name ∈ seen, isStream name = true → bindings.value name = .stream []
  fresh : ∀ name ∉ seen, isStream name = true → (bindings.value name).isStream = true ∧
    (bindings.value name).yieldsPlain = true ∧ lists.value name = (bindings.value name).listed
  others : ∀ name, isStream name = false → bindings.value name = lists.value name

namespace Follows

variable {lists : Bindings} {isStream : Text → Bool} {seen : List Text} {name : Text}

/-- Before anything is read, the bindings follow the listed ones. -/
theorem start (plain : bindings.YieldPlain) :
    bindings.Follows bindings.listed bindings.isStream [] where
  spent name isSeen := absurd isSeen List.not_mem_nil
  fresh name _ isStream := ⟨isStream, yieldsPlain_value plain name, value_listed bindings name⟩
  others name noStream := by
    rw [value_listed]
    rw [Bindings.isStream] at noStream
    cases isValue : bindings.value name with
    | stream items =>
        rw [isValue] at noStream
        cases noStream
    | _ => rfl

/-- A stream that was read before gives nothing more. -/
theorem read_again (follows : bindings.Follows lists isStream seen) (isSeen : name ∈ seen)
    (streams : isStream name = true) :
    (bindings.read name).1.isUndefined = true ∧
      (bindings.read name).2.Follows lists isStream (seen ++ [name]) := by
  have isEmpty : bindings.value name = .stream [] := follows.spent name isSeen streams
  have unchanged (other : Text) : (bindings.read name).2.value other = bindings.value other := by
    rw [value_behind_read]
    split
    · next same =>
        rw [same, isEmpty]
        rfl
    · rfl
  have sameSeen (other : Text) : other ∈ seen ++ [name] ↔ other ∈ seen := by
    rw [List.mem_append, List.mem_singleton]
    exact or_iff_left_of_imp fun same => same ▸ isSeen
  refine ⟨?_, ?_, ?_, ?_⟩
  · rw [read, isEmpty]
    rfl
  · intro other member
    rw [unchanged]
    exact follows.spent other ((sameSeen other).mp member)
  · intro other isFresh
    rw [unchanged]
    exact follows.fresh other (mt (sameSeen other).mpr isFresh)
  · intro other
    rw [unchanged]
    exact follows.others other

/-- A stream that is read for the first time gives what its list gives. -/
theorem read (follows : bindings.Follows lists isStream seen)
    (isFresh : isStream name = true → name ∉ seen) :
    (bindings.read name).1 = (lists.read name).1 ∧
      (bindings.read name).2.Follows (lists.read name).2 isStream (seen ++ [name]) := by
  refine ⟨?_, ?_, ?_, ?_⟩
  · rw [Bindings.read, Bindings.read]
    cases streams : isStream name with
    | true =>
        obtain ⟨_, plain, isListed⟩ := follows.fresh name (isFresh streams) streams
        rw [isListed]
        exact (Value.settled_listed plain).symm
    | false => rw [follows.others name streams]
  · intro other member streams
    rw [value_behind_read]
    split
    · next same =>
        obtain ⟨isStream, _, _⟩ := follows.fresh name (isFresh (same ▸ streams)) (same ▸ streams)
        rw [same]
        cases isValue : bindings.value name with
        | stream items => rfl
        | _ =>
            rw [isValue] at isStream
            cases isStream
    · next different =>
        rcases List.mem_append.mp member with isSeen | isNow
        · exact follows.spent other isSeen streams
        · exact absurd (List.mem_singleton.mp isNow) different
  · intro other unseen streams
    rw [List.mem_append, List.mem_singleton, not_or] at unseen
    rw [value_behind_read, value_behind_read, if_neg unseen.2, if_neg unseen.2]
    exact follows.fresh other unseen.1 streams
  · intro other noStream
    rw [value_behind_read, value_behind_read, follows.others other noStream]

end Follows

end Bindings

end UriTemplate
