import UriTemplate.Proofs.Value.Settled

namespace UriTemplate

/-- A value as it lies in memory. The number tells which object it is. -/
inductive Object
  | plain (number : Nat) (value : Value) (isPlain : value.isCollection = false)
  | sequence (number : Nat) (form : SequenceForm) (items : List Object)
  | stream (number : Nat) (items : List Object)
  | mapping (number : Nat) (pairs : List (Value × Object))

/-- The next new object gets the next number. A stream that has been read yields nothing more. -/
structure Memory where
  next : Nat
  spent : List Nat

namespace Memory

/-- One more object has been made. -/
def grown (memory : Memory) : Memory :=
  { memory with next := memory.next + 1 }

/-- A stream that is being read is held without itself. -/
def reading (memory : Memory) (stream : Nat) : Memory :=
  { memory with spent := stream :: memory.spent }

/-- All objects have been made before, and of the streams each stands in one place and is still
unread. -/
structure Holds (memory : Memory) (numbers streams : List Nat) : Prop where
  isBelow : ∀ number ∈ numbers, number < memory.next
  unread : ∀ number ∈ streams, number ∉ memory.spent
  once : streams.Nodup

namespace Holds

variable {memory later : Memory} {number : Nat}
  {numbers otherNumbers streams otherStreams : List Nat}

/-- The members of an object are held as the object is. -/
theorem members (holds : memory.Holds (number :: numbers) streams) :
    memory.Holds numbers streams where
  isBelow other member := holds.isBelow other (List.mem_cons_of_mem _ member)
  unread := holds.unread
  once := holds.once

/-- What is held with others is held without them. -/
theorem first (holds : memory.Holds (numbers ++ otherNumbers) (streams ++ otherStreams)) :
    memory.Holds numbers streams where
  isBelow other member := holds.isBelow other (List.mem_append_left _ member)
  unread other member := holds.unread other (List.mem_append_left _ member)
  once := (List.nodup_append.mp holds.once).1

/-- What stands elsewhere is still held when some objects have been made and streams read. -/
theorem others (holds : memory.Holds (numbers ++ otherNumbers) (streams ++ otherStreams))
    (next_le : memory.next ≤ later.next)
    (spent : ∀ stream ∈ later.spent, stream ∈ memory.spent ∨ stream ∈ streams) :
    later.Holds otherNumbers otherStreams where
  isBelow other member :=
    Nat.lt_of_lt_of_le (holds.isBelow other (List.mem_append_right _ member)) next_le
  unread other member isSpent := by
    rcases spent other isSpent with before | between
    · exact holds.unread other (List.mem_append_right _ member) before
    · exact (List.nodup_append.mp holds.once).2.2 other between other member rfl
  once := (List.nodup_append.mp holds.once).2.1

theorem reading (holds : memory.Holds (number :: numbers) (number :: streams)) :
    (memory.reading number).Holds numbers streams := by
  have inFront : memory.Holds ([number] ++ numbers) ([number] ++ streams) := holds
  refine inFront.others (Nat.le_refl _) fun stream isSpent => ?_
  rcases List.mem_cons.mp isSpent with same | before
  · exact .inr (List.mem_singleton.mpr same)
  · exact .inl before

end Holds

end Memory

namespace Object

def number : Object → Nat
  | .plain number _ _ => number
  | .sequence number _ _ => number
  | .stream number _ => number
  | .mapping number _ => number

mutual

/-- What the object looks like. -/
def content : Object → Value
  | .plain _ value _ => value
  | .sequence _ form items => .sequence form (contents items)
  | .stream _ items => .stream (contents items)
  | .mapping _ pairs => .mapping (pairContents pairs)

def contents : List Object → List Value
  | [] => []
  | item :: rest => item.content :: contents rest

def pairContents : List (Value × Object) → List (Value × Value)
  | [] => []
  | (key, value) :: rest => (key, value.content) :: pairContents rest

end

mutual

/-- The numbers of the object and of all objects in it. -/
def numbers : Object → List Nat
  | .plain number _ _ => [number]
  | .sequence number _ items => number :: itemNumbers items
  | .stream number items => number :: itemNumbers items
  | .mapping number pairs => number :: pairNumbers pairs

def itemNumbers : List Object → List Nat
  | [] => []
  | item :: rest => item.numbers ++ itemNumbers rest

def pairNumbers : List (Value × Object) → List Nat
  | [] => []
  | (_, value) :: rest => value.numbers ++ pairNumbers rest

end

mutual

/-- The numbers of the streams in the object. -/
def streams : Object → List Nat
  | .plain _ _ _ => []
  | .sequence _ _ items => itemStreams items
  | .stream number items => number :: itemStreams items
  | .mapping _ pairs => pairStreams pairs

def itemStreams : List Object → List Nat
  | [] => []
  | item :: rest => item.streams ++ itemStreams rest

def pairStreams : List (Value × Object) → List Nat
  | [] => []
  | (_, value) :: rest => value.streams ++ pairStreams rest

end

mutual

/-- The members are settled first. If each of them is the object that it was, the collection stays
the object that it is, and otherwise a new one is made. -/
def settle (memory : Memory) : Object → Object × Memory
  | .plain number value isPlain => (.plain number value isPlain, memory)
  | .sequence number form items =>
      let (newItems, later) := settleItems memory items
      if newItems.map Object.number = items.map Object.number then
        (.sequence number form items, later.grown)
      else (.sequence later.next .list newItems, later.grown)
  | .stream number items =>
      if number ∈ memory.spent then (.sequence memory.next .list [], memory.grown)
      else
        let (newItems, later) := settleItems (memory.reading number) items
        (.sequence later.next .list newItems, later.grown)
  | .mapping number pairs =>
      let (newPairs, later) := settlePairs memory pairs
      if newPairs.map (fun pair => pair.2.number) = pairs.map (fun pair => pair.2.number) then
        (.mapping number pairs, later.grown)
      else (.mapping later.next newPairs, later.grown)

def settleItems (memory : Memory) : List Object → List Object × Memory
  | [] => ([], memory)
  | item :: rest =>
      let (newItem, between) := settle memory item
      let (newRest, later) := settleItems between rest
      (newItem :: newRest, later)

def settlePairs (memory : Memory) : List (Value × Object) → List (Value × Object) × Memory
  | [] => ([], memory)
  | (key, value) :: rest =>
      let (newValue, between) := settle memory value
      let (newRest, later) := settlePairs between rest
      ((key, newValue) :: newRest, later)

end

/-- Objects are built from their members. -/
theorem membersInduction {motive : Object → Prop}
    (plain : ∀ number value isPlain, motive (.plain number value isPlain))
    (sequence : ∀ number form items, (∀ item ∈ items, motive item) →
      motive (.sequence number form items))
    (stream : ∀ number items, (∀ item ∈ items, motive item) → motive (.stream number items))
    (mapping : ∀ number pairs, (∀ pair ∈ pairs, motive pair.2) → motive (.mapping number pairs))
    (object : Object) : motive object := by
  refine @Object.rec motive (fun items => ∀ item ∈ items, motive item)
    (fun pairs => ∀ pair ∈ pairs, motive pair.2) (fun pair => motive pair.2)
    plain sequence stream mapping ?_ ?_ ?_ ?_ ?_ object
  case refine_1 => simp
  case refine_2 => exact fun _ _ here others => List.forall_mem_cons.mpr ⟨here, others⟩
  case refine_3 => simp
  case refine_4 => exact fun _ _ here others => List.forall_mem_cons.mpr ⟨here, others⟩
  case refine_5 => exact fun _ _ here => here

/-! The values of a mapping are settled in turn, as items are. -/

section Pairs

variable (pairs : List (Value × Object))

/-- The contents of pairs are their keys with the contents of their values. -/
theorem pairContents_eq_zip :
    pairContents pairs = (pairs.map Prod.fst).zip (contents (pairs.map Prod.snd)) := by
  induction pairs with
  | nil => rfl
  | cons pair rest inductionHypothesis =>
      rw [pairContents, inductionHypothesis]
      rfl

theorem pairNumbers_eq : pairNumbers pairs = itemNumbers (pairs.map Prod.snd) := by
  induction pairs with
  | nil => rfl
  | cons pair rest inductionHypothesis =>
      rw [pairNumbers, inductionHypothesis]
      rfl

theorem pairStreams_eq : pairStreams pairs = itemStreams (pairs.map Prod.snd) := by
  induction pairs with
  | nil => rfl
  | cons pair rest inductionHypothesis =>
      rw [pairStreams, inductionHypothesis]
      rfl

/-- Pairs have a stream just if their values have one. -/
theorem pairsHaveStream_eq :
    Value.pairsHaveStream (pairContents pairs) =
      Value.itemsHaveStream (contents (pairs.map Prod.snd)) := by
  induction pairs with
  | nil => rfl
  | cons pair rest inductionHypothesis =>
      rw [pairContents, Value.pairsHaveStream, inductionHypothesis]
      rfl

/-- Pairs are settled as their values are, under the same keys. -/
theorem settlePairs_eq_zip (memory : Memory) :
    settlePairs memory pairs =
      ((pairs.map Prod.fst).zip (settleItems memory (pairs.map Prod.snd)).1,
        (settleItems memory (pairs.map Prod.snd)).2) := by
  induction pairs generalizing memory with
  | nil => rfl
  | cons pair rest inductionHypothesis =>
      rw [settlePairs]
      dsimp only
      rw [inductionHypothesis]
      rfl

end Pairs

/-! Without streams every object stays the one it is. -/

/-- Items without streams stay themselves if each of them does. -/
theorem settleItems_of_streamless {items : List Object}
    (stay : ∀ item ∈ items, item.content.hasStream = false →
      ∀ memory, (settle memory item).1 = item)
    (streamless : Value.itemsHaveStream (contents items) = false) (memory : Memory) :
    (settleItems memory items).1 = items := by
  induction items generalizing memory with
  | nil => rfl
  | cons item rest inductionHypothesis =>
      have ⟨here, others⟩ := List.forall_mem_cons.mp stay
      rw [contents, Value.itemsHaveStream, Bool.or_eq_false_iff] at streamless
      rw [settleItems]
      dsimp only
      rw [here streamless.1, inductionHypothesis others streamless.2]

/-- An object without streams stays itself. -/
theorem settle_of_streamless {object : Object} (streamless : object.content.hasStream = false)
    (memory : Memory) : (settle memory object).1 = object := by
  induction object using membersInduction generalizing memory with
  | plain number value isPlain => rfl
  | sequence number form items inductionHypothesis =>
      have same := settleItems_of_streamless inductionHypothesis streamless memory
      rw [settle]
      dsimp only
      rw [same, if_pos rfl]
  | stream number items => cases streamless
  | mapping number pairs inductionHypothesis =>
      rw [content, Value.hasStream, pairsHaveStream_eq] at streamless
      have same := settleItems_of_streamless (List.forall_mem_map.mpr inductionHypothesis)
        streamless memory
      rw [settle, settlePairs_eq_zip, same, List.zip_map']
      dsimp only
      rw [List.map_id'' fun _ => rfl, if_pos rfl]

/-! With a stream in it an object gives way to a new one. -/

/-- What settling makes of an object that memory holds: it looks as the value does when it is
settled, and it is new if a stream was in it. Only streams in the object are read. -/
structure SettlesIn (memory : Memory) (object : Object) : Prop where
  content : (settle memory object).1.content = object.content.settled
  isNew : object.content.hasStream = true → memory.next ≤ (settle memory object).1.number
  next_le : memory.next ≤ (settle memory object).2.next
  spent : ∀ stream ∈ (settle memory object).2.spent,
    stream ∈ memory.spent ∨ stream ∈ object.streams

structure ItemsSettleIn (memory : Memory) (items : List Object) : Prop where
  contents : contents (settleItems memory items).1 = (contents items).map Value.settled
  isNew : Value.itemsHaveStream (Object.contents items) = true →
    (settleItems memory items).1.map number ≠ items.map number
  next_le : memory.next ≤ (settleItems memory items).2.next
  spent : ∀ stream ∈ (settleItems memory items).2.spent,
    stream ∈ memory.spent ∨ stream ∈ itemStreams items

/-- An object has its own number. -/
theorem number_mem_numbers (object : Object) : object.number ∈ object.numbers := by
  cases object <;> simp [number, numbers]

/-- Items settle one after the other in the memory that the earlier ones leave. -/
theorem itemsSettleIn {items : List Object}
    (settles : ∀ item ∈ items, ∀ memory : Memory, memory.Holds item.numbers item.streams →
      SettlesIn memory item)
    {memory : Memory} (holds : memory.Holds (itemNumbers items) (itemStreams items)) :
    ItemsSettleIn memory items := by
  induction items generalizing memory with
  | nil => exact ⟨rfl, fun hasStream => absurd hasStream Bool.false_ne_true, Nat.le_refl _,
      fun _ => .inl⟩
  | cons item rest inductionHypothesis =>
      have ⟨settlesHere, settleOthers⟩ := List.forall_mem_cons.mp settles
      have here := settlesHere memory holds.first
      have others := inductionHypothesis settleOthers (holds.others here.next_le here.spent)
      constructor
      · rw [settleItems, contents, contents, List.map_cons, ← here.content, ← others.contents]
      · intro hasStream same
        obtain ⟨sameFirst, sameRest⟩ := List.cons.inj same
        rw [contents, Value.itemsHaveStream, Bool.or_eq_true] at hasStream
        rcases hasStream with isHere | isThere
        · have isBelow := holds.isBelow item.number
            (List.mem_append_left _ (number_mem_numbers item))
          have isNew := here.isNew isHere
          rw [sameFirst] at isNew
          exact Nat.not_lt.mpr isNew isBelow
        · exact others.isNew isThere sameRest
      · exact Nat.le_trans here.next_le others.next_le
      · intro stream isSpent
        rcases others.spent stream isSpent with between | later
        · rcases here.spent stream between with before | isHere
          · exact .inl before
          · exact .inr (List.mem_append_left _ isHere)
        · exact .inr (List.mem_append_right _ later)

/-- The members are the old ones exactly if no stream stands in them. -/
theorem ItemsSettleIn.sameNumbers_iff {memory : Memory} {items : List Object}
    (settles : ItemsSettleIn memory items) :
    (settleItems memory items).1.map number = items.map number ↔
      Value.itemsHaveStream (Object.contents items) = false := by
  constructor
  · intro same
    exact Bool.eq_false_iff.mpr fun hasStream => settles.isNew hasStream same
  · intro streamless
    rw [settleItems_of_streamless (fun _ _ => settle_of_streamless) streamless]

/-- An object without streams settles to itself. -/
theorem SettlesIn.of_streamless {memory : Memory} {object : Object}
    (streamless : object.content.hasStream = false)
    (next_le : memory.next ≤ (settle memory object).2.next)
    (spent : ∀ stream ∈ (settle memory object).2.spent,
      stream ∈ memory.spent ∨ stream ∈ object.streams) : SettlesIn memory object where
  content := by rw [settle_of_streamless streamless, Value.settled_of_streamless streamless]
  isNew hasStream := absurd (streamless.symm.trans hasStream) Bool.false_ne_true
  next_le := next_le
  spent := spent

/-- No item gets lost. -/
theorem length_settleItems (memory : Memory) (items : List Object) :
    (settleItems memory items).1.length = items.length := by
  induction items generalizing memory with
  | nil => rfl
  | cons item rest inductionHypothesis =>
      exact congrArg (· + 1) (inductionHypothesis (settle memory item).2)

section Collections

variable {memory : Memory} {number : Nat} {items : List Object}

/-- A sequence settles if its items do. -/
theorem settlesIn_sequence (number : Nat) (form : SequenceForm)
    (members : ItemsSettleIn memory items) : SettlesIn memory (.sequence number form items) := by
  have behind : (settle memory (.sequence number form items)).2 =
      (settleItems memory items).2.grown := by
    rw [settle]
    dsimp only
    split <;> rfl
  have next_le : memory.next ≤ (settle memory (.sequence number form items)).2.next := by
    rw [behind]
    exact Nat.le_succ_of_le members.next_le
  have spent := members.spent
  cases hasStream : Value.itemsHaveStream (contents items) with
  | false => exact .of_streamless hasStream next_le (behind ▸ spent)
  | true =>
      have isBuilt : (settle memory (.sequence number form items)).1 =
          .sequence (settleItems memory items).2.next .list (settleItems memory items).1 := by
        rw [settle]
        dsimp only
        rw [if_neg (by simp [members.sameNumbers_iff, hasStream])]
      refine ⟨?_, fun _ => ?_, next_le, behind ▸ spent⟩
      · rw [isBuilt, content, content, Value.settled_of_sequence, hasStream, members.contents]
        rfl
      · rw [isBuilt]
        exact members.next_le

/-- An unread stream settles to a list if its items settle. -/
theorem settlesIn_stream (unread : number ∉ memory.spent)
    (members : ItemsSettleIn (memory.reading number) items) :
    SettlesIn memory (.stream number items) := by
  have isBuilt : settle memory (.stream number items) =
      (.sequence (settleItems (memory.reading number) items).2.next .list
        (settleItems (memory.reading number) items).1,
        (settleItems (memory.reading number) items).2.grown) := by
    rw [settle, if_neg unread]
  refine ⟨?_, fun _ => ?_, ?_, fun stream isSpent => ?_⟩
  · rw [isBuilt, content, content, Value.settled_of_stream, members.contents]
  · rw [isBuilt]
    exact members.next_le
  · rw [isBuilt]
    exact Nat.le_succ_of_le members.next_le
  · rw [isBuilt] at isSpent
    rcases members.spent stream isSpent with before | inside
    · rcases List.mem_cons.mp before with rfl | earlier
      · exact .inr List.mem_cons_self
      · exact .inl earlier
    · exact .inr (List.mem_cons_of_mem _ inside)

/-- A mapping settles if its values do. -/
theorem settlesIn_mapping (number : Nat) {pairs : List (Value × Object)}
    (members : ItemsSettleIn memory (pairs.map Prod.snd)) :
    SettlesIn memory (.mapping number pairs) := by
  have sameLength : (pairs.map Prod.fst).length =
      (settleItems memory (pairs.map Prod.snd)).1.length := by
    rw [length_settleItems, List.length_map, List.length_map]
  have keys := List.map_fst_zip (Nat.le_of_eq sameLength)
  have values := List.map_snd_zip (Nat.le_of_eq sameLength.symm)
  have behind : (settle memory (.mapping number pairs)).2 =
      (settleItems memory (pairs.map Prod.snd)).2.grown := by
    rw [settle, settlePairs_eq_zip]
    dsimp only
    split <;> rfl
  have next_le : memory.next ≤ (settle memory (.mapping number pairs)).2.next := by
    rw [behind]
    exact Nat.le_succ_of_le members.next_le
  have spent : ∀ stream ∈ (settle memory (.mapping number pairs)).2.spent,
      stream ∈ memory.spent ∨ stream ∈ (mapping number pairs).streams := by
    rw [behind, streams, pairStreams_eq]
    exact members.spent
  cases hasStream : Value.pairsHaveStream (pairContents pairs) with
  | false => exact .of_streamless hasStream next_le spent
  | true =>
      rw [pairsHaveStream_eq] at hasStream
      have isBuilt : (settle memory (.mapping number pairs)).1 =
          .mapping (settleItems memory (pairs.map Prod.snd)).2.next
            ((pairs.map Prod.fst).zip (settleItems memory (pairs.map Prod.snd)).1) := by
        have different := mt members.sameNumbers_iff.mp (ne_false_of_eq_true hasStream)
        rw [← values] at different
        simp only [List.map_map, Function.comp_def] at different
        rw [settle, settlePairs_eq_zip]
        dsimp only
        rw [if_neg different]
      refine ⟨?_, fun _ => ?_, next_le, spent⟩
      · rw [isBuilt, content, content, Value.settled_of_mapping, pairContents_eq_zip, keys, values,
          members.contents, List.zip_map_right, pairContents_eq_zip]
        rfl
      · rw [isBuilt]
        exact members.next_le

end Collections

/-- Settling an object that memory holds makes of it what settling makes of its value. -/
theorem settlesIn (object : Object) {memory : Memory}
    (holds : memory.Holds object.numbers object.streams) : SettlesIn memory object := by
  induction object using membersInduction generalizing memory with
  | plain number value isPlain =>
      exact .of_streamless (Value.hasStream_of_not_isCollection isPlain) (Nat.le_refl _)
        fun _ => .inl
  | sequence number form items inductionHypothesis =>
      apply settlesIn_sequence
      exact itemsSettleIn (fun item member _ => inductionHypothesis item member) holds.members
  | stream number items inductionHypothesis =>
      apply settlesIn_stream (holds.unread number List.mem_cons_self)
      exact itemsSettleIn (fun item member _ => inductionHypothesis item member) holds.reading
  | mapping number pairs inductionHypothesis =>
      have held := holds.members
      rw [pairNumbers_eq, streams, pairStreams_eq] at held
      apply settlesIn_mapping
      refine itemsSettleIn (List.forall_mem_map.mpr fun pair member _ => ?_) held
      exact inductionHypothesis pair member

/-- An object stays the one it is exactly if no stream was in it. -/
theorem number_settle_iff {object : Object} {memory : Memory}
    (holds : memory.Holds object.numbers object.streams) :
    (settle memory object).1.number = object.number ↔ object.content.hasStream = false := by
  constructor
  · intro same
    refine Bool.eq_false_iff.mpr fun hasStream => ?_
    have isBelow := holds.isBelow object.number (number_mem_numbers object)
    have isNew := (settlesIn object holds).isNew hasStream
    rw [same] at isNew
    exact Nat.not_lt.mpr isNew isBelow
  · intro streamless
    rw [settle_of_streamless streamless]

end Object

/-- No stream is left in a settled value, and apart from that it is the value that it was: the same
members stand in the same order under the same keys, and it is as defined and of the same kind as
before. In memory the value stays the very object that it is exactly if no stream was in it, so it
does not change any more when it is settled again. -/
theorem Value.settled_isStreamless (value : Value) :
    (∀ items, ¬ IsPart (.stream items) value.settled) ∧
      (value.staysItself = true ↔ ∀ items, ¬ IsPart (.stream items) value) ∧
      value.settled.staysItself = true ∧ value.settled.settled = value.settled ∧
      value.settled.outline = value.outline ∧
      value.settled.isUndefined = value.isUndefined ∧ value.settled.kind = value.kind ∧
      ∀ (object : Object) (memory : Memory), object.content = value →
        memory.Holds object.numbers object.streams →
        let (result, later) := object.settle memory
        result.content = value.settled ∧
          (result.number = object.number ↔ ∀ items, ¬ IsPart (.stream items) value) ∧
          ((∀ items, ¬ IsPart (.stream items) value) → result = object) ∧
          (result.settle later).1 = result := by
  have isStreamless := hasStream_settled value
  refine ⟨hasStream_eq_false_iff.mp isStreamless, ?_, staysItself_iff.mpr isStreamless,
    settled_of_streamless isStreamless, outline_settled value, isUndefined_settled value,
    kind_settled value, ?_⟩
  · rw [staysItself_iff, hasStream_eq_false_iff]
  · rintro object memory rfl holds
    have isSettled := (object.settlesIn holds).content
    refine ⟨isSettled, ?_, fun noStream => ?_, ?_⟩
    · rw [← hasStream_eq_false_iff]
      exact Object.number_settle_iff holds
    · exact Object.settle_of_streamless (hasStream_eq_false_iff.mpr noStream) memory
    · exact Object.settle_of_streamless (isSettled ▸ isStreamless) _

theorem Value.settled_isStreamless_nested :
    let yielded : List Object := [.plain 4 (.text "a") rfl, .sequence 5 .tuple []]
    let object : Object := .mapping 0
      [(.text "k", .sequence 1 .tuple [.sequence 2 .list [], .stream 3 yielded]),
        (.text "e", .sequence 6 .tuple [])]
    let memory : Memory := ⟨7, []⟩
    let (result, later) := object.settle memory
    memory.Holds object.numbers object.streams ∧
      object.content.settled = .mapping
        [(.text "k", .sequence .list [.sequence .list [],
          .sequence .list [.text "a", .sequence .tuple []]]),
        (.text "e", .sequence .tuple [])] ∧
      result.content = object.content.settled ∧ result.number ≠ object.number ∧
      (result.settle later).1 = result := by
  intro yielded object memory
  have holds : memory.Holds object.numbers object.streams :=
    ⟨by decide, by decide, by decide⟩
  have isPart : IsPart (.stream (Object.contents yielded)) object.content :=
    .paired List.mem_cons_self (.item (List.mem_cons_of_mem _ List.mem_cons_self) .itself)
  obtain ⟨-, -, -, -, -, -, -, inMemory⟩ := settled_isStreamless object.content
  obtain ⟨sameContent, sameNumber, -, again⟩ := inMemory object memory rfl holds
  exact ⟨holds, rfl, sameContent, fun same => sameNumber.mp same _ isPart, again⟩

end UriTemplate
