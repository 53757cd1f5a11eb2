import UriTemplate.Proofs.Cache.History
import UriTemplate.Proofs.Cache.Operations

namespace UriTemplate

/-- A key is looked up by itself or before a text is parsed. -/
def CacheAction.LooksUp (action : CacheAction) (key : Text) : Prop :=
  action = .get key ∨ action = .parse (.text key)

/-- A lookup uses the entry of its key or misses it. A template is stored under a key, and the
entry of a key is dropped. -/
inductive CacheEffect
  | nothing
  | used (key : Text)
  | missed (key : Text)
  | stored (key : Text) (parsed : ParsedTemplate) (parseTime : Int)
  | dropped (key : Text)
  | cleared

/-- The effects that are not aimed at the entry of a key, and those that only use it. -/
def CacheEffect.Spares (key : Text) : CacheEffect → Prop
  | .nothing => True
  | .used _ => True
  | .missed other => other ≠ key
  | .stored other _ _ => other ≠ key
  | .dropped other => other ≠ key
  | .cleared => False

namespace CacheState

/-- What a lookup would answer now. -/
def lookup (state : CacheState) (key : Text) : Option ParsedTemplate :=
  (state.cache.get key state.supply.now).1

/-- A template is stored if there is one and the limit is positive. -/
def storeEffect (state : CacheState) (key : Text) (parsed : Except ParseError ParsedTemplate)
    (parseTime : Int) (otherwise : CacheEffect) : CacheEffect :=
  match parsed with
  | .ok parsed =>
      if 0 < state.cache.maxSize then .stored key parsed parseTime else otherwise
  | .error _ => otherwise

/-- What a single action is aimed at. -/
def effect (state : CacheState) : CacheAction → CacheEffect
  | .get key => if (state.lookup key).isSome then .used key else .missed key
  | .parse (.text key) =>
      if (state.lookup key).isSome then .used key
      else state.storeEffect key (state.supply.parse (.text key)).1 state.supply.parseTime
        (.missed key)
  | .put key template parseTime =>
      state.storeEffect key (state.supply.parse (.text template)).1 parseTime .nothing
  | .putParsed key parsed parseTime => state.storeEffect key (.ok parsed) parseTime .nothing
  | .invalidate (some key) => .dropped key
  | .invalidate none => .cleared
  | _ => .nothing

end CacheState

/-- The entries behind an effect. -/
def CacheEffect.entriesAfter (state : CacheState) : CacheEffect → List CacheEntry
  | .nothing => state.cache.entries
  | .used key =>
      state.cache.without key ++ ((state.cache.entry? key).map CacheEntry.used).toList
  | .missed key => state.cache.without key
  | .stored key parsed parseTime =>
      state.cache.entriesWith key parsed parseTime state.supply.now
  | .dropped key => state.cache.without key
  | .cleared => []

def CacheMoment.effect (moment : CacheMoment) : CacheEffect :=
  moment.state.effect moment.action

namespace CacheState

variable (state : CacheState) (key : Text)

/-- A lookup either misses, and then the key is gone behind it, or it finds a live entry and puts it
last. -/
theorem lookup_cases : (state.lookup key = none ∧
      (∀ entry, state.cache.entry? key = some entry →
        entry.isExpired state.cache.ttl state.supply.now = true) ∧
      (state.cache.get key state.supply.now).2.entries = state.cache.without key) ∨
    ∃ entry, state.lookup key = some entry.parsed ∧ state.cache.entry? key = some entry ∧
      entry.isExpired state.cache.ttl state.supply.now = false ∧
      (state.cache.get key state.supply.now).2.entries =
        state.cache.without key ++ [entry.used] :=
  state.cache.get_cases key state.supply.now

variable {state key}

/-- A parse that hits does not read the text. -/
theorem parse_of_hit {parsed : ParsedTemplate} (found : state.lookup key = some parsed) :
    state.parse (.text key) =
      (.ok parsed, state.withCache (state.cache.get key state.supply.now).2) := by
  rw [parse]
  split
  · next answered =>
      rw [lookup, answered] at found
      rw [answered, Option.some.inj found]
      rfl
  · next missed =>
      rw [lookup, missed] at found
      cases found

/-- A parse that misses reads the text. -/
theorem parse_of_miss (missed : state.lookup key = none) :
    state.parse (.text key) =
      (state.withCache (state.cache.get key state.supply.now).2).parseMissing key := by
  rw [parse]
  split
  · next answered =>
      rw [lookup, answered] at missed
      cases missed
  · next answered =>
      rw [answered]
      rfl

/-- A template that was read is stored, unless the cache holds nothing. -/
theorem entriesAfter_storeEffect (parsed : Except ParseError ParsedTemplate) (parseTime : Int)
    (otherwise : CacheEffect) :
    (state.storeEffect key parsed parseTime otherwise).entriesAfter state =
      match parsed with
      | .ok parsed =>
          if 0 < state.cache.maxSize then
            state.cache.entriesWith key parsed parseTime state.supply.now
          else otherwise.entriesAfter state
      | .error _ => otherwise.entriesAfter state := by
  cases parsed with
  | ok parsed =>
      rw [storeEffect]
      split <;> rfl
  | error => rfl

/-- Behind a miss the template that was read is the last entry. -/
theorem entries_parseMissing : (state.parseMissing key).2.cache.entries =
    match (state.supply.parse (.text key)).1 with
    | .ok parsed =>
        if 0 < state.cache.maxSize then
          state.cache.entriesWith key parsed state.supply.parseTime state.supply.now
        else state.cache.entries
    | .error _ => state.cache.entries := by
  have now := state.supply.now_parse (.text key)
  have parseTime := state.supply.parseTime_parse (.text key)
  rw [parseMissing]
  split
  · next read =>
      simp only [read] at now parseTime
      simp only [read, now, parseTime, TemplateCache.entries_count, TemplateCache.entries_put]
  · next refused =>
      simp only [refused, TemplateCache.entries_count]

/-- A parse leaves the entries that its effect says. -/
theorem entries_parse : (state.parse (.text key)).2.cache.entries =
    (state.effect (.parse (.text key))).entriesAfter state := by
  rw [effect]
  rcases state.lookup_cases key with ⟨missed, _, left⟩ | ⟨entry, answered, found, _, left⟩
  · rw [missed, Option.isSome_none, if_neg Bool.false_ne_true, entriesAfter_storeEffect,
      parse_of_miss missed, entries_parseMissing]
    have maxSize : (state.cache.get key state.supply.now).2.maxSize = state.cache.maxSize :=
      congrArg Prod.fst (TemplateCache.options_get _ _ _)
    simp only [withCache, left, maxSize, CacheEffect.entriesAfter,
      TemplateCache.entriesWith_of_missed left maxSize]
  · rw [answered, Option.isSome_some, if_pos rfl, parse_of_hit answered]
    simp only [withCache, left, CacheEffect.entriesAfter, found, Option.map_some,
      Option.toList_some]

theorem entries_get : (state.cache.get key state.supply.now).2.entries =
    (state.effect (.get key)).entriesAfter state := by
  rw [effect]
  rcases state.lookup_cases key with ⟨missed, _, left⟩ | ⟨entry, answered, found, _, left⟩
  · rw [missed, Option.isSome_none, if_neg Bool.false_ne_true, left]
    rfl
  · rw [answered, Option.isSome_some, if_pos rfl, left, CacheEffect.entriesAfter, found]
    rfl

theorem entries_put {template : Text} {parseTime : Int} :
    (state.put key template parseTime).2.cache.entries =
      (state.effect (.put key template parseTime)).entriesAfter state := by
  have now := state.supply.now_parse (.text template)
  rw [effect, entriesAfter_storeEffect, put]
  split
  · next read =>
      simp only [read] at now
      simp only [read, now, TemplateCache.entries_put, CacheEffect.entriesAfter]
  · next refused =>
      simp only [refused, CacheEffect.entriesAfter]

@[simp]
theorem attempted_state {α : Type} (result : Except ParseError α × CacheState)
    (outcome : α → CacheOutcome) : (attempted result outcome).state = result.2 := by
  rw [attempted]
  split <;> rfl

variable (state) in
/-- The effect of a single action says all that it does to the entries. -/
theorem entries_perform {action : CacheAction} (single : action.IsSingle) :
    (state.perform action).state.cache.entries =
      (state.effect action).entriesAfter state := by
  cases action with
  | parse value =>
      rw [perform, attempted_state]
      cases value with
      | text key => exact entries_parse
      | _ => rfl
  | get key => exact entries_get
  | put key template parseTime =>
      rw [perform, attempted_state]
      exact entries_put
  | putParsed key parsed parseTime =>
      rw [effect, entriesAfter_storeEffect]
      exact TemplateCache.entries_put _ _ _ _ _
  | invalidate key => cases key <;> rfl
  | disabled => exact single.elim
  | _ => rfl

/-- A template is stored under a positive limit only: one that was parsed because its lookup
missed, or one that was put. -/
def Stores (state : CacheState) (action : CacheAction) (key : Text) (parsed : ParsedTemplate) :
    Prop :=
  0 < state.cache.maxSize ∧
    ((action = .parse (.text key) ∧ state.lookup key = none ∧
        (state.supply.parse (.text key)).1 = .ok parsed) ∨
      (∃ template parseTime, action = .put key template parseTime ∧
        (state.supply.parse (.text template)).1 = .ok parsed) ∨
      ∃ parseTime, action = .putParsed key parsed parseTime)

/-- What must be so for an action to have an effect. -/
def Allows (state : CacheState) (action : CacheAction) : CacheEffect → Prop
  | .nothing => True
  | .used key => action.LooksUp key ∧ ∃ entry, state.cache.entry? key = some entry ∧
      entry.isExpired state.cache.ttl state.supply.now = false
  | .missed key => action.LooksUp key ∧ ∀ entry, state.cache.entry? key = some entry →
      entry.isExpired state.cache.ttl state.supply.now = true
  | .stored key parsed _ => state.Stores action key parsed
  | .dropped key => action = .invalidate (some key)
  | .cleared => action = .invalidate none

/-- A stored template was read from its text while there was room for one. -/
theorem allows_storeEffect {action : CacheAction} {result : Except ParseError ParsedTemplate}
    {parseTime : Int} {otherwise : CacheEffect} (others : state.Allows action otherwise)
    (stores : ∀ parsed, result = .ok parsed → 0 < state.cache.maxSize →
      state.Stores action key parsed) :
    state.Allows action (state.storeEffect key result parseTime otherwise) := by
  cases result with
  | error => exact others
  | ok parsed =>
      rw [storeEffect]
      split
      · next positive => exact stores parsed rfl positive
      · exact others

variable (state) in
/-- The effect of an action is one that the action allows. -/
theorem allows_effect (action : CacheAction) : state.Allows action (state.effect action) := by
  cases action with
  | get key =>
      rw [effect]
      rcases state.lookup_cases key with ⟨missed, expired, _⟩ | ⟨entry, answered, found, live, _⟩
      · rw [missed]
        exact ⟨.inl rfl, expired⟩
      · rw [answered]
        exact ⟨.inl rfl, entry, found, live⟩
  | parse value =>
      cases value with
      | text key =>
          rw [effect]
          rcases state.lookup_cases key with
            ⟨missed, expired, _⟩ | ⟨entry, answered, found, live, _⟩
          · rw [missed]
            apply allows_storeEffect
            · exact ⟨.inr rfl, expired⟩
            · intro parsed read positive
              exact ⟨positive, .inl ⟨rfl, missed, read⟩⟩
          · rw [answered]
            exact ⟨.inr rfl, entry, found, live⟩
      | _ => trivial
  | put key template parseTime =>
      rw [effect]
      apply allows_storeEffect
      · trivial
      · intro parsed read positive
        exact ⟨positive, .inr (.inl ⟨template, parseTime, rfl, read⟩)⟩
  | putParsed key stored parseTime =>
      rw [effect]
      apply allows_storeEffect
      · trivial
      · intro parsed read positive
        cases read
        exact ⟨positive, .inr (.inr ⟨parseTime, rfl⟩)⟩
  | invalidate key => cases key <;> exact rfl
  | _ => trivial

/-- What is known of an effect is known of the action. -/
theorem allows_of_effect {action : CacheAction} {known : CacheEffect}
    (same : state.effect action = known) : state.Allows action known :=
  same ▸ state.allows_effect action

/-- An entry behind an effect was there before, apart from its hits, and was spared, or it has
just been stored. -/
theorem mem_entriesAfter {effect : CacheEffect} {entry : CacheEntry}
    (member : entry ∈ effect.entriesAfter state) :
    (effect.Spares entry.key ∧ ∃ old ∈ state.cache.entries, old.key = entry.key ∧
      old.parsed = entry.parsed ∧ old.storedAt = entry.storedAt) ∨
    (entry.storedAt = state.supply.now ∧
      ∃ parseTime, effect = .stored entry.key entry.parsed parseTime) := by
  cases effect with
  | nothing => exact .inl ⟨trivial, entry, member, rfl, rfl, rfl⟩
  | used key =>
      refine .inl ⟨trivial, ?_⟩
      rcases List.mem_append.mp member with isOther | isUsed
      · exact ⟨entry, (TemplateCache.mem_without_iff.mp isOther).1, rfl, rfl, rfl⟩
      · obtain ⟨old, found, rfl⟩ := Option.map_eq_some_iff.mp (Option.mem_toList.mp isUsed)
        exact ⟨old, (TemplateCache.mem_of_entry?_eq_some found).1, rfl, rfl, rfl⟩
  | missed key =>
      obtain ⟨isOld, different⟩ := TemplateCache.mem_without_iff.mp member
      exact .inl ⟨different.symm, entry, isOld, rfl, rfl, rfl⟩
  | dropped key =>
      obtain ⟨isOld, different⟩ := TemplateCache.mem_without_iff.mp member
      exact .inl ⟨different.symm, entry, isOld, rfl, rfl, rfl⟩
  | stored key parsed parseTime =>
      rcases TemplateCache.mem_entriesWith member with ⟨isOld, different⟩ | rfl
      · exact .inl ⟨different.symm, entry, isOld, rfl, rfl, rfl⟩
      · exact .inr ⟨rfl, parseTime, rfl⟩
  | cleared => cases member

/-- An action that stores has the effect of storing. -/
theorem effect_of_stores {action : CacheAction} {parsed : ParsedTemplate}
    (stores : state.Stores action key parsed) :
    ∃ parseTime, state.effect action = .stored key parsed parseTime := by
  obtain ⟨positive, ⟨rfl, missed, read⟩ | ⟨template, parseTime, rfl, read⟩ | ⟨parseTime, rfl⟩⟩ :=
    stores
  · refine ⟨state.supply.parseTime, ?_⟩
    rw [effect, missed, read]
    exact if_pos positive
  · refine ⟨parseTime, ?_⟩
    rw [effect, read]
    exact if_pos positive
  · exact ⟨parseTime, if_pos positive⟩

end CacheState

def CacheMoment.Stores (moment : CacheMoment) (key : Text) (parsed : ParsedTemplate) : Prop :=
  moment.state.Stores moment.action key parsed

end UriTemplate
