import UriTemplate.Proofs.Cache.Statistics
import UriTemplate.Proofs.Cache.UseOrder

namespace UriTemplate

/-- The entry before it was looked up for the first time. -/
def CacheEntry.asStored (entry : CacheEntry) : CacheEntry :=
  { entry with hits := 0 }

/-- The entry of the key is invalidated, or a lookup finds it too old. -/
def CacheMoment.Removes (moment : CacheMoment) (key : Text) : Prop :=
  moment.action = .invalidate (some key) ∨ moment.action = .invalidate none ∨
    (moment.action.LooksUp key ∧ ∃ entry, moment.state.cache.entry? key = some entry ∧
      entry.isExpired moment.state.cache.ttl moment.state.supply.now = true)

/-- The keys that were used stand behind the others, in the order of their last uses. -/
def useOrder (keys : List Text) (past : List CacheMoment) : List Text :=
  keys.filter (!(usedKeys past).contains ·) ++ lastUses past

/-- What is left of a cache behind some moments: entries as they were stored, each of which can
only move when it is used. What is lost was removed. -/
structure TemplateCache.IsRemnantOf (left cache : TemplateCache) (past : List CacheMoment) :
    Prop where
  inUseOrder : left.keys.Sublist (useOrder cache.keys past)
  unchanged : ∀ key entry, left.entry? key = some entry →
    ∃ old, cache.entry? key = some old ∧ entry.asStored = old.asStored
  lost : ∀ key old, cache.entry? key = some old → left.entry? key = none →
    ∃ moment ∈ past, moment.Removes key

/-- A further use puts its key last. -/
theorem useOrder_concat (keys : List Text) (past : List CacheMoment) (moment : CacheMoment) :
    useOrder keys (past ++ [moment]) =
      match moment.effect.usedKey? with
      | none => useOrder keys past
      | some key => (useOrder keys past).filter (· ≠ key) ++ [key] := by
  rw [useOrder, CacheState.lastUses_concat, usedKeys, List.filterMap_append]
  cases used : moment.effect.usedKey? with
  | none => simp [used, useOrder, usedKeys]
  | some key =>
      simp [used, useOrder, usedKeys, List.filter_filter, Bool.and_comm]

namespace TemplateCache

variable {cache other : TemplateCache} {name : Text}

/-- Without a key, the other keys keep their entries. -/
theorem entry?_of_without (entries : other.entries = cache.without name) (key : Text) :
    other.entry? key = if key = name then none else cache.entry? key := by
  unfold entry?
  rw [entries, without, List.find?_filter]
  split
  · next same =>
      apply List.find?_eq_none.mpr
      intro entry _
      simp [same]
  · next different =>
      congr 1
      funext entry
      by_cases isKey : entry.key = key
      · simp [isKey, different]
      · simp [isKey]

/-- A use marks the entry of its own key and leaves the others. -/
theorem entry?_of_used {entry : CacheEntry} (found : cache.entry? name = some entry)
    (entries : other.entries = cache.without name ++ [entry.used]) (key : Text) :
    other.entry? key = if key = name then some entry.used else cache.entry? key := by
  have sameKey : entry.used.key = name := (mem_of_entry?_eq_some found).2
  split
  · next same => exact same ▸ entry?_of_without_append entries sameKey
  · next different =>
      let others : TemplateCache := { cache with entries := cache.without name }
      have isOther : others.entry? key = cache.entry? key :=
        (entry?_of_without rfl key).trans (if_neg different)
      rw [← isOther]
      unfold entry?
      rw [entries, List.find?_append, List.find?_singleton, sameKey]
      simp [Ne.symm different, others]

end TemplateCache

namespace CacheState

variable {state : CacheState} {action : CacheAction} {key : Text}

/-- A cache that holds nothing stores nothing. -/
theorem effect_ne_stored (storesNothing : state.cache.maxSize ≤ 0) (action : CacheAction)
    (key : Text) (parsed : ParsedTemplate) (parseTime : Int) :
    state.effect action ≠ .stored key parsed parseTime := by
  intro stored
  have positive : 0 < state.cache.maxSize := (allows_of_effect stored).1
  omega

/-- Where nothing is stored, the entry of a key stays as it is, is used, or is removed. -/
theorem entry?_perform (single : action.IsSingle) (storesNothing : state.cache.maxSize ≤ 0)
    (key : Text) :
    let after := (state.perform action).state.cache
    after.entry? key = state.cache.entry? key ∨
      (∃ entry, state.cache.entry? key = some entry ∧ after.entry? key = some entry.used) ∨
      (CacheMoment.Removes ⟨state, action⟩ key ∧ after.entry? key = none) := by
  intro after
  have entries := state.entries_perform single
  have allowed := state.allows_effect action
  cases isEffect : state.effect action with
  | nothing =>
      rw [isEffect] at entries
      exact .inl (congrArg (List.find? _) entries)
  | used name =>
      rw [isEffect] at entries allowed
      obtain ⟨_, entry, found, _⟩ := allowed
      rw [CacheEffect.entriesAfter, found] at entries
      have entryAfter := TemplateCache.entry?_of_used found entries key
      split at entryAfter
      · next same => exact .inr (.inl ⟨entry, same ▸ found, entryAfter⟩)
      · exact .inl entryAfter
  | missed name =>
      rw [isEffect] at entries allowed
      have entryAfter := TemplateCache.entry?_of_without entries key
      split at entryAfter
      · next same =>
          subst same
          cases found : state.cache.entry? key with
          | none => exact .inl entryAfter
          | some entry =>
              exact .inr (.inr ⟨.inr (.inr
                ⟨allowed.1, entry, found, allowed.2 entry found⟩), entryAfter⟩)
      · exact .inl entryAfter
  | stored name parsed parseTime =>
      exact absurd isEffect (effect_ne_stored storesNothing action name parsed parseTime)
  | dropped name =>
      rw [isEffect] at entries allowed
      have entryAfter := TemplateCache.entry?_of_without entries key
      split at entryAfter
      · next same => exact .inr (.inr ⟨.inl (same ▸ allowed), entryAfter⟩)
      · exact .inl entryAfter
  | cleared =>
      rw [isEffect] at entries allowed
      refine .inr (.inr ⟨.inr (.inl allowed), ?_⟩)
      unfold TemplateCache.entry?
      rw [entries]
      rfl

/-- An action on a cache that stores nothing leaves a remnant of what was there. -/
theorem isRemnantOf_perform {cache : TemplateCache} {past : List CacheMoment}
    (remnant : state.cache.IsRemnantOf cache past) (single : action.IsSingle)
    (storesNothing : state.cache.maxSize ≤ 0) :
    (state.perform action).state.cache.IsRemnantOf cache (past ++ [⟨state, action⟩]) where
  inUseOrder := by
    rw [keys_perform single, useOrder_concat]
    exact keysAfter_sublist remnant.inUseOrder _
  unchanged key entry found := by
    rcases entry?_perform single storesNothing key with
      same | ⟨old, wasThere, isUsed⟩ | ⟨_, isGone⟩
    · exact remnant.unchanged key entry (same ▸ found)
    · obtain rfl := Option.some.inj (isUsed.symm.trans found)
      exact remnant.unchanged key old wasThere
    · rw [isGone] at found
      cases found
  lost key old wasThere isGone := by
    cases found : state.cache.entry? key with
    | none =>
        obtain ⟨moment, isEarlier, removes⟩ := remnant.lost key old wasThere found
        exact ⟨moment, List.mem_append_left _ isEarlier, removes⟩
    | some entry =>
        refine ⟨⟨state, action⟩, List.mem_append_right _ (List.mem_singleton.mpr rfl), ?_⟩
        rcases entry?_perform single storesNothing key with
          same | ⟨_, _, isUsed⟩ | ⟨removes, _⟩
        · rw [same, found] at isGone
          cases isGone
        · rw [isUsed] at isGone
          cases isGone
        · exact removes

/-- Only the limits that were in force while something was done matter. -/
theorem LeadsTo.isRemnantOf {start : CacheState} {past : List CacheMoment}
    (leads : start.LeadsTo past state)
    (storesNothing : ∀ moment ∈ past, moment.state.cache.maxSize ≤ 0) :
    state.cache.IsRemnantOf start.cache past := by
  induction leads with
  | nothing =>
      refine ⟨?_, fun _ entry found => ⟨entry, found, rfl⟩, fun _ _ wasThere isGone => ?_⟩
      · simp [useOrder, usedKeys, lastUses]
      · rw [wasThere] at isGone
        cases isGone
  | @acting past state action leads single inductionHypothesis =>
      have storedNothing := inductionHypothesis fun moment isEarlier =>
        storesNothing moment (List.mem_append_left _ isEarlier)
      exact isRemnantOf_perform storedNothing single
        (storesNothing ⟨state, action⟩ (List.mem_append_right _ (List.mem_singleton.mpr rfl)))

/-- A live entry answers a lookup as well as a parse. -/
theorem lookup_of_live {entry : CacheEntry} (found : state.cache.entry? key = some entry)
    (live : entry.isExpired state.cache.ttl state.supply.now = false) :
    (state.cache.get key state.supply.now).1 = some entry.parsed ∧
      (state.parse (.text key)).1 = .ok entry.parsed := by
  have answered : (state.cache.get key state.supply.now).1 = some entry.parsed := by
    rw [TemplateCache.get_of_live found live]
  refine ⟨answered, ?_⟩
  rw [parse_of_hit answered]

/-- Where nothing is stored, nothing makes room, so only what a lookup finds too old is counted. -/
theorem evictions_perform (single : action.IsSingle) (storesNothing : state.cache.maxSize ≤ 0)
    (counts : state.cache.countsStatistics = true) (unreset : action ≠ .resetStatistics) :
    (state.perform action).state.cache.statistics.evictions =
      state.cache.statistics.evictions + (CacheMoment.findsExpired ⟨state, action⟩).toNat := by
  have makesNoRoom : (state.effect action).evicted state.cache = 0 := by
    cases isEffect : state.effect action with
    | stored key parsed parseTime =>
        exact absurd isEffect (effect_ne_stored storesNothing action key parsed parseTime)
    | _ => rfl
  have grows := (state.grows_perform single counts unreset).evictions
  change _ = _ + (_ + (state.effect action).evicted state.cache) at grows
  rwa [makesNoRoom, Nat.add_zero] at grows

/-- A block in which nobody sets the limit stores nothing, and gives the old limit back however it
ends. At every point of it, at which an error may end it, the cache holds what was there before,
apart from what was invalidated or found too old, and what has not expired is still found. No entry
makes room for another. -/
theorem disabled_leaves_remnant (state : CacheState) (propagates : Bool)
    (actions : List CacheAction)
    (unset : ∀ maxSize, .setMaxSize maxSize ∉ CacheAction.allSingles actions) :
    let inside := state.setMaxSize 0
    let moments := inside.allMoments propagates actions
    let left := (state.perform (.disabled propagates actions)).state
    (left = (inside.behind moments).setMaxSize state.cache.maxSize ∧
      left.cache.maxSize = state.cache.maxSize ∧ left.cache.IsRemnantOf state.cache moments) ∧
    (∀ past, past <+: moments →
      let current := inside.behind past
      (current.setMaxSize state.cache.maxSize).cache.IsRemnantOf state.cache past ∧
      ∀ key entry, current.cache.entry? key = some entry →
        entry.isExpired current.cache.ttl current.supply.now = false →
        (current.cache.get key current.supply.now).1 = some entry.parsed ∧
          (current.parse (.text key)).1 = .ok entry.parsed) ∧
    ∀ moment ∈ moments, moment.state.cache.countsStatistics = true →
      moment.action ≠ .resetStatistics →
      moment.after.cache.statistics.evictions =
        moment.state.cache.statistics.evictions + moment.findsExpired.toNat := by
  intro inside moments left
  have storesNothing : ∀ moment ∈ moments, moment.state.cache.maxSize ≤ 0 := by
    intro moment member
    have isZero := (maxSize_moments.2 actions inside propagates unset).2 moment member
    exact Int.le_of_eq (isZero.elim id id)
  have remnant (past : List CacheMoment) (isBefore : past <+: moments) :
      ((inside.behind past).setMaxSize state.cache.maxSize).cache.IsRemnantOf state.cache past := by
    obtain ⟨inUseOrder, unchanged, lost⟩ := (leadsTo_behind isBefore).isRemnantOf
      fun moment isEarlier => storesNothing moment (isBefore.subset isEarlier)
    exact ⟨inUseOrder, unchanged, lost⟩
  have leaves : left = (inside.behind moments).setMaxSize state.cache.maxSize := by
    rw [behind_allMoments]
    exact perform_disabled_state state propagates actions
  refine ⟨⟨leaves, ?_, ?_⟩, fun past isBefore => ⟨remnant past isBefore, ?_⟩, ?_⟩
  · rw [leaves]
    rfl
  · rw [leaves]
    exact remnant moments List.prefix_rfl
  · exact fun key entry => lookup_of_live
  · intro moment member counts unreset
    obtain ⟨_, _, _, single⟩ := leadsTo_of_mem member
    exact evictions_perform single (storesNothing moment member) counts unreset

/-- The inner block finds one entry too old, and its error ends both blocks. -/
theorem disabled_leaves_remnant_nested :
    let parsed : ParsedTemplate := ⟨0, ⟨"a", []⟩⟩
    let young : CacheEntry := ⟨"a", parsed, 7, 1, 0⟩
    let old : CacheEntry := ⟨"b", parsed, 0, 1, 4⟩
    let state : CacheState := ⟨⟨2, some (.whole 9), true, [young, old], .zero⟩, ⟨8, 1, 3⟩⟩
    let actions : List CacheAction := [.get "a", .put "c" "c" 0, .disabled true
      [.advance 5, .get "b", .parse (.text "a"), .parse (.text "\x7b")], .invalidate none]
    let left := (state.perform (.disabled true actions)).state
    (state.perform (.disabled true actions)).error.isSome = true ∧
      left.cache.entries = [{ young with hits := 2 }] ∧ left.cache.maxSize = 2 ∧
      left.cache.statistics = ⟨2, 2, 1, 1, 0⟩ ∧
      ∃ moment ∈ (state.setMaxSize 0).allMoments true actions, moment.Removes "b" := by
  intro parsed young old state actions left
  have unset : ∀ maxSize, .setMaxSize maxSize ∉ CacheAction.allSingles actions := by
    intro maxSize
    simp [actions, CacheAction.allSingles, CacheAction.singles]
  obtain ⟨⟨_, sameLimit, remnant⟩, _⟩ := disabled_leaves_remnant state true actions unset
  refine ⟨by decide +kernel, by decide +kernel, sameLimit, by decide +kernel, ?_⟩
  exact remnant.lost "b" old (by decide +kernel) (by decide +kernel)

end CacheState

end UriTemplate
