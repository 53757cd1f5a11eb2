import UriTemplate.Proofs.Cache.Effect
import Mathlib.Data.List.Nodup

namespace UriTemplate

/-- Taking out a key that is there takes out one. -/
theorem length_filter_ne {keys : List Text} (nodup : keys.Nodup) (key : Text) :
    (keys.filter (· ≠ key)).length + (if key ∈ keys then 1 else 0) = keys.length := by
  have same : (fun other => !decide (other ≠ key)) = (· == key) := by
    funext other
    by_cases isKey : other = key <;> simp [isKey]
  rw [List.length_eq_length_filter_add (l := keys) (· ≠ key), same,
    ← List.count_eq_length_filter, nodup.count]

/-- Taking out a key that is not there changes nothing. -/
theorem filter_ne_of_absent {keys : List Text} {key : Text} (absent : key ∉ keys) :
    keys.filter (· ≠ key) = keys := by
  rw [List.filter_eq_self]
  intro other member
  exact decide_eq_true fun same => absent (same ▸ member)

/-- A key that is taken out and put last is not there twice. -/
theorem nodup_filter_ne_concat {keys : List Text} (nodup : keys.Nodup) (key : Text) :
    (keys.filter (· ≠ key) ++ [key]).Nodup := by
  refine List.nodup_append.mpr ⟨nodup.filter _, List.nodup_singleton key, ?_⟩
  intro left isOther right isKey
  rw [List.mem_singleton.mp isKey]
  exact of_decide_eq_true (List.mem_filter.mp isOther).2

namespace TemplateCache

def otherKeys (cache : TemplateCache) (key : Text) : List Text :=
  cache.keys.filter (· ≠ key)

variable {cache : TemplateCache} {key other : Text}

/-- Without the entry of a key the other keys remain. -/
theorem keys_without : (cache.without key).map CacheEntry.key = cache.otherKeys key := by
  rw [otherKeys, keys, List.filter_map]
  rfl

/-- The other keys are the keys but for this one. -/
theorem mem_otherKeys : other ∈ cache.otherKeys key ↔ other ∈ cache.keys ∧ other ≠ key := by
  rw [otherKeys, List.mem_filter, decide_eq_true_iff]

theorem mem_keys_of_entry? {entry : CacheEntry} (found : cache.entry? key = some entry) :
    key ∈ cache.keys := by
  obtain ⟨member, sameKey⟩ := mem_of_entry?_eq_some found
  exact sameKey ▸ List.mem_map_of_mem member

theorem otherKeys_of_absent (absent : key ∉ cache.keys) : cache.otherKeys key = cache.keys :=
  filter_ne_of_absent absent

theorem nodup_otherKeys_concat (nodup : cache.keys.Nodup) :
    (cache.otherKeys key ++ [key]).Nodup :=
  nodup_filter_ne_concat nodup key

end TemplateCache

namespace CacheEffect

/-- The key that is stored or found. -/
def usedKey? : CacheEffect → Option Text
  | .used key => some key
  | .stored key _ _ => some key
  | _ => none

/-- The keys behind an effect. -/
def keysAfter (cache : TemplateCache) : CacheEffect → List Text
  | .nothing => cache.keys
  | .used key => cache.otherKeys key ++ [key]
  | .missed key => cache.otherKeys key
  | .stored key _ _ =>
      (cache.otherKeys key).drop
        (TemplateCache.excess cache.maxSize (cache.otherKeys key).length) ++ [key]
  | .dropped key => cache.otherKeys key
  | .cleared => []

/-- The key that is used comes last. -/
theorem keysAfter_of_usedKey? {effect : CacheEffect} {key : Text}
    (isUse : effect.usedKey? = some key) (cache : TemplateCache) :
    ∃ front, effect.keysAfter cache = front ++ [key] := by
  cases effect with
  | used other =>
      obtain rfl := Option.some.inj isUse
      exact ⟨_, rfl⟩
  | stored other parsed parseTime =>
      obtain rfl := Option.some.inj isUse
      exact ⟨_, rfl⟩
  | _ => cases isUse

end CacheEffect

namespace CacheState

variable {state : CacheState} {action : CacheAction} {effect : CacheEffect}

/-- What an effect does to the entries it does to their keys. -/
theorem map_key_entriesAfter (allowed : state.Allows action effect) :
    (effect.entriesAfter state).map CacheEntry.key = effect.keysAfter state.cache := by
  cases effect with
  | nothing => rfl
  | used key =>
      obtain ⟨_, entry, found, _⟩ := allowed
      have sameKey := (TemplateCache.mem_of_entry?_eq_some found).2
      rw [CacheEffect.entriesAfter, found, List.map_append, TemplateCache.keys_without]
      exact congrArg (fun key => _ ++ [key]) sameKey
  | missed key => exact TemplateCache.keys_without
  | stored key parsed parseTime =>
      rw [CacheEffect.entriesAfter, TemplateCache.entriesWith, List.map_append, List.map_drop,
        TemplateCache.keys_without, CacheEffect.keysAfter, ← TemplateCache.keys_without,
        List.length_map]
      rfl
  | dropped key => exact TemplateCache.keys_without
  | cleared => rfl

/-- A single action leaves the keys that its effect says. -/
theorem keys_perform (single : action.IsSingle) :
    (state.perform action).state.cache.keys = (state.effect action).keysAfter state.cache := by
  rw [TemplateCache.keys, entries_perform state single]
  exact map_key_entriesAfter (state.allows_effect action)

end CacheState

/-- A key is used by a lookup that finds it and by what is stored under it. -/
theorem CacheState.usedKey?_effect_iff {state : CacheState} {action : CacheAction} {key : Text} :
    (state.effect action).usedKey? = some key ↔
      (action.LooksUp key ∧ (state.lookup key).isSome = true) ∨
        ∃ parsed, state.Stores action key parsed := by
  constructor
  · intro used
    have allowed := state.allows_effect action
    generalize state.effect action = effect at used allowed
    cases effect with
    | used other =>
        obtain rfl := Option.some.inj used
        obtain ⟨looksUp, entry, found, live⟩ := allowed
        refine .inl ⟨looksUp, ?_⟩
        rw [lookup, TemplateCache.get_of_live found live]
        rfl
    | stored other parsed parseTime =>
        obtain rfl := Option.some.inj used
        exact .inr ⟨parsed, allowed⟩
    | _ => cases used
  · rintro (⟨rfl | rfl, isHit⟩ | ⟨parsed, stores⟩)
    · rw [effect, if_pos isHit]
      rfl
    · rw [effect, if_pos isHit]
      rfl
    · obtain ⟨_, stored⟩ := effect_of_stores stores
      rw [stored]
      rfl

namespace CacheState

variable {state : CacheState} {action : CacheAction} {effect : CacheEffect}

/-- No effect puts a key in twice. -/
theorem nodup_keysAfter {cache : TemplateCache} (nodup : cache.keys.Nodup) (effect : CacheEffect) :
    (effect.keysAfter cache).Nodup := by
  cases effect with
  | nothing => exact nodup
  | used key => exact TemplateCache.nodup_otherKeys_concat nodup
  | missed key => exact nodup.filter _
  | stored key parsed parseTime =>
      exact (TemplateCache.nodup_otherKeys_concat nodup).sublist
        ((List.drop_sublist _ _).append_right _)
  | dropped key => exact nodup.filter _
  | cleared => exact List.nodup_nil

/-- No effect exceeds a limit that was kept before and is not below the limit in force. -/
theorem length_keysAfter_le {limit : Nat} (allowed : state.Allows action effect)
    (fits : state.cache.keys.length ≤ limit) (limited : state.cache.maxSize.toNat ≤ limit) :
    (effect.keysAfter state.cache).length ≤ limit := by
  have othersFit (key : Text) : (state.cache.otherKeys key).length ≤ limit :=
    Nat.le_trans (List.length_filter_le _ _) fits
  cases effect with
  | nothing => exact fits
  | used key =>
      obtain ⟨_, entry, found, _⟩ := allowed
      have isKey : key ∈ state.cache.keys := TemplateCache.mem_keys_of_entry? found
      have fewer : (state.cache.otherKeys key).length < state.cache.keys.length :=
        List.length_filter_lt_length_iff_exists.mpr ⟨key, isKey, by simp⟩
      rw [CacheEffect.keysAfter, List.length_append, List.length_singleton]
      omega
  | missed key => exact othersFit key
  | stored key parsed parseTime =>
      have positive : 0 < state.cache.maxSize := allowed.1
      rw [CacheEffect.keysAfter, List.length_append, List.length_drop, List.length_singleton,
        TemplateCache.excess]
      omega
  | dropped key => exact othersFit key
  | cleared => exact Nat.zero_le _

/-- A full cache stores a new key in the place of the one that was used longest ago. -/
theorem evicted_cases {cache : TemplateCache} {limit : Nat} {key new : Text}
    (fits : cache.keys.length ≤ limit) (present : key ∈ cache.keys) (different : key ≠ new)
    (lost : key ∉ (cache.otherKeys new).drop
      (TemplateCache.excess limit (cache.otherKeys new).length)) :
    new ∉ cache.keys ∧ cache.keys.length = limit ∧ ∃ rest, cache.keys = key :: rest ∧
      (cache.otherKeys new).drop
        (TemplateCache.excess limit (cache.otherKeys new).length) = rest := by
  have isOther : key ∈ cache.otherKeys new := TemplateCache.mem_otherKeys.mpr ⟨present, different⟩
  have isPart : (cache.otherKeys new).Sublist cache.keys := List.filter_sublist
  have noFewer := isPart.length_le
  have isFull : limit ≤ (cache.otherKeys new).length := by
    by_contra hasRoom
    rw [TemplateCache.excess, Int.toNat_natCast, Nat.sub_eq_zero_of_le (by omega)] at lost
    exact lost isOther
  have same : cache.otherKeys new = cache.keys := isPart.eq_of_length (by omega)
  rw [same] at lost isFull ⊢
  have oneTooMany : TemplateCache.excess limit cache.keys.length = 1 := by
    rw [TemplateCache.excess, Int.toNat_natCast]
    omega
  rw [oneTooMany] at lost ⊢
  refine ⟨?_, by omega, ?_⟩
  · intro isOld
    rw [← same] at isOld
    exact (TemplateCache.mem_otherKeys.mp isOld).2 rfl
  · cases keys : cache.keys with
    | nil =>
        rw [keys] at present
        cases present
    | cons first rest =>
        rw [keys, List.drop_one, List.tail_cons] at lost
        rw [keys, List.mem_cons] at present
        obtain rfl := present.resolve_right lost
        exact ⟨rest, rfl, rfl⟩

/-- Every key has an entry. -/
theorem exists_entry?_of_mem_keys {cache : TemplateCache} {key : Text}
    (present : key ∈ cache.keys) : ∃ entry, cache.entry? key = some entry := by
  obtain ⟨entry, member, sameKey⟩ := List.mem_map.mp present
  exact Option.isSome_iff_exists.mp
    (List.find?_isSome.mpr ⟨entry, member, decide_eq_true sameKey⟩)

/-- A key is lost to an invalidation, to a lookup that finds it expired, or, as the one that was
used longest ago, to another key for which a full cache has no room. -/
theorem lost_cases {limit : Int} {key : Text} (allowed : state.Allows action effect)
    (limited : state.cache.maxSize = limit ∨ state.cache.maxSize = 0)
    (fits : state.cache.keys.length ≤ limit.toNat) (present : key ∈ state.cache.keys)
    (lost : key ∉ effect.keysAfter state.cache) :
    action = .invalidate (some key) ∨ action = .invalidate none ∨
      (action.LooksUp key ∧ ∃ entry, state.cache.entry? key = some entry ∧
        entry.isExpired state.cache.ttl state.supply.now = true) ∨
      ∃ new parsed rest, state.Stores action new parsed ∧ new ∉ state.cache.keys ∧
        (state.cache.keys.length : Int) = limit ∧ state.cache.keys = key :: rest ∧
        effect.keysAfter state.cache = rest ++ [new] := by
  have isTarget {other : Text} (gone : key ∉ state.cache.otherKeys other) : key = other := by
    by_contra different
    exact gone (TemplateCache.mem_otherKeys.mpr ⟨present, different⟩)
  cases effect with
  | nothing => exact absurd present lost
  | used other =>
      simp only [CacheEffect.keysAfter, List.mem_append, List.mem_singleton, not_or] at lost
      exact absurd (isTarget lost.1) lost.2
  | missed other =>
      obtain rfl := isTarget lost
      obtain ⟨looksUp, expired⟩ := allowed
      obtain ⟨entry, found⟩ := exists_entry?_of_mem_keys present
      exact .inr (.inr (.inl ⟨looksUp, entry, found, expired entry found⟩))
  | stored new parsed parseTime =>
      have positive : 0 < state.cache.maxSize := allowed.1
      have isLimit : state.cache.maxSize = limit.toNat := by omega
      simp only [CacheEffect.keysAfter, List.mem_append, List.mem_singleton, not_or] at lost
      rw [isLimit] at lost
      obtain ⟨isNew, isFull, rest, isFirst, left⟩ := evicted_cases fits present lost.2 lost.1
      refine .inr (.inr (.inr ⟨new, parsed, rest, allowed, isNew, by omega, isFirst, ?_⟩))
      rw [CacheEffect.keysAfter, isLimit, left]
  | dropped other =>
      obtain rfl := isTarget lost
      exact .inl allowed
  | cleared => exact .inr (.inl allowed)

end CacheState

end UriTemplate
