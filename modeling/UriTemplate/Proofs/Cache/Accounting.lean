import UriTemplate.Proofs.Cache.Freshness
import UriTemplate.Proofs.Cache.Keys
import UriTemplate.Proofs.Cache.Statistics

namespace UriTemplate

/-- What is lost and what is kept are all that there was. -/
theorem length_lost_add {keys kept : List Text} (nodup : keys.Nodup)
    (sublist : kept.Sublist keys) :
    (keys.filter (· ∉ kept)).length + kept.length = keys.length := by
  have sameKept : (keys.filter (· ∈ kept)).Perm kept := by
    rw [List.perm_ext_iff_of_nodup (nodup.filter _) (nodup.sublist sublist)]
    intro key
    rw [List.mem_filter, decide_eq_true_iff]
    exact and_iff_right_of_imp fun member => sublist.subset member
  rw [List.length_eq_length_filter_add (l := keys) (· ∈ kept), sameKept.length_eq, Nat.add_comm]
  simp only [decide_not]

theorem countP_concat {α : Type} (holds : α → Bool) (items : List α) (item : α) :
    (items ++ [item]).countP holds = items.countP holds + (holds item).toNat := by
  rw [List.countP_append, List.countP_singleton]
  cases holds item <;> rfl

namespace TemplateCache

variable {cache : TemplateCache} {key : Text} {now : Int}

/-- A key is there just if it is among the keys. -/
theorem contains_iff : cache.contains key = true ↔ key ∈ cache.keys := by
  rw [contains]
  constructor
  · intro isSome
    obtain ⟨entry, found⟩ := Option.isSome_iff_exists.mp isSome
    exact mem_keys_of_entry? found
  · intro present
    exact Option.isSome_iff_exists.mpr (CacheState.exists_entry?_of_mem_keys present)

/-- A key counts once among the keys if it is there. -/
theorem length_otherKeys_add (nodup : cache.keys.Nodup) (key : Text) :
    (cache.otherKeys key).length + (cache.contains key).toNat = cache.keys.length := by
  have length := length_filter_ne nodup key
  by_cases present : key ∈ cache.keys
  · rw [if_pos present] at length
    rw [contains_iff.mpr present]
    exact length
  · rw [if_neg present] at length
    rw [Bool.eq_false_iff.mpr (mt contains_iff.mp present)]
    exact length

/-- Behind a miss, a key that is there has expired. -/
theorem isExpired_of_missed (expired : ∀ entry, cache.entry? key = some entry →
      entry.isExpired cache.ttl now = true) : cache.isExpired key now = cache.contains key := by
  rw [isExpired, contains]
  cases found : cache.entry? key with
  | none => rfl
  | some entry => exact expired entry found

/-- A live entry has not expired. -/
theorem isExpired_of_live {entry : CacheEntry} (found : cache.entry? key = some entry)
    (live : entry.isExpired cache.ttl now = false) : cache.isExpired key now = false := by
  rw [isExpired, found]
  exact live

end TemplateCache

def CacheAction.Invalidates : CacheAction → Prop
  | .invalidate _ => True
  | _ => False

/-- The key that is stored. -/
def CacheEffect.storedKey? : CacheEffect → Option Text
  | .stored key _ _ => some key
  | _ => none

namespace CacheMoment

/-- The cache behind the lookup, if there is one. Whatever is stored is stored there. -/
def searched (moment : CacheMoment) : TemplateCache :=
  match moment.action.lookedUp? with
  | some key => (moment.state.cache.get key moment.state.supply.now).2
  | none => moment.state.cache

/-- A key is stored that is not there at that moment. -/
def storesNew (moment : CacheMoment) : Bool :=
  moment.effect.storedKey?.any fun key => !moment.searched.contains key

/-- The keys that are there before an action but not behind it. -/
def lostKeys (moment : CacheMoment) : List Text :=
  moment.state.cache.keys.filter (· ∉ moment.after.cache.keys)

/-- How many entries make room for what is stored. -/
def displaced (moment : CacheMoment) : Nat :=
  if moment.effect.storedKey?.isSome then moment.lostKeys.length else 0

/-- How many entries an invalidation removes. -/
def invalidated (moment : CacheMoment) : Nat :=
  match moment.action with
  | .invalidate _ => moment.lostKeys.length
  | _ => 0

/-- A lookup of the key is answered from what is stored. -/
def isHitOn (key : Text) (moment : CacheMoment) : Bool :=
  moment.action.lookedUp? = some key && (moment.state.lookup key).isSome

/-- A hit on a key is a use of it. -/
theorem isHitOn_iff {moment : CacheMoment} {key : Text} :
    moment.isHitOn key = true ↔ moment.effect = .used key := by
  rw [isHitOn, Bool.and_eq_true, decide_eq_true_iff, CacheAction.lookedUp?_eq_some_iff, effect]
  constructor
  · rintro ⟨looksUp | looksUp, isHit⟩
    · rw [looksUp, CacheState.effect, if_pos isHit]
    · rw [looksUp, CacheState.effect, if_pos isHit]
  · intro isUse
    obtain ⟨looksUp, entry, found, live⟩ := CacheState.allows_of_effect isUse
    refine ⟨looksUp, ?_⟩
    rw [CacheState.lookup, TemplateCache.get_of_live found live]
    rfl

end CacheMoment

namespace CacheState

variable {state : CacheState} {action : CacheAction} {key : Text}

/-- A lookup misses if the key has no entry that is still live. -/
theorem lookup_eq_none_iff : state.lookup key = none ↔
    ∀ entry, state.cache.entry? key = some entry →
      entry.isExpired state.cache.ttl state.supply.now = true := by
  rcases state.lookup_cases key with ⟨missed, expired, _⟩ | ⟨entry, answered, found, live, _⟩
  · exact iff_of_true missed expired
  · apply iff_of_false
    · rw [answered]
      exact Option.some_ne_none _
    · intro expired
      rw [expired entry found] at live
      cases live

/-- Storing either takes place or leaves its alternative. -/
theorem storeEffect_cases (state : CacheState) (key : Text)
    (result : Except ParseError ParsedTemplate) (parseTime : Int) (otherwise : CacheEffect) :
    state.storeEffect key result parseTime otherwise = otherwise ∨
      ∃ parsed, state.storeEffect key result parseTime otherwise =
        .stored key parsed parseTime := by
  cases result with
  | error => exact .inl rfl
  | ok parsed =>
      rw [storeEffect]
      split
      · exact .inr ⟨parsed, rfl⟩
      · exact .inl rfl

/-- An action without an effect neither looks up nor invalidates. -/
theorem lookedUp?_of_nothing (same : state.effect action = .nothing) :
    action.lookedUp? = none ∧ ¬action.Invalidates := by
  cases action with
  | get key =>
      rw [effect] at same
      split at same <;> cases same
  | parse value =>
      cases value with
      | text key =>
          rw [effect] at same
          split at same
          · cases same
          · rcases state.storeEffect_cases key (state.supply.parse (.text key)).1
              state.supply.parseTime (.missed key) with missed | ⟨parsed, stored⟩
            · rw [missed] at same
              cases same
            · rw [stored] at same
              cases same
      | _ => exact ⟨rfl, id⟩
  | invalidate key => cases key <;> cases same
  | _ => exact ⟨rfl, id⟩

end CacheState

namespace CacheMoment

variable {moment : CacheMoment} {key : Text}

/-- A lookup finds an expired entry just if its key has one. -/
theorem findsExpired_of_lookup (looksUp : moment.action.LooksUp key) :
    moment.findsExpired = moment.state.cache.isExpired key moment.state.supply.now := by
  rw [findsExpired, CacheAction.lookedUp?_eq_some_iff.mpr looksUp]
  rfl

/-- Nothing expires where nothing is looked up. -/
theorem findsExpired_eq_false (looksNothingUp : moment.action.lookedUp? = none) :
    moment.findsExpired = false := by
  rw [findsExpired, looksNothingUp]
  rfl

/-- Only an invalidation invalidates entries. -/
theorem invalidated_eq_zero (invalidatesNothing : ¬moment.action.Invalidates) :
    moment.invalidated = 0 := by
  rw [invalidated]
  split
  · next isInvalidation =>
      rw [isInvalidation] at invalidatesNothing
      exact absurd trivial invalidatesNothing
  · rfl

/-- A lookup invalidates nothing. -/
theorem invalidated_of_lookup (looksUp : moment.action.LooksUp key) : moment.invalidated = 0 := by
  apply invalidated_eq_zero
  rcases looksUp with looksUp | looksUp <;> rw [looksUp] <;> exact id

/-- What makes room is lost, and what is stored comes behind what is kept. -/
theorem displaced_add {parsed : ParsedTemplate} {parseTime : Int}
    (single : moment.action.IsSingle) (nodup : moment.state.cache.keys.Nodup)
    (stored : moment.effect = .stored key parsed parseTime) :
    moment.displaced = moment.effect.evicted moment.state.cache ∧
      moment.displaced + moment.after.cache.keys.length =
        (moment.state.cache.otherKeys key).length + 1 := by
  let others := moment.state.cache.otherKeys key
  let surplus := TemplateCache.excess moment.state.cache.maxSize others.length
  have positive : 0 < moment.state.cache.maxSize := (CacheState.allows_of_effect stored).1
  have keysAfter : moment.after.cache.keys = others.drop surplus ++ [key] := by
    rw [after, CacheState.keys_perform single]
    change moment.effect.keysAfter moment.state.cache = _
    rw [stored]
    rfl
  have sameLost : moment.lostKeys = others.filter (· ∉ others.drop surplus) := by
    rw [lostKeys, keysAfter]
    simp only [others, TemplateCache.otherKeys, List.filter_filter]
    apply List.filter_congr
    intro other _
    simp only [List.mem_append, List.mem_singleton, not_or, decide_not, Bool.decide_and, ne_eq]
  have balance : moment.lostKeys.length + (others.drop surplus).length = others.length := by
    rw [sameLost]
    exact length_lost_add (nodup.filter _) (List.drop_sublist _ _)
  have isDisplaced : moment.displaced = moment.lostKeys.length := by
    rw [displaced, stored]
    rfl
  have evicts : moment.effect.evicted moment.state.cache = surplus := by
    rw [stored, CacheEffect.evicted, ← List.length_map, TemplateCache.keys_without]
  have enough : surplus ≤ others.length := by
    simp only [surplus, TemplateCache.excess]
    omega
  change _ ∧ _ = others.length + 1
  rw [List.length_drop] at balance
  rw [isDisplaced, evicts, keysAfter, List.length_append, List.length_drop,
    List.length_singleton]
  constructor <;> omega

/-- The keys that are lost when another is stored are those that were evicted. -/
theorem displaced_eq_evicted (single : moment.action.IsSingle)
    (nodup : moment.state.cache.keys.Nodup) :
    moment.displaced = moment.effect.evicted moment.state.cache := by
  cases isEffect : moment.effect with
  | stored key parsed parseTime =>
      rw [← isEffect]
      exact (displaced_add single nodup isEffect).1
  | _ =>
      rw [displaced, isEffect]
      rfl

/-- A lookup that misses removes the entry of its key if it has expired, so nothing is there when
something is stored. -/
theorem missed_cases (looksUp : moment.action.LooksUp key)
    (missed : moment.state.lookup key = none) (nodup : moment.state.cache.keys.Nodup) :
    (moment.state.cache.otherKeys key).length + moment.findsExpired.toNat =
        moment.state.cache.keys.length ∧
      moment.searched.contains key = false := by
  rcases moment.state.lookup_cases key with ⟨_, expired, entries⟩ | ⟨entry, answered, _⟩
  · rw [findsExpired_of_lookup looksUp, TemplateCache.isExpired_of_missed expired]
    refine ⟨TemplateCache.length_otherKeys_add nodup key, ?_⟩
    rw [searched, CacheAction.lookedUp?_eq_some_iff.mpr looksUp, ← Bool.not_eq_true,
      TemplateCache.contains_iff, TemplateCache.keys, entries, TemplateCache.keys_without,
      TemplateCache.mem_otherKeys]
    exact fun present => present.2 rfl
  · rw [missed] at answered
    cases answered

/-- Every entry that is there behind an action was there before it or is new, and every entry that
was there before it is there behind it, has expired, made room, or was invalidated. -/
def IsBalanced (moment : CacheMoment) : Prop :=
  moment.after.cache.keys.length + moment.findsExpired.toNat + moment.displaced +
      moment.invalidated =
    moment.state.cache.keys.length + moment.storesNew.toNat

/-- Without a stored key only expiry and invalidation change the number of entries. -/
theorem isBalanced_of_unstored (unstored : moment.effect.storedKey? = none)
    (balance : moment.after.cache.keys.length + moment.findsExpired.toNat + moment.invalidated =
      moment.state.cache.keys.length) : moment.IsBalanced := by
  have noneDisplaced : moment.displaced = 0 := by
    rw [displaced, unstored]
    rfl
  have noneNew : moment.storesNew = false := by
    rw [storesNew, unstored]
    rfl
  rw [IsBalanced, noneDisplaced, noneNew, Nat.add_zero]
  exact balance

/-- An invalidation accounts for the keys that it removes. -/
theorem isBalanced_of_invalidate {target : Option Text}
    (invalidates : moment.action = .invalidate target)
    (nodup : moment.state.cache.keys.Nodup)
    (kept : moment.after.cache.keys.Sublist moment.state.cache.keys) : moment.IsBalanced := by
  have unstored : moment.effect.storedKey? = none := by
    rw [effect, invalidates]
    cases target <;> rfl
  have looksNothingUp : moment.action.lookedUp? = none := by
    rw [invalidates]
    rfl
  apply isBalanced_of_unstored unstored
  rw [findsExpired_eq_false looksNothingUp, invalidated, invalidates, Bool.toNat_false,
    Nat.add_zero, Nat.add_comm]
  exact length_lost_add nodup kept

/-- A text that is parsed is stored where its key is no longer, and what is put replaces what is
there. -/
theorem isBalanced_of_stored {parsed : ParsedTemplate} {parseTime : Int}
    (single : moment.action.IsSingle) (nodup : moment.state.cache.keys.Nodup)
    (stored : moment.effect = .stored key parsed parseTime) : moment.IsBalanced := by
  have balance := (displaced_add single nodup stored).2
  have isNew : moment.storesNew = !moment.searched.contains key := by
    rw [storesNew, stored]
    rfl
  have allowed : moment.Stores key parsed := CacheState.allows_of_effect stored
  rw [IsBalanced, isNew]
  rcases allowed.2 with ⟨parses, missed, _⟩ | puts
  · obtain ⟨expired, absent⟩ := missed_cases (.inr parses) missed nodup
    rw [invalidated_of_lookup (.inr parses), absent, Bool.not_false, Bool.toNat_true]
    omega
  · have putsOnly : moment.action.lookedUp? = none ∧ ¬moment.action.Invalidates := by
      rcases puts with ⟨_, _, puts, _⟩ | ⟨_, puts⟩ <;> rw [puts] <;> exact ⟨rfl, id⟩
    have length := TemplateCache.length_otherKeys_add nodup key
    rw [findsExpired_eq_false putsOnly.1, invalidated_eq_zero putsOnly.2, searched, putsOnly.1]
    cases isOld : moment.state.cache.contains key <;>
      simp only [isOld, Bool.toNat_true, Bool.toNat_false, Bool.not_true, Bool.not_false]
        at length ⊢ <;> omega

/-- Every single action keeps the balance of the entries. -/
theorem isBalanced (single : moment.action.IsSingle) (nodup : moment.state.cache.keys.Nodup) :
    moment.IsBalanced := by
  have allowed : moment.state.Allows moment.action moment.effect :=
    moment.state.allows_effect moment.action
  have keysAfter : moment.after.cache.keys = moment.effect.keysAfter moment.state.cache :=
    CacheState.keys_perform single
  -- Only a store adds a key; the other effects are told apart by what takes keys away.
  cases isEffect : moment.effect with
  | nothing =>
      obtain ⟨looksNothingUp, invalidatesNothing⟩ := CacheState.lookedUp?_of_nothing isEffect
      apply isBalanced_of_unstored (isEffect ▸ rfl)
      rw [keysAfter, isEffect, findsExpired_eq_false looksNothingUp,
        invalidated_eq_zero invalidatesNothing]
      rfl
  | used key =>
      rw [isEffect] at allowed keysAfter
      obtain ⟨looksUp, entry, found, live⟩ := allowed
      have present : moment.state.cache.contains key = true := by
        rw [TemplateCache.contains, found]
        rfl
      have length := TemplateCache.length_otherKeys_add nodup key
      rw [present] at length
      apply isBalanced_of_unstored (isEffect ▸ rfl)
      rw [keysAfter, findsExpired_of_lookup looksUp, TemplateCache.isExpired_of_live found live,
        invalidated_of_lookup looksUp, CacheEffect.keysAfter, List.length_append,
        List.length_singleton]
      exact length
  | missed key =>
      rw [isEffect] at allowed keysAfter
      obtain ⟨looksUp, expired⟩ := allowed
      have missed : moment.state.lookup key = none := CacheState.lookup_eq_none_iff.mpr expired
      apply isBalanced_of_unstored (isEffect ▸ rfl)
      rw [keysAfter, invalidated_of_lookup looksUp]
      exact (missed_cases looksUp missed nodup).1
  | stored key parsed parseTime => exact isBalanced_of_stored single nodup isEffect
  | dropped key =>
      rw [isEffect] at allowed keysAfter
      exact isBalanced_of_invalidate allowed nodup (keysAfter ▸ List.filter_sublist)
  | cleared =>
      rw [isEffect] at allowed keysAfter
      exact isBalanced_of_invalidate allowed nodup (keysAfter ▸ List.nil_sublist _)

end CacheMoment

/-- The hits of an entry are those on its key since the key was stored last. -/
def CacheEntry.CountsHits (entry : CacheEntry) (past : List CacheMoment) : Prop :=
  ∃ earlier store since, past = earlier ++ store :: since ∧
    store.Stores entry.key entry.parsed ∧
    (∀ moment ∈ since, ∀ parsed, ¬moment.Stores entry.key parsed) ∧
    entry.hits = since.countP (CacheMoment.isHitOn entry.key)

/-- What was performed accounts for the counters, the length and the entries of a cache. Every
entry that has expired and every one that made room is one eviction. -/
structure TemplateCache.IsAccountedFor (cache : TemplateCache) (past : List CacheMoment) :
    Prop where
  hits : cache.statistics.hits = past.countP CacheMoment.isHit
  lookups : cache.statistics.hits + cache.statistics.misses = past.countP CacheMoment.isLookup
  errors : cache.statistics.errors = past.countP CacheMoment.isRefused
  evictions : cache.statistics.evictions =
    past.countP CacheMoment.findsExpired + (past.map CacheMoment.displaced).sum
  length : (cache.entries.length : Int) =
    past.countP CacheMoment.storesNew - cache.statistics.evictions -
      (past.map CacheMoment.invalidated).sum
  entryHits : ∀ entry ∈ cache.entries, entry.CountsHits past

namespace CacheState

variable {start state : CacheState} {past : List CacheMoment} {action : CacheAction}

/-- An entry behind an action has just been stored, or it was spared and has one more hit if it was
found. -/
theorem hits_perform {moment : CacheMoment} (single : moment.action.IsSingle)
    {entry : CacheEntry} (member : entry ∈ moment.after.cache.entries) :
    (moment.Stores entry.key entry.parsed ∧ entry.hits = 0) ∨
    ∃ old ∈ moment.state.cache.entries, moment.effect.Spares entry.key ∧ old.key = entry.key ∧
      old.parsed = entry.parsed ∧
      entry.hits = old.hits + (moment.isHitOn entry.key).toNat := by
  have unhit (unused : moment.effect ≠ .used entry.key) :
      moment.isHitOn entry.key = false := by
    rw [← Bool.not_eq_true, CacheMoment.isHitOn_iff]
    exact unused
  have spares (isOld : entry ∈ moment.state.cache.entries)
      (spared : moment.effect.Spares entry.key) (unused : moment.effect ≠ .used entry.key) :
      ∃ old ∈ moment.state.cache.entries, moment.effect.Spares entry.key ∧ old.key = entry.key ∧
        old.parsed = entry.parsed ∧
        entry.hits = old.hits + (moment.isHitOn entry.key).toNat := by
    refine ⟨entry, isOld, spared, rfl, rfl, ?_⟩
    rw [unhit unused]
    rfl
  rw [CacheMoment.after, entries_perform _ single] at member
  change entry ∈ moment.effect.entriesAfter moment.state at member
  cases isEffect : moment.effect with
  | nothing =>
      rw [isEffect] at member spares
      exact .inr (spares member trivial CacheEffect.noConfusion)
  | used key =>
      rw [isEffect] at member spares
      rcases List.mem_append.mp member with isOther | isUsed
      · obtain ⟨isOld, different⟩ := TemplateCache.mem_without_iff.mp isOther
        refine .inr (spares isOld trivial fun same => different ?_)
        exact (CacheEffect.used.inj same).symm
      · obtain ⟨old, found, rfl⟩ := Option.map_eq_some_iff.mp (Option.mem_toList.mp isUsed)
        obtain ⟨isOld, rfl⟩ := TemplateCache.mem_of_entry?_eq_some found
        refine .inr ⟨old, isOld, trivial, rfl, rfl, ?_⟩
        have isHit : moment.isHitOn old.used.key = true := CacheMoment.isHitOn_iff.mpr isEffect
        rw [isHit]
        rfl
  | missed key =>
      rw [isEffect] at member spares
      obtain ⟨isOld, different⟩ := TemplateCache.mem_without_iff.mp member
      exact .inr (spares isOld different.symm CacheEffect.noConfusion)
  | stored key parsed parseTime =>
      rw [isEffect] at member spares
      rcases TemplateCache.mem_entriesWith member with ⟨isOld, different⟩ | rfl
      · exact .inr (spares isOld different.symm CacheEffect.noConfusion)
      · exact .inl ⟨allows_of_effect isEffect, rfl⟩
  | dropped key =>
      rw [isEffect] at member spares
      obtain ⟨isOld, different⟩ := TemplateCache.mem_without_iff.mp member
      exact .inr (spares isOld different.symm CacheEffect.noConfusion)
  | cleared =>
      rw [isEffect] at member
      cases member

/-- A further moment adds its own hit to the hits of the entries. -/
theorem countsHits_concat {moment : CacheMoment} (single : moment.action.IsSingle)
    (counts : ∀ old ∈ moment.state.cache.entries, old.CountsHits past) {entry : CacheEntry}
    (member : entry ∈ moment.after.cache.entries) : entry.CountsHits (past ++ [moment]) := by
  rcases hits_perform single member with ⟨stores, unused⟩ |
    ⟨old, isOld, spared, sameKey, sameParsed, hits⟩
  · exact ⟨past, moment, [], rfl, stores, fun _ isSince => absurd isSince List.not_mem_nil, unused⟩
  · obtain ⟨earlier, store, since, rfl, stores, onlyUsed, oldHits⟩ := counts old isOld
    rw [sameKey] at stores onlyUsed oldHits
    rw [sameParsed] at stores
    refine ⟨earlier, store, since ++ [moment], ?_, stores, ?_, ?_⟩
    · rw [List.append_assoc, List.cons_append]
    · intro other isSince
      rcases List.mem_append.mp isSince with isBefore | isNow
      · exact onlyUsed other isBefore
      · obtain rfl := List.mem_singleton.mp isNow
        exact fun _ => CacheMoment.not_stores_of_spares spared
    · rw [hits, oldHits, countP_concat]

/-- What was accounted for stays so when one more action is performed. -/
theorem isAccountedFor_concat {moment : CacheMoment} (single : moment.action.IsSingle)
    (counts : moment.state.cache.countsStatistics = true)
    (unreset : moment.action ≠ .resetStatistics) (nodup : moment.state.cache.keys.Nodup)
    (accounted : moment.state.cache.IsAccountedFor past) :
    moment.after.cache.IsAccountedFor (past ++ [moment]) := by
  have grows : moment.state.cache.statistics.Grows moment.after.cache.statistics
      moment.isHit.toNat moment.isLookup.toNat moment.isRefused.toNat
      (moment.findsExpired.toNat + moment.displaced) := by
    rw [CacheMoment.displaced_eq_evicted single nodup]
    exact moment.state.grows_perform single counts unreset
  have balance : moment.IsBalanced := CacheMoment.isBalanced single nodup
  have summed (amount : CacheMoment → Nat) :
      ((past ++ [moment]).map amount).sum = (past.map amount).sum + amount moment := by
    rw [List.map_append, List.sum_append, List.map_singleton, List.sum_singleton]
  have evictions : moment.after.cache.statistics.evictions =
      (past ++ [moment]).countP CacheMoment.findsExpired +
        ((past ++ [moment]).map CacheMoment.displaced).sum := by
    rw [grows.evictions, accounted.evictions, countP_concat, summed]
    omega
  constructor
  · rw [grows.hits, accounted.hits, countP_concat]
  · rw [grows.lookups, accounted.lookups, countP_concat]
  · rw [grows.errors, accounted.errors, countP_concat]
  · exact evictions
  · have length := accounted.length
    rw [accounted.evictions] at length
    rw [CacheMoment.IsBalanced, TemplateCache.keys, TemplateCache.keys, List.length_map,
      List.length_map] at balance
    rw [evictions, countP_concat, countP_concat, summed, summed]
    push_cast at length ⊢
    omega
  · exact fun _ => countsHits_concat single accounted.entryHits

/-- The induction follows the moments; the keys stay distinct, and everything is counted. -/
theorem LeadsTo.isAccountedFor (leads : start.LeadsTo past state)
    (isEmpty : start.cache.entries = []) (isZero : start.cache.statistics = .zero)
    (counts : start.cache.countsStatistics = true)
    (unreset : ∀ moment ∈ past, moment.action ≠ .resetStatistics ∧
      moment.action ≠ .setCountsStatistics false) :
    state.cache.countsStatistics = true ∧ state.cache.keys.Nodup ∧
      state.cache.IsAccountedFor past := by
  induction leads with
  | nothing =>
      refine ⟨counts, ?_, ?_⟩
      · rw [TemplateCache.keys, isEmpty]
        exact List.nodup_nil
      · constructor <;> simp [isEmpty, isZero, CacheStatistics.zero]
  | @acting past state action leads single inductionHypothesis =>
      obtain ⟨stillCounts, nodup, accounted⟩ := inductionHypothesis fun moment isEarlier =>
        unreset moment (List.mem_append_left _ isEarlier)
      obtain ⟨unresetNow, unsetNow⟩ := unreset ⟨state, action⟩
        (List.mem_append_right _ (List.mem_singleton.mpr rfl))
      refine ⟨countsStatistics_perform single stillCounts unsetNow, ?_, ?_⟩
      · rw [keys_perform single]
        exact nodup_keysAfter nodup _
      · let now : CacheMoment := ⟨state, action⟩
        have singleNow : now.action.IsSingle := single
        exact isAccountedFor_concat singleNow stillCounts unresetNow nodup accounted

/-- A text that is refused leaves every entry but its own, and that too unless it has expired. -/
theorem entries_of_refused {key : Text} {error : ParseError}
    (refused : (state.parse (.text key)).1 = .error error) :
    (state.parse (.text key)).2.cache.entries =
      if state.cache.isExpired key state.supply.now then state.cache.without key
      else state.cache.entries := by
  rcases state.lookup_cases key with ⟨missed, expired, entries⟩ | ⟨entry, answered, _⟩
  · have left : (state.parse (.text key)).2.cache.entries = state.cache.without key := by
      rw [parse_of_miss missed, parseMissing] at refused
      rw [parse_of_miss missed, entries_parseMissing]
      split at refused
      · cases refused
      · next read =>
          rw [read]
          exact entries
    rw [left, TemplateCache.isExpired_of_missed expired, TemplateCache.contains]
    cases found : state.cache.entry? key with
    | none => exact TemplateCache.without_of_entry?_eq_none found
    | some entry => rfl
  · rw [parse_of_hit answered] at refused
    cases refused

/-- The books of a cache balance at every point of a run that starts with an empty cache and in
which the counters are neither reset nor switched off. A text that is refused removes at most its
own expired entry, and what is no text changes nothing. -/
theorem accounts_balance (maxSize : Int) (ttl : Option Duration) (supply : Supply)
    (propagates : Bool) (actions : List CacheAction)
    (unreset : .resetStatistics ∉ CacheAction.allSingles actions)
    (counted : .setCountsStatistics false ∉ CacheAction.allSingles actions) :
    let start : CacheState := ⟨.empty maxSize ttl true, supply⟩
    let run := start.allMoments propagates actions
    (∀ past, past <+: run → (start.behind past).cache.IsAccountedFor past) ∧
    ∀ moment ∈ run, ∀ value, moment.action = .parse value →
      (∀ key error, value = .text key → (moment.state.parse value).1 = .error error →
        moment.after.cache.entries =
          if moment.state.cache.isExpired key moment.state.supply.now then
            moment.state.cache.without key
          else moment.state.cache.entries) ∧
      ((∀ key, value ≠ .text key) → moment.after = moment.state) := by
  intro start run
  refine ⟨fun past isBefore => ?_, fun moment _ value parses => ⟨?_, fun isNoText => ?_⟩⟩
  · refine ((leadsTo_behind isBefore).isAccountedFor rfl rfl rfl fun moment member => ?_).2.2
    rcases action_of_mem_moments.2 actions start propagates moment (isBefore.subset member) with
      isWritten | ⟨limit, setsMaxSize⟩
    · exact ⟨fun resets => unreset (resets ▸ isWritten), fun ends => counted (ends ▸ isWritten)⟩
    · rw [setsMaxSize]
      exact ⟨CacheAction.noConfusion, CacheAction.noConfusion⟩
  · rintro key error rfl refused
    rw [CacheMoment.after, parses, perform, attempted_state]
    exact entries_of_refused refused
  · rw [CacheMoment.after, parses, perform, attempted_state]
    cases value with
    | text key => exact absurd rfl (isNoText key)
    | _ => rfl

theorem accounts_balance_expiry :
    let a : Text := "a"
    let b : Text := "b"
    let actions : List CacheAction := [.parse (.text a), .get a, .put b b 0, .advance 4, .get a,
      .parse (.text b), .parse (.text "\x7b"), .parse .null, .parse (.text a), .get a,
      .disabled true [.parse (.text b), .parse (.text "c")], .parse (.text "c"),
      .invalidate (some b), .setMaxSize 0, .setTtl none, .get "c"]
    let start : CacheState := ⟨.empty 2 (some (.whole 3)) true, ⟨1000, 1, 1⟩⟩
    let run := start.allMoments false actions
    let cache := (start.behind run).cache
    .resetStatistics ∉ CacheAction.allSingles actions ∧
      .setCountsStatistics false ∉ CacheAction.allSingles actions ∧
      cache.IsAccountedFor run ∧
      cache.statistics = ⟨4, 7, 3, 1, 5⟩ ∧ run.countP CacheMoment.findsExpired = 2 ∧
      (run.map CacheMoment.displaced).sum = 1 ∧ (run.map CacheMoment.invalidated).sum = 1 ∧
      run.countP CacheMoment.storesNew = 5 ∧ cache.entries.map CacheEntry.hits = [1] := by
  intro a b actions start run cache
  have unreset : .resetStatistics ∉ CacheAction.allSingles actions := by
    simp [actions, CacheAction.allSingles, CacheAction.singles]
  have counted : .setCountsStatistics false ∉ CacheAction.allSingles actions := by
    simp [actions, CacheAction.allSingles, CacheAction.singles]
  have balanced := (accounts_balance 2 (some (.whole 3)) ⟨1000, 1, 1⟩ false actions unreset
    counted).1 run List.prefix_rfl
  exact ⟨unreset, counted, balanced, by decide +kernel, by decide +kernel, by decide +kernel,
    by decide +kernel, by decide +kernel, by decide +kernel⟩

end CacheState

end UriTemplate
