import UriTemplate.Proofs.Cache.Keys
import UriTemplate.Proofs.Cache.Statistics
import UriTemplate.Proofs.Cache.Transparency
import Mathlib.Data.Bool.Basic

namespace UriTemplate

/-- The keys behind a use: the key that is used comes last, and the first ones make room for it. -/
def keysUsing (limit : Int) (keys : List Text) (key : Text) : List Text :=
  (keys.filter (· ≠ key)).drop (TemplateCache.excess limit (keys.filter (· ≠ key)).length) ++ [key]

/-- What an action leaves of the keys if it uses none of them. -/
def CacheAction.leaves (keys : List Text) : CacheAction → List Text
  | .invalidate (some key) => keys.filter (· ≠ key)
  | .invalidate none => []
  | _ => keys

/-- The keys under a limit cover those under a smaller limit: they hold them in the same order,
and at least as much room is left beside them. -/
structure Covers (limit smaller : Int) (keys fewer : List Text) : Prop where
  limits : smaller ≤ limit
  nodup : keys.Nodup
  sublist : fewer.Sublist keys
  fits : keys.length ≤ limit.toNat
  fewer_fits : fewer.length ≤ smaller.toNat
  room : keys.length + smaller.toNat ≤ fewer.length + limit.toNat

/-- Using a key keeps as many others as there is room for. -/
theorem length_keysUsing {limit : Int} (positive : 0 < limit) (keys : List Text) (key : Text) :
    (keysUsing limit keys key).length =
      min (keys.filter (· ≠ key)).length (limit.toNat - 1) + 1 := by
  rw [keysUsing, List.length_append, List.length_drop, List.length_singleton,
    TemplateCache.excess]
  omega

/-- A key that is there already needs no room. -/
theorem keysUsing_of_mem {limit : Int} {keys : List Text} {key : Text}
    (fits : keys.length ≤ limit.toNat) (present : key ∈ keys) :
    keysUsing limit keys key = keys.filter (· ≠ key) ++ [key] := by
  have fewer : (keys.filter (· ≠ key)).length < keys.length :=
    List.length_filter_lt_length_iff_exists.mpr ⟨key, present, by simp⟩
  have noExcess : TemplateCache.excess limit (keys.filter (· ≠ key)).length = 0 := by
    rw [TemplateCache.excess]
    omega
  rw [keysUsing, noExcess, List.drop_zero]

theorem nodup_keysUsing {keys : List Text} (nodup : keys.Nodup) (limit : Int) (key : Text) :
    (keysUsing limit keys key).Nodup :=
  (nodup_filter_ne_concat nodup key).sublist ((List.drop_sublist _ _).append_right [key])

namespace Covers

variable {limit smaller : Int} {keys fewer : List Text}

/-- The larger of two empty caches covers the smaller. -/
theorem empty (limits : smaller ≤ limit) : Covers limit smaller [] [] where
  limits := limits
  nodup := List.nodup_nil
  sublist := List.Sublist.refl _
  fits := Nat.zero_le _
  fewer_fits := Nat.zero_le _
  room := by
    have := Int.toNat_le_toNat limits
    simpa using this

/-- A cache that stores nothing is empty. -/
theorem eq_nil (covers : Covers limit smaller keys fewer) (storesNothing : smaller ≤ 0) :
    fewer = [] := by
  have := covers.fewer_fits
  exact List.eq_nil_of_length_eq_zero (by omega)

/-- A key can be taken from both caches. -/
theorem remove (covers : Covers limit smaller keys fewer) (key : Text) :
    Covers limit smaller (keys.filter (· ≠ key)) (fewer.filter (· ≠ key)) where
  limits := covers.limits
  nodup := covers.nodup.filter _
  sublist := covers.sublist.filter _
  fits := Nat.le_trans (List.length_filter_le _ _) covers.fits
  fewer_fits := Nat.le_trans (List.length_filter_le _ _) covers.fewer_fits
  room := by
    have := covers.room
    have larger := length_filter_ne covers.nodup key
    have fewerLeft := length_filter_ne (covers.nodup.sublist covers.sublist) key
    by_cases present : key ∈ fewer
    · rw [if_pos (covers.sublist.subset present)] at larger
      rw [if_pos present] at fewerLeft
      omega
    · rw [if_neg present] at fewerLeft
      omega

/-- A key is stored in both caches, or it is found in both. -/
theorem use (covers : Covers limit smaller keys fewer) (positive : 0 < smaller) (key : Text) :
    Covers limit smaller (keysUsing limit keys key) (keysUsing smaller fewer key) := by
  have limits := covers.limits
  have room := (covers.remove key).room
  have larger := length_keysUsing (Int.lt_of_lt_of_le positive limits) keys key
  have fewerUsed := length_keysUsing positive fewer key
  have dropsFewer : TemplateCache.excess limit (keys.filter (· ≠ key)).length ≤
      TemplateCache.excess smaller (fewer.filter (· ≠ key)).length := by
    rw [TemplateCache.excess, TemplateCache.excess]
    omega
  refine ⟨limits, nodup_keysUsing covers.nodup limit key, ?_, ?_, ?_, ?_⟩
  · have inOrder := (covers.remove key).sublist.drop
      (TemplateCache.excess limit (keys.filter (· ≠ key)).length)
    exact ((List.drop_sublist_drop_left _ dropsFewer).trans inOrder).append_right [key]
  · omega
  · omega
  · omega

/-- A key is used in the larger cache alone: it is found only there, or the smaller cache stores
nothing. -/
theorem use_larger (covers : Covers limit smaller keys fewer) {key : Text} (absent : key ∉ fewer)
    (onlyLarger : key ∈ keys ∨ 0 < limit ∧ smaller ≤ 0) :
    Covers limit smaller (keysUsing limit keys key) fewer := by
  have limits := covers.limits
  have nodup := nodup_keysUsing covers.nodup limit key
  rcases onlyLarger with present | ⟨positive, storesNothing⟩
  · have length := length_filter_ne covers.nodup key
    rw [if_pos present] at length
    rw [keysUsing_of_mem covers.fits present] at nodup ⊢
    have sameLength : (keys.filter (· ≠ key) ++ [key]).length = keys.length := by
      rw [List.length_append, List.length_singleton, length]
    refine ⟨limits, nodup, ?_, ?_, covers.fewer_fits, ?_⟩
    · have inOrder := (covers.remove key).sublist
      rw [filter_ne_of_absent absent] at inOrder
      exact inOrder.trans (List.sublist_append_left _ _)
    · rw [sameLength]
      exact covers.fits
    · rw [sameLength]
      exact covers.room
  · have length := length_keysUsing positive keys key
    rw [covers.eq_nil storesNothing]
    refine ⟨limits, nodup, List.nil_sublist _, ?_, Nat.zero_le _, ?_⟩
    · omega
    · rw [List.length_nil]
      omega

/-- An invalidation takes the same keys from both caches. -/
theorem leaves (covers : Covers limit smaller keys fewer) (action : CacheAction) :
    Covers limit smaller (action.leaves keys) (action.leaves fewer) := by
  cases action with
  | invalidate key =>
      cases key with
      | some key => exact covers.remove key
      | none => exact .empty covers.limits
  | _ => exact covers

end Covers

namespace CacheState

variable {state smaller : CacheState} {action : CacheAction} {key : Text}

/-- Without a time to live every key that is there is a hit. -/
theorem lookup_isSome_iff (noTtl : state.cache.ttl = none) :
    (state.lookup key).isSome = true ↔ key ∈ state.cache.keys := by
  constructor
  · intro isHit
    rcases state.lookup_cases key with ⟨missed, _⟩ | ⟨entry, _, found, _⟩
    · rw [missed] at isHit
      cases isHit
    · exact TemplateCache.mem_keys_of_entry? found
  · intro present
    obtain ⟨entry, found⟩ := exists_entry?_of_mem_keys present
    have live : entry.isExpired state.cache.ttl state.supply.now = false := by
      rw [noTtl]
      rfl
    rw [lookup, TemplateCache.get_of_live found live]
    rfl

/-- Within the limit, a use puts the key last and the first of the others make room. -/
theorem keysAfter_of_used {effect : CacheEffect} (allowed : state.Allows action effect)
    (fits : state.cache.keys.length ≤ state.cache.maxSize.toNat)
    (isUse : effect.usedKey? = some key) :
    effect.keysAfter state.cache = keysUsing state.cache.maxSize state.cache.keys key ∧
      0 < state.cache.maxSize := by
  cases effect with
  | used other =>
      obtain rfl := Option.some.inj isUse
      obtain ⟨_, entry, found, _⟩ := allowed
      have present : other ∈ state.cache.keys := TemplateCache.mem_keys_of_entry? found
      have := List.length_pos_of_mem present
      exact ⟨(keysUsing_of_mem fits present).symm, by omega⟩
  | stored other parsed parseTime =>
      obtain rfl := Option.some.inj isUse
      exact ⟨rfl, allowed.1⟩
  | _ => cases isUse

/-- Without a time to live a lookup that misses finds nothing to drop. -/
theorem keysAfter_of_unused (noTtl : state.cache.ttl = none)
    (isNoUse : (state.effect action).usedKey? = none) :
    (state.effect action).keysAfter state.cache = action.leaves state.cache.keys := by
  by_cases invalidates : ∃ key, action = .invalidate key
  · obtain ⟨key, rfl⟩ := invalidates
    cases key <;> rfl
  · have leavesAll : action.leaves state.cache.keys = state.cache.keys := by
      cases action with
      | invalidate key => exact absurd ⟨key, rfl⟩ invalidates
      | _ => rfl
    rw [leavesAll]
    have allowed := state.allows_effect action
    generalize state.effect action = effect at allowed isNoUse
    cases effect with
    | nothing => rfl
    | used => cases isNoUse
    | missed key =>
        refine TemplateCache.otherKeys_of_absent fun present => ?_
        obtain ⟨entry, found⟩ := exists_entry?_of_mem_keys present
        have expired := allowed.2 entry found
        rw [noTtl] at expired
        cases expired
    | stored => cases isNoUse
    | dropped key => exact absurd ⟨some key, allowed⟩ invalidates
    | cleared => exact absurd ⟨none, allowed⟩ invalidates

/-- A use invalidates nothing. -/
theorem leaves_of_used (isUse : (state.effect action).usedKey? = some key) (keys : List Text) :
    action.leaves keys = keys := by
  cases action with
  | invalidate other => cases other <;> cases isUse
  | _ => rfl

/-- Whether a value is read as a template does not depend on what the cache is given. -/
theorem exists_parse_eq_ok {supply : Supply} {value : Value} {parsed : ParsedTemplate}
    (read : (supply.parse value).1 = .ok parsed) (other : Supply) :
    ∃ again, (other.parse value).1 = .ok again := by
  have same := (supply.parse_template value).trans (other.parse_template value).symm
  rw [read] at same
  obtain ⟨again, readAgain, _⟩ := exists_of_map_eq_ok same.symm
  exact ⟨again, readAgain⟩

/-- What is stored under one positive limit is stored or found under every other one. -/
theorem usedKey?_of_stores {other : CacheState} {parsed : ParsedTemplate}
    (stores : state.Stores action key parsed) (positive : 0 < other.cache.maxSize) :
    (other.effect action).usedKey? = some key := by
  rw [usedKey?_effect_iff]
  rcases stores.2 with ⟨rfl, _, read⟩ | ⟨template, parseTime, rfl, read⟩ | ⟨parseTime, rfl⟩
  · obtain ⟨again, readAgain⟩ := exists_parse_eq_ok read other.supply
    cases answer : other.lookup key with
    | some found => exact .inl ⟨.inr rfl, rfl⟩
    | none => exact .inr ⟨again, positive, .inl ⟨rfl, answer, readAgain⟩⟩
  · obtain ⟨again, readAgain⟩ := exists_parse_eq_ok read other.supply
    exact .inr ⟨again, positive, .inr (.inl ⟨template, parseTime, rfl, readAgain⟩)⟩
  · exact .inr ⟨parsed, positive, .inr (.inr ⟨parseTime, rfl⟩)⟩

end CacheState

/-- Two states in which statistics are counted and no entry grows too old. The keys of the first
cache cover those of the second, and it has had at least as many hits. -/
structure CacheState.Covers (state smaller : CacheState) : Prop where
  keys : UriTemplate.Covers state.cache.maxSize smaller.cache.maxSize state.cache.keys
    smaller.cache.keys
  ttl : state.cache.ttl = none
  smaller_ttl : smaller.cache.ttl = none
  counts : state.cache.countsStatistics = true
  smaller_counts : smaller.cache.countsStatistics = true
  hits : smaller.cache.statistics.hits ≤ state.cache.statistics.hits

namespace CacheState.Covers

variable {state smaller : CacheState} {action : CacheAction} {key : Text}

/-- What the smaller cache answers the larger one answers too. -/
theorem lookup (covers : state.Covers smaller)
    (isHit : (smaller.lookup key).isSome = true) : (state.lookup key).isSome = true := by
  rw [lookup_isSome_iff covers.ttl]
  exact covers.keys.sublist.subset ((lookup_isSome_iff covers.smaller_ttl).mp isHit)

/-- What is stored in the smaller cache is stored in the larger one too, or it is found there. -/
theorem usedKey? (covers : state.Covers smaller)
    (isUse : (smaller.effect action).usedKey? = some key) :
    (state.effect action).usedKey? = some key := by
  rcases usedKey?_effect_iff.mp isUse with ⟨looksUp, isHit⟩ | ⟨parsed, stores⟩
  · exact usedKey?_effect_iff.mpr (.inl ⟨looksUp, covers.lookup isHit⟩)
  · exact usedKey?_of_stores stores (Int.lt_of_lt_of_le stores.1 covers.keys.limits)

/-- What only the larger cache uses is found there alone, or the smaller cache stores nothing. -/
theorem only_larger (covers : state.Covers smaller)
    (isUse : (state.effect action).usedKey? = some key)
    (isNoUse : (smaller.effect action).usedKey? = none) :
    key ∉ smaller.cache.keys ∧
      (key ∈ state.cache.keys ∨ 0 < state.cache.maxSize ∧ smaller.cache.maxSize ≤ 0) := by
  have unused : (smaller.effect action).usedKey? ≠ some key := by
    rw [isNoUse]
    exact (Option.some_ne_none key).symm
  rcases usedKey?_effect_iff.mp isUse with ⟨looksUp, isHit⟩ | ⟨parsed, stores⟩
  · refine ⟨fun present => unused ?_, .inl ((lookup_isSome_iff covers.ttl).mp isHit)⟩
    have foundThere := (lookup_isSome_iff covers.smaller_ttl).mpr present
    exact usedKey?_effect_iff.mpr (.inl ⟨looksUp, foundThere⟩)
  · have storesNothing : smaller.cache.maxSize ≤ 0 := by
      by_contra isPositive
      exact unused (usedKey?_of_stores stores (Int.not_le.mp isPositive))
    rw [covers.keys.eq_nil storesNothing]
    exact ⟨List.not_mem_nil, .inr ⟨stores.1, storesNothing⟩⟩

/-- The two caches use a key together, the larger one uses it alone, or none is used. -/
theorem keysAfter (covers : state.Covers smaller) (action : CacheAction) :
    UriTemplate.Covers state.cache.maxSize smaller.cache.maxSize
      ((state.effect action).keysAfter state.cache)
      ((smaller.effect action).keysAfter smaller.cache) := by
  cases inSmaller : (smaller.effect action).usedKey? with
  | some key =>
      obtain ⟨keys, _⟩ := keysAfter_of_used (state.allows_effect action) covers.keys.fits
        (covers.usedKey? inSmaller)
      obtain ⟨fewer, positive⟩ := keysAfter_of_used (smaller.allows_effect action)
        covers.keys.fewer_fits inSmaller
      rw [keys, fewer]
      exact covers.keys.use positive key
  | none =>
      rw [keysAfter_of_unused covers.smaller_ttl inSmaller]
      cases inLarger : (state.effect action).usedKey? with
      | some key =>
          obtain ⟨absent, onlyLarger⟩ := covers.only_larger inLarger inSmaller
          obtain ⟨keys, _⟩ := keysAfter_of_used (state.allows_effect action) covers.keys.fits
            inLarger
          rw [keys, leaves_of_used inLarger]
          exact covers.keys.use_larger absent onlyLarger
      | none =>
          rw [keysAfter_of_unused covers.ttl inLarger]
          exact covers.keys.leaves action

/-- Where the smaller cache hits the larger one hits too. -/
theorem isHit (covers : state.Covers smaller) (action : CacheAction)
    (isHit : (⟨smaller, action⟩ : CacheMoment).isHit = true) :
    (⟨state, action⟩ : CacheMoment).isHit = true := by
  rw [CacheMoment.isHit, Option.any_eq_true] at isHit ⊢
  obtain ⟨key, looksUp, found⟩ := isHit
  exact ⟨key, looksUp, covers.lookup found⟩

/-- The smaller cache never gets ahead in hits. -/
theorem hits_perform (covers : state.Covers smaller) (single : action.IsSingle) :
    (smaller.perform action).state.cache.statistics.hits ≤
      (state.perform action).state.cache.statistics.hits := by
  by_cases resets : action = .resetStatistics
  · subst resets
    exact Nat.le_refl 0
  · have grows := (state.grows_perform single covers.counts resets).hits
    have smallerGrows := (smaller.grows_perform single covers.smaller_counts resets).hits
    have fewerHits := Bool.toNat_le_toNat (Bool.le_iff_imp.mpr (covers.isHit action))
    have := covers.hits
    simp only [CacheMoment.after] at grows smallerGrows
    omega

/-- An action keeps the smaller cache within the larger one. -/
theorem perform (covers : state.Covers smaller) (single : action.IsSingle)
    (unset : ¬action.SetsOption) :
    (state.perform action).state.Covers (smaller.perform action).state := by
  have options : (state.perform action).state.cache.options = state.cache.options :=
    options_perform single unset
  have smallerOptions : (smaller.perform action).state.cache.options = smaller.cache.options :=
    options_perform single unset
  simp only [TemplateCache.options, Prod.mk.injEq] at options smallerOptions
  obtain ⟨maxSize, ttl, counts⟩ := options
  obtain ⟨smallerMaxSize, smallerTtl, smallerCounts⟩ := smallerOptions
  constructor
  · rw [maxSize, smallerMaxSize, keys_perform single, keys_perform single]
    exact covers.keysAfter action
  · exact ttl.trans covers.ttl
  · exact smallerTtl.trans covers.smaller_ttl
  · exact counts.trans covers.counts
  · exact smallerCounts.trans covers.smaller_counts
  · exact covers.hits_perform single

/-- The two runs go on side by side, whatever fails in one of them alone. -/
theorem performAll (covers : state.Covers smaller) {actions : List CacheAction}
    (plain : ∀ action ∈ actions, action.IsSingle ∧ ¬action.SetsOption) :
    (state.performAll false actions).state.Covers (smaller.performAll false actions).state := by
  induction actions generalizing state smaller with
  | nil => exact covers
  | cons action rest inductionHypothesis =>
      have ⟨⟨single, unset⟩, others⟩ := List.forall_mem_cons.mp plain
      rw [performAll_cons_state, performAll_cons_state, Bool.and_false, if_neg Bool.false_ne_true,
        Bool.and_false, if_neg Bool.false_ne_true]
      exact inductionHypothesis (covers.perform single unset) others

end CacheState.Covers

namespace CacheState

/-- A larger cache never does worse. Two caches of different limits that keep their entries for
ever are given the same actions. After every one of them the keys of the smaller cache are keys of
the larger one, in the same order, whatever is found in the smaller cache is found in the larger
one, and the larger one has had at least as many hits. -/
theorem larger_covers_smaller {smaller larger : Int} (limits : smaller ≤ larger) (supply : Supply)
    {actions : List CacheAction}
    (plain : ∀ action ∈ actions, action.IsSingle ∧ ¬action.SetsOption) :
    let run := fun limit past =>
      (CacheState.performAll ⟨.empty limit none true, supply⟩ false past).state
    ∀ past, past <+: actions →
      (run smaller past).cache.keys.Sublist (run larger past).cache.keys ∧
      (∀ key, ((run smaller past).lookup key).isSome = true →
        ((run larger past).lookup key).isSome = true) ∧
      (run smaller past).cache.statistics.hits ≤ (run larger past).cache.statistics.hits := by
  intro run past isBefore
  have start : CacheState.Covers ⟨.empty larger none true, supply⟩
      ⟨.empty smaller none true, supply⟩ :=
    ⟨.empty limits, rfl, rfl, rfl, rfl, Nat.le_refl 0⟩
  have covers := start.performAll fun action member => plain action (isBefore.subset member)
  exact ⟨covers.keys.sublist, fun key => covers.lookup, covers.hits⟩

theorem larger_covers_smaller_pair :
    let a : Text := "a"
    let b : Text := "b"
    let actions : List CacheAction := [.parse (.text a), .put b b 0, .get a, .advance 7,
      .parse (.text a), .invalidate (some b), .resetStatistics, .get a]
    let run := fun limit =>
      (CacheState.performAll ⟨.empty limit none true, ⟨1000, 1, 1⟩⟩ false (actions.take 5)).state
    (∀ action ∈ actions, action.IsSingle ∧ ¬action.SetsOption) ∧
      (run 1).cache.keys = [a] ∧ (run 2).cache.keys = [b, a] ∧
      (run 1).cache.keys.Sublist (run 2).cache.keys ∧
      (run 1).cache.statistics.hits = 0 ∧ (run 2).cache.statistics.hits = 2 ∧
      (run 1).cache.statistics.hits ≤ (run 2).cache.statistics.hits := by
  intro a b actions run
  have plain : ∀ action ∈ actions, action.IsSingle ∧ ¬action.SetsOption := by
    intro action member
    simp only [actions, List.mem_cons, List.not_mem_nil, or_false] at member
    rcases member with rfl | rfl | rfl | rfl | rfl | rfl | rfl | rfl <;> exact ⟨trivial, id⟩
  have limits : (1 : Int) ≤ 2 := by decide
  obtain ⟨sublist, _, hits⟩ := larger_covers_smaller limits ⟨1000, 1, 1⟩ plain (actions.take 5)
    (List.take_prefix 5 actions)
  exact ⟨plain, by decide +kernel, by decide +kernel, sublist, by decide +kernel,
    by decide +kernel, hits⟩

end CacheState

end UriTemplate
