import UriTemplate.Proofs.Cache.Keys
import UriTemplate.Proofs.Cache.Options
import Mathlib.Data.Finset.Card
import Mathlib.Data.List.Dedup

namespace UriTemplate

/-- Of an item that comes again only the last occurrence stays. -/
theorem dedup_concat {α : Type} [DecidableEq α] (items : List α) (item : α) :
    (items ++ [item]).dedup = items.dedup.filter (· ≠ item) ++ [item] := by
  induction items with
  | nil => rfl
  | cons first rest inductionHypothesis =>
      rw [List.cons_append]
      by_cases isLater : first ∈ rest
      · rw [List.dedup_cons_of_mem (List.mem_append_left _ isLater), inductionHypothesis,
          List.dedup_cons_of_mem isLater]
      · rw [List.dedup_cons_of_notMem isLater]
        by_cases isItem : first = item
        · rw [List.dedup_cons_of_mem (List.mem_append_right _ (List.mem_singleton.mpr isItem)),
            inductionHypothesis, List.filter_cons_of_neg (by simpa using isItem)]
        · rw [List.filter_cons_of_pos (by simpa using isItem), List.dedup_cons_of_notMem,
            inductionHypothesis, List.cons_append]
          simp only [List.mem_append, List.mem_singleton, isLater, isItem, or_self,
            not_false_eq_true]

/-- The keys that were stored or found, one after the other. -/
def usedKeys (past : List CacheMoment) : List Text :=
  past.filterMap fun moment => moment.effect.usedKey?

/-- Each key stands where it was used last. -/
def lastUses (past : List CacheMoment) : List Text :=
  (usedKeys past).dedup

/-- The keys are distinct, at most as many as the limit, and stand in the order of their last
uses. -/
structure TemplateCache.IsInUseOrder (cache : TemplateCache) (limit : Nat)
    (past : List CacheMoment) : Prop where
  nodup : cache.keys.Nodup
  length_le : cache.keys.length ≤ limit
  sublist : cache.keys.Sublist (lastUses past)

namespace CacheState

variable {state : CacheState}

/-- A further use of a key replaces its earlier ones. -/
theorem lastUses_concat (past : List CacheMoment) (moment : CacheMoment) :
    lastUses (past ++ [moment]) =
      match moment.effect.usedKey? with
      | none => lastUses past
      | some key => (lastUses past).filter (· ≠ key) ++ [key] := by
  rw [lastUses, usedKeys, List.filterMap_append]
  cases used : moment.effect.usedKey? with
  | none => simp [used, lastUses, usedKeys]
  | some key => simp [used, lastUses, usedKeys, dedup_concat]

/-- A use moves its key to the end of an order in which the keys stood. Nothing else is moved. -/
theorem keysAfter_sublist {cache : TemplateCache} {order : List Text}
    (ordered : cache.keys.Sublist order) (effect : CacheEffect) :
    (effect.keysAfter cache).Sublist
      (match effect.usedKey? with
      | none => order
      | some key => order.filter (· ≠ key) ++ [key]) := by
  have othersOrdered (key : Text) : (cache.otherKeys key).Sublist order :=
    List.filter_sublist.trans ordered
  cases effect with
  | nothing => exact ordered
  | used key => exact (ordered.filter _).append_right _
  | missed key => exact othersOrdered key
  | stored key parsed parseTime =>
      exact ((List.drop_sublist _ _).trans (ordered.filter _)).append_right _
  | dropped key => exact othersOrdered key
  | cleared => exact List.nil_sublist _

/-- Only the limits that were in force while something was done matter. -/
theorem LeadsTo.isInUseOrder {start : CacheState} {past : List CacheMoment}
    (leads : start.LeadsTo past state) (isEmpty : start.cache.entries = []) {limit : Nat}
    (limited : ∀ moment ∈ past, moment.state.cache.maxSize.toNat ≤ limit) :
    state.cache.IsInUseOrder limit past := by
  induction leads with
  | nothing =>
      have noKeys : start.cache.keys = [] := by rw [TemplateCache.keys, isEmpty, List.map_nil]
      constructor <;> rw [noKeys]
      · exact List.nodup_nil
      · exact Nat.zero_le _
      · exact List.nil_sublist _
  | @acting past state action leads single inductionHypothesis =>
      obtain ⟨nodup, fits, ordered⟩ := inductionHypothesis fun moment isEarlier =>
        limited moment (List.mem_append_left _ isEarlier)
      have limitedNow : state.cache.maxSize.toNat ≤ limit :=
        limited ⟨state, action⟩ (List.mem_append_right _ (List.mem_singleton.mpr rfl))
      constructor <;> rw [keys_perform single]
      · exact nodup_keysAfter nodup _
      · exact length_keysAfter_le (state.allows_effect action) fits limitedNow
      · rw [lastUses_concat]
        exact keysAfter_sublist ordered _

end CacheState

/-- The key is there, and of the keys that would stay longer all are among some others. -/
def TemplateCache.Retains (cache : TemplateCache) (key : Text) (others : Finset Text) : Prop :=
  ∃ front back, cache.keys = front ++ key :: back ∧ ∀ other ∈ back, other ∈ others

namespace CacheState

variable {state : CacheState} {action : CacheAction} {key : Text} {others : Finset Text}
  {limit : Int}

/-- Fewer other keys than the limit never fill the cache behind the key. -/
theorem excess_le_of_few {front back : List Text} {new : Text}
    (nodup : (front ++ key :: back ++ [new]).Nodup) (few : ((others.erase key).card : Int) < limit)
    (isOther : new ∈ others) (areOthers : ∀ other ∈ back, other ∈ others) :
    TemplateCache.excess limit (front ++ key :: back).length ≤ front.length := by
  rw [List.append_assoc, List.cons_append] at nodup
  obtain ⟨isFresh, distinct⟩ := List.nodup_cons.mp (List.nodup_append.mp nodup).2.1
  have counted : (back ++ [new]).toFinset ⊆ others.erase key := by
    intro other member
    rw [List.mem_toFinset] at member
    refine Finset.mem_erase.mpr ⟨fun same => isFresh (same ▸ member), ?_⟩
    rcases List.mem_append.mp member with isBehind | isNew
    · exact areOthers other isBehind
    · exact List.mem_singleton.mp isNew ▸ isOther
  have fewer := Finset.card_le_card counted
  rw [List.toFinset_card_of_nodup distinct, List.length_append, List.length_singleton] at fewer
  rw [TemplateCache.excess, List.length_append, List.length_cons]
  omega

/-- A key that was just used is kept. -/
theorem retains_of_usedKey? (single : action.IsSingle)
    (isUse : (state.effect action).usedKey? = some key) (others : Finset Text) :
    (state.perform action).state.cache.Retains key others := by
  obtain ⟨front, keys⟩ := CacheEffect.keysAfter_of_usedKey? isUse state.cache
  exact ⟨front, [], (keys_perform single).trans keys,
    fun _ member => absurd member List.not_mem_nil⟩

/-- A key is kept as long as fewer others are used than the limit has room for. -/
theorem retains_perform (single : action.IsSingle) (nodup : state.cache.keys.Nodup)
    (limited : state.cache.maxSize = limit ∨ state.cache.maxSize = 0)
    (noTtl : state.cache.ttl = none)
    (kept : action ≠ .invalidate (some key) ∧ action ≠ .invalidate none)
    (few : ((others.erase key).card : Int) < limit)
    (usesOther : ∀ other, (state.effect action).usedKey? = some other → other ∈ others)
    (retains : state.cache.Retains key others) :
    (state.perform action).state.cache.Retains key others := by
  by_cases isUse : (state.effect action).usedKey? = some key
  · exact retains_of_usedKey? single isUse others
  obtain ⟨front, back, keys, areOthers⟩ := retains
  have split {other : Text} (different : key ≠ other) : state.cache.otherKeys other =
      front.filter (· ≠ other) ++ key :: back.filter (· ≠ other) := by
    rw [TemplateCache.otherKeys, keys, List.filter_append, List.filter_cons_of_pos]
    exact decide_eq_true different
  have stillOthers (other : Text) : ∀ later ∈ back.filter (· ≠ other), later ∈ others :=
    fun later member => areOthers later (List.mem_of_mem_filter member)
  have withUsed {other : Text} (isOther : other ∈ others) :
      ∀ later ∈ back.filter (· ≠ other) ++ [other], later ∈ others := by
    intro later member
    rcases List.mem_append.mp member with isOld | isUsed
    · exact stillOthers other later isOld
    · exact List.mem_singleton.mp isUsed ▸ isOther
  have allowed := state.allows_effect action
  rw [TemplateCache.Retains, keys_perform single]
  generalize state.effect action = effect at allowed isUse usesOther
  cases effect with
  | nothing => exact ⟨front, back, keys, areOthers⟩
  | used other =>
      have different : key ≠ other := fun same => isUse (congrArg some same.symm)
      rw [CacheEffect.keysAfter, split different, List.append_assoc, List.cons_append]
      exact ⟨_, _, rfl, withUsed (usesOther other rfl)⟩
  | missed other =>
      have different : key ≠ other := by
        rintro rfl
        have present : key ∈ state.cache.keys := by rw [keys]; exact List.mem_append_cons_self
        obtain ⟨entry, found⟩ := exists_entry?_of_mem_keys present
        have expired := allowed.2 entry found
        rw [noTtl] at expired
        cases expired
      exact ⟨_, _, split different, stillOthers other⟩
  | stored new parsed parseTime =>
      have different : key ≠ new := fun same => isUse (congrArg some same.symm)
      have positive : 0 < state.cache.maxSize := allowed.1
      have isLimit : state.cache.maxSize = limit := limited.resolve_right (by omega)
      have distinct : (state.cache.otherKeys new ++ [new]).Nodup :=
        TemplateCache.nodup_otherKeys_concat nodup
      rw [split different] at distinct
      -- The others that were used fit in behind the key, so what is dropped stands before it.
      have hasRoom := excess_le_of_few distinct few (usesOther new rfl) (stillOthers new)
      rw [CacheEffect.keysAfter, isLimit, split different, List.drop_append_of_le_length hasRoom,
        List.append_assoc, List.cons_append]
      exact ⟨_, _, rfl, withUsed (usesOther new rfl)⟩
  | dropped other =>
      have different : key ≠ other := fun same => kept.1 (same ▸ allowed)
      exact ⟨_, _, split different, stillOthers other⟩
  | cleared => exact absurd allowed kept.2

/-- A key stays while fewer other keys than the limit are used and nothing is aimed at it. -/
theorem LeadsTo.retains {start : CacheState} {past : List CacheMoment}
    (leads : start.LeadsTo past state) (nodup : start.cache.keys.Nodup)
    (retained : start.cache.Retains key others)
    (few : ((others.erase key).card : Int) < limit)
    (limited : ∀ moment ∈ past,
      moment.state.cache.maxSize = limit ∨ moment.state.cache.maxSize = 0)
    (noTtl : ∀ moment ∈ past, moment.state.cache.ttl = none)
    (kept : ∀ moment ∈ past,
      moment.action ≠ .invalidate (some key) ∧ moment.action ≠ .invalidate none)
    (usesOthers : ∀ other ∈ usedKeys past, other ∈ others) :
    state.cache.keys.Nodup ∧ state.cache.Retains key others := by
  induction leads with
  | nothing => exact ⟨nodup, retained⟩
  | @acting past state action leads single inductionHypothesis =>
      have isEarlier {moment : CacheMoment} (member : moment ∈ past) :
          moment ∈ past ++ [⟨state, action⟩] := List.mem_append_left _ member
      have isNow : (⟨state, action⟩ : CacheMoment) ∈ past ++ [⟨state, action⟩] :=
        List.mem_append_right _ (List.mem_singleton.mpr rfl)
      have usesNow : ∀ other, (state.effect action).usedKey? = some other → other ∈ others :=
        fun other isUsed => usesOthers other (List.mem_filterMap.mpr ⟨_, isNow, isUsed⟩)
      obtain ⟨distinct, there⟩ := inductionHypothesis
        (fun moment member => limited moment (isEarlier member))
        (fun moment member => noTtl moment (isEarlier member))
        (fun moment member => kept moment (isEarlier member))
        (fun other isUsed => by
          obtain ⟨moment, member, used⟩ := List.mem_filterMap.mp isUsed
          exact usesOthers other (List.mem_filterMap.mpr ⟨moment, isEarlier member, used⟩))
      refine ⟨?_, retains_perform single distinct (limited _ isNow) (noTtl _ isNow) (kept _ isNow)
        few usesNow there⟩
      rw [keys_perform single]
      exact nodup_keysAfter distinct _

/-- In a run in which nobody sets the limit, the keys are distinct, at most as many as the limit,
and in the order of their last uses. A key is lost only to an invalidation, to a lookup that finds
it expired, or, as the first of a full cache, to a key that was not there. Without a time to live
a used key that is not invalidated stays until as many other keys as the limit have been used. -/
theorem keys_in_use_order (limit : Int) (ttl : Option Duration) (countsStatistics : Bool)
    (supply : Supply) (propagates : Bool) (actions : List CacheAction)
    (unset : ∀ maxSize, .setMaxSize maxSize ∉ CacheAction.allSingles actions) :
    let start : CacheState := ⟨.empty limit ttl countsStatistics, supply⟩
    let run := start.allMoments propagates actions
    (∀ past, past <+: run → (start.behind past).cache.IsInUseOrder limit.toNat past) ∧
    (∀ moment ∈ run, ∀ key ∈ moment.state.cache.keys, key ∉ moment.after.cache.keys →
      moment.action = .invalidate (some key) ∨ moment.action = .invalidate none ∨
      (moment.action.LooksUp key ∧ ∃ entry, moment.state.cache.entry? key = some entry ∧
        entry.isExpired moment.state.cache.ttl moment.state.supply.now = true) ∨
      ∃ new parsed rest, moment.Stores new parsed ∧
        new ∉ moment.state.cache.keys ∧ (moment.state.cache.keys.length : Int) = limit ∧
        moment.state.cache.keys = key :: rest ∧ moment.after.cache.keys = rest ++ [new]) ∧
    (ttl = none → (∀ ttl, .setTtl ttl ∉ CacheAction.allSingles actions) →
      ∀ earlier use since key, earlier ++ use :: since <+: run →
      use.effect.usedKey? = some key →
      (∀ moment ∈ since,
        moment.action ≠ .invalidate (some key) ∧ moment.action ≠ .invalidate none) →
      (((usedKeys since).toFinset.erase key).card : Int) < limit →
        key ∈ (start.behind (earlier ++ use :: since)).cache.keys) := by
  intro start run
  have limits := (maxSize_moments.2 actions start propagates unset).2
  have limited : ∀ moment ∈ run, moment.state.cache.maxSize.toNat ≤ limit.toNat := by
    intro moment member
    rcases limits moment member with same | isZero
    · rw [same]
      exact le_rfl
    · rw [isZero]
      exact Nat.zero_le _
  have inOrder : ∀ past state, start.LeadsTo past state → past <+: run →
      state.cache.IsInUseOrder limit.toNat past := fun past state leads isBefore =>
    leads.isInUseOrder rfl fun moment member => limited moment (isBefore.subset member)
  refine ⟨fun past isBefore => inOrder past _ (leadsTo_behind isBefore) isBefore, ?_, ?_⟩
  · intro moment member key present lost
    obtain ⟨earlier, isBefore, leads, single⟩ := leadsTo_of_mem member
    rw [CacheMoment.after, keys_perform single] at lost ⊢
    exact lost_cases (moment.state.allows_effect moment.action) (limits moment member)
      (inOrder earlier _ leads isBefore).length_le present lost
  · rintro rfl unsetTtl earlier use since key isBefore isUse kept few
    have noTtl := ttl_moments unsetTtl start propagates
    have isSplit : earlier ++ use :: since = earlier ++ [use] ++ since := by
      rw [List.append_assoc, List.singleton_append]
    have isRun {moment : CacheMoment} (member : moment ∈ since) : moment ∈ run :=
      isBefore.subset (List.mem_append_right _ (List.mem_cons_of_mem _ member))
    have leads := leadsTo_behind isBefore
    rw [isSplit] at leads ⊢
    obtain ⟨untilUse, sinceUse⟩ := leads.split
    obtain ⟨leadsEarlier, single, _⟩ := untilUse.of_concat
    have distinct := (inOrder earlier _ leadsEarlier
      ((List.prefix_append _ _).trans isBefore)).nodup
    rw [behind_concat] at sinceUse
    have usedDistinct : use.after.cache.keys.Nodup := by
      rw [CacheMoment.after, keys_perform single]
      exact nodup_keysAfter distinct _
    have used : use.after.cache.Retains key (usedKeys since).toFinset :=
      retains_of_usedKey? single isUse _
    obtain ⟨_, front, back, keys, _⟩ := sinceUse.retains usedDistinct used few
      (fun moment member => limits moment (isRun member))
      (fun moment member => noTtl moment (isRun member)) kept
      (fun other isUsed => List.mem_toFinset.mpr isUsed)
    rw [keys]
    exact List.mem_append_cons_self

theorem keys_in_use_order_pair :
    let a : Text := ['a']
    let b : Text := ['b']
    let c : Text := ['c']
    let parsed : ParsedTemplate := ⟨1, ⟨a, []⟩⟩
    let actions : List CacheAction :=
      [.putParsed a parsed 0, .putParsed b parsed 0, .get a, .putParsed c parsed 0]
    let start : CacheState := ⟨.empty 2 none true, ⟨1000, 1, 1⟩⟩
    let run := start.allMoments false actions
    (∀ maxSize, .setMaxSize maxSize ∉ CacheAction.allSingles actions) ∧
      (start.behind run).cache.IsInUseOrder 2 run ∧ lastUses run = [b, a, c] ∧
      a ∈ (start.behind run).cache.keys := by
  intro a b c parsed actions start run
  have unset : ∀ maxSize, .setMaxSize maxSize ∉ CacheAction.allSingles actions := by
    intro maxSize member
    simp [actions, CacheAction.allSingles, CacheAction.singles] at member
  have unsetTtl : ∀ ttl, .setTtl ttl ∉ CacheAction.allSingles actions := by
    intro ttl member
    simp [actions, CacheAction.allSingles, CacheAction.singles] at member
  obtain ⟨inOrder, _, retained⟩ :=
    keys_in_use_order 2 none true ⟨1000, 1, 1⟩ false actions unset
  let earlier := start.allMoments false (actions.take 2)
  let use : CacheMoment := ⟨start.behind earlier, .get a⟩
  let later : CacheMoment := ⟨use.after, .putParsed c parsed 0⟩
  have isRun : earlier ++ use :: [later] = run := rfl
  have used : use.effect.usedKey? = some a := by decide +kernel
  have kept : ∀ moment ∈ [later],
      moment.action ≠ .invalidate (some a) ∧ moment.action ≠ .invalidate none := by
    intro moment member
    rw [List.mem_singleton.mp member]
    constructor
    · intro same
      cases same
    · intro same
      cases same
  have few : ((usedKeys [later]).toFinset.erase a).card ≤ 1 :=
    Finset.card_erase_le.trans ((List.toFinset_card_le _).trans (List.length_filterMap_le _ _))
  have there := retained rfl unsetTtl earlier use [later] a (isRun ▸ List.prefix_rfl) used kept
    (by omega)
  rw [isRun] at there
  exact ⟨unset, inOrder run List.prefix_rfl, by decide +kernel, there⟩

end CacheState

end UriTemplate
