import UriTemplate.Proofs.Cache.Options
import UriTemplate.Proofs.Syntax.ParserInvariant

namespace UriTemplate

/-- The statistics have grown by some hits, lookups, errors and evictions. -/
structure CacheStatistics.Grows (before after : CacheStatistics)
    (hits lookups errors evictions : Nat) : Prop where
  hits : after.hits = before.hits + hits
  lookups : after.hits + after.misses = before.hits + before.misses + lookups
  errors : after.errors = before.errors + errors
  evictions : after.evictions = before.evictions + evictions

namespace CacheStatistics.Grows

variable {before between after : CacheStatistics} {hits lookups errors evictions : Nat}

theorem refl (statistics : CacheStatistics) : statistics.Grows statistics 0 0 0 0 :=
  ⟨rfl, rfl, rfl, rfl⟩

/-- What is counted one after the other adds up. -/
theorem trans {moreHits moreLookups moreErrors moreEvictions : Nat}
    (first : before.Grows between hits lookups errors evictions)
    (second : between.Grows after moreHits moreLookups moreErrors moreEvictions) :
    before.Grows after (hits + moreHits) (lookups + moreLookups) (errors + moreErrors)
      (evictions + moreEvictions) where
  hits := by rw [second.hits, first.hits, Nat.add_assoc]
  lookups := by rw [second.lookups, first.lookups, Nat.add_assoc]
  errors := by rw [second.errors, first.errors, Nat.add_assoc]
  evictions := by rw [second.evictions, first.evictions, Nat.add_assoc]

end CacheStatistics.Grows

/-- The key that an action looks up. -/
def CacheAction.lookedUp? : CacheAction → Option Text
  | .get key => some key
  | .parse (.text key) => some key
  | _ => none

/-- The key that is looked up is the key of a get or of a parse. -/
theorem CacheAction.lookedUp?_eq_some_iff {action : CacheAction} {key : Text} :
    action.lookedUp? = some key ↔ action.LooksUp key := by
  constructor
  · intro looksUp
    cases action with
    | get other => exact .inl (congrArg CacheAction.get (Option.some.inj looksUp))
    | parse value =>
        cases value with
        | text other =>
            exact .inr (congrArg (fun key => CacheAction.parse (.text key))
              (Option.some.inj looksUp))
        | _ => cases looksUp
    | _ => cases looksUp
  · rintro (rfl | rfl) <;> rfl

namespace TemplateCache

variable {cache : TemplateCache} {key : Text}

/-- A cache that counts makes the change. -/
theorem statistics_count (counts : cache.countsStatistics = true) (entries : List CacheEntry)
    (change : CacheStatistics → CacheStatistics) :
    ({ cache with entries := entries }.count change).statistics = change cache.statistics := by
  rw [count, if_pos counts]

/-- The entry of a key is there, but too old. -/
def isExpired (cache : TemplateCache) (key : Text) (now : Int) : Bool :=
  (cache.entry? key).any fun entry => entry.isExpired cache.ttl now

/-- A lookup counts itself, its hit and an entry that it finds expired. -/
theorem grows_get (counts : cache.countsStatistics = true) (key : Text) (now : Int) :
    cache.statistics.Grows (cache.get key now).2.statistics (cache.get key now).1.isSome.toNat 1 0
      (cache.isExpired key now).toNat := by
  rw [isExpired]
  cases found : cache.entry? key with
  | none =>
      rw [get_of_absent found, statistics_count counts cache.entries]
      exact ⟨rfl, rfl, rfl, rfl⟩
  | some entry =>
      rw [Option.any_some]
      cases expiry : entry.isExpired cache.ttl now with
      | true =>
          rw [get_of_expired found expiry, statistics_count counts]
          exact ⟨rfl, rfl, rfl, rfl⟩
      | false =>
          rw [get_of_live found expiry, statistics_count counts]
          exact ⟨rfl, Nat.add_right_comm _ _ _, rfl, rfl⟩

/-- Only what is stored needs room, and it gets as much as it needs. -/
theorem grows_put (counts : cache.countsStatistics = true) (key : Text) (parsed : ParsedTemplate)
    (parseTime now : Int) :
    cache.statistics.Grows (cache.put key parsed parseTime now).statistics 0 0 0
      (if 0 < cache.maxSize then excess cache.maxSize (cache.without key).length else 0) := by
  rw [put]
  by_cases stores : 0 < cache.maxSize
  · rw [if_neg (Int.not_le.mpr stores), if_pos stores, statistics_count counts]
    exact ⟨rfl, rfl, rfl, rfl⟩
  · rw [if_pos (Int.not_lt.mp stores), if_neg stores]
    exact ⟨rfl, rfl, rfl, rfl⟩

end TemplateCache

/-- How many entries make room when an effect is due. -/
def CacheEffect.evicted (cache : TemplateCache) : CacheEffect → Nat
  | .stored key _ _ => TemplateCache.excess cache.maxSize (cache.without key).length
  | _ => 0

/-- A text was refused because it is no template. -/
def isMalformed {α : Type} : Except ParseError α → Bool
  | .error (.malformed _) => true
  | _ => false

namespace CacheMoment

def isLookup (moment : CacheMoment) : Bool :=
  moment.action.lookedUp?.isSome

/-- A lookup is answered from what is stored. -/
def isHit (moment : CacheMoment) : Bool :=
  moment.action.lookedUp?.any fun key => (moment.state.lookup key).isSome

/-- A lookup finds the entry of its key too old. -/
def findsExpired (moment : CacheMoment) : Bool :=
  moment.action.lookedUp?.any fun key =>
    moment.state.cache.isExpired key moment.state.supply.now

/-- A text is parsed that is no template. -/
def isRefused (moment : CacheMoment) : Bool :=
  match moment.action with
  | .parse value => isMalformed (moment.state.parse value).1
  | _ => false

end CacheMoment

namespace CacheState

variable {state : CacheState}

/-- A cache with the same options counts as well. -/
theorem countsStatistics_of_options {cache other : TemplateCache}
    (same : other.options = cache.options) (counts : cache.countsStatistics = true) :
    other.countsStatistics = true :=
  (congrArg (fun options => options.2.2) same).trans counts

/-- What is no template is malformed in every case, so it is counted as an error. -/
theorem isMalformed_parse (supply : Supply) (key : Text) :
    isMalformed (supply.parse (.text key)).1 = !(supply.parse (.text key)).1.isOk := by
  rw [Supply.parse, Template.ofValue]
  rcases Template.parse_layout_or_malformed key with ⟨layout, _, _, read⟩ | ⟨error, refused⟩
  · rw [read]
    rfl
  · rw [refused]
    rfl

/-- Storing makes room, and what happens otherwise does not. -/
theorem evicted_storeEffect (key : Text) (result : Except ParseError ParsedTemplate)
    (parseTime : Int) {otherwise : CacheEffect} (others : otherwise.evicted state.cache = 0) :
    (state.storeEffect key result parseTime otherwise).evicted state.cache =
      match result with
      | .ok _ =>
          if 0 < state.cache.maxSize then
            TemplateCache.excess state.cache.maxSize (state.cache.without key).length
          else 0
      | .error _ => 0 := by
  cases result with
  | error => exact others
  | ok parsed =>
      rw [storeEffect]
      split
      · rfl
      · exact others

/-- Reading counts an error or what is evicted for the template. -/
theorem grows_parseMissing (counts : state.cache.countsStatistics = true) (key : Text) :
    state.cache.statistics.Grows (state.parseMissing key).2.cache.statistics 0 0
      (isMalformed (state.parseMissing key).1).toNat
      ((state.storeEffect key (state.supply.parse (.text key)).1 state.supply.parseTime
        (.missed key)).evicted state.cache) := by
  have malformed := isMalformed_parse state.supply key
  rw [evicted_storeEffect key _ _ rfl, parseMissing]
  split
  · next parsed supply read =>
      have stores := TemplateCache.grows_put counts key parsed supply.parseTime supply.now
      have stillCounts : (state.cache.put key parsed supply.parseTime supply.now).countsStatistics =
          true := countsStatistics_of_options (TemplateCache.options_put _ _ _ _ _) counts
      rw [read, TemplateCache.statistics_count stillCounts]
      exact ⟨stores.hits, stores.lookups, stores.errors, stores.evictions⟩
  · next error supply refused =>
      rw [refused] at malformed ⊢
      rw [malformed, TemplateCache.statistics_count counts]
      exact ⟨rfl, rfl, rfl, rfl⟩

/-- A parse counts a lookup, its hit or its error, and what expired or was evicted. -/
theorem grows_parse (counts : state.cache.countsStatistics = true) (key : Text) :
    state.cache.statistics.Grows (state.parse (.text key)).2.cache.statistics
      (state.lookup key).isSome.toNat 1 (isMalformed (state.parse (.text key)).1).toNat
      ((state.cache.isExpired key state.supply.now).toNat +
        (state.effect (.parse (.text key))).evicted state.cache) := by
  have looksUp := TemplateCache.grows_get counts key state.supply.now
  rw [effect]
  rcases state.lookup_cases key with ⟨missed, _, entries⟩ | ⟨entry, answered, _, _, _⟩
  · have isMiss : (state.cache.get key state.supply.now).1 = none := missed
    have options := state.cache.options_get key state.supply.now
    have maxSize : (state.cache.get key state.supply.now).2.maxSize = state.cache.maxSize :=
      congrArg Prod.fst options
    let left : CacheState := state.withCache (state.cache.get key state.supply.now).2
    have stillCounts : left.cache.countsStatistics = true :=
      countsStatistics_of_options options counts
    have parses := grows_parseMissing stillCounts key
    have both := looksUp.trans parses
    rw [evicted_storeEffect key _ _ rfl] at both
    rw [missed, Option.isSome_none, if_neg Bool.false_ne_true, parse_of_miss missed,
      evicted_storeEffect key _ _ rfl]
    simp only [left, withCache, isMiss, maxSize, TemplateCache.without_of_entries_eq entries,
      Nat.zero_add, Nat.add_zero] at both
    exact both
  · have isHit : (state.cache.get key state.supply.now).1 = some entry.parsed := answered
    rw [isHit] at looksUp
    rw [answered, parse_of_hit answered]
    exact looksUp

/-- A put counts what is evicted for the template that is read. -/
theorem grows_put (counts : state.cache.countsStatistics = true) (key template : Text)
    (parseTime : Int) :
    state.cache.statistics.Grows (state.put key template parseTime).2.cache.statistics 0 0 0
      ((state.effect (.put key template parseTime)).evicted state.cache) := by
  rw [effect, evicted_storeEffect key _ _ rfl, put]
  split
  · next parsed supply read =>
      rw [read]
      exact TemplateCache.grows_put counts key parsed parseTime supply.now
  · next refused =>
      rw [refused]
      exact .refl _

theorem grows_putParsed (counts : state.cache.countsStatistics = true) (key : Text)
    (parsed : ParsedTemplate) (parseTime now : Int) :
    state.cache.statistics.Grows (state.cache.put key parsed parseTime now).statistics 0 0 0
      ((state.effect (.putParsed key parsed parseTime)).evicted state.cache) := by
  rw [effect, evicted_storeEffect key _ _ rfl]
  exact TemplateCache.grows_put counts key parsed parseTime now

variable (state) in
/-- The effect of a single action says how much room it makes; the rest of what is counted is seen
in the action itself. -/
theorem grows_perform {action : CacheAction} (single : action.IsSingle)
    (counts : state.cache.countsStatistics = true) (unreset : action ≠ .resetStatistics) :
    let moment : CacheMoment := ⟨state, action⟩
    state.cache.statistics.Grows moment.after.cache.statistics moment.isHit.toNat
      moment.isLookup.toNat moment.isRefused.toNat
      (moment.findsExpired.toNat + moment.effect.evicted state.cache) := by
  intro moment
  cases action with
  | parse value =>
      rw [CacheMoment.after, perform, attempted_state]
      cases value with
      | text key => exact grows_parse counts key
      | _ => exact .refl _
  | get key =>
      have makesNoRoom : (state.effect (.get key)).evicted state.cache = 0 := by
        rw [effect]
        split <;> rfl
      rw [CacheMoment.effect, makesNoRoom]
      exact TemplateCache.grows_get counts key state.supply.now
  | put key template parseTime =>
      rw [CacheMoment.after, perform, attempted_state]
      exact (CacheStatistics.Grows.refl _).trans (grows_put counts key template parseTime)
  | putParsed key parsed parseTime =>
      exact (CacheStatistics.Grows.refl _).trans
        (grows_putParsed counts key parsed parseTime state.supply.now)
  | invalidate key => cases key <;> exact .refl _
  | resetStatistics => exact absurd rfl unreset
  | disabled => exact single.elim
  | _ => exact .refl _

end CacheState

end UriTemplate
