import UriTemplate.Settings.Basic
import UriTemplate.Template

/-
This file defines a cache of templates. The entries are ordered by their last use, and the time
is given to every operation that depends on it.
-/

namespace UriTemplate

/-- A template that was read at some moment, told apart from others of the same text. -/
structure ParsedTemplate where
  identity : Nat
  template : Template
  deriving DecidableEq

structure CacheStatistics where
  hits : Nat
  misses : Nat
  evictions : Nat
  errors : Nat
  totalParseTime : Int
  deriving DecidableEq

namespace CacheStatistics

def zero : CacheStatistics := ⟨0, 0, 0, 0, 0⟩

/-- The share of the lookups that were hits. -/
def hitRate (statistics : CacheStatistics) : Binary64 :=
  if statistics.hits + statistics.misses = 0 then Binary64.zero false
  else Binary64.ofQuotient false statistics.hits (statistics.hits + statistics.misses)

def hit (statistics : CacheStatistics) : CacheStatistics :=
  { statistics with hits := statistics.hits + 1 }

def miss (statistics : CacheStatistics) : CacheStatistics :=
  { statistics with misses := statistics.misses + 1 }

def evict (count : Nat) (statistics : CacheStatistics) : CacheStatistics :=
  { statistics with evictions := statistics.evictions + count }

def fail (statistics : CacheStatistics) : CacheStatistics :=
  { statistics with errors := statistics.errors + 1 }

def spend (time : Int) (statistics : CacheStatistics) : CacheStatistics :=
  { statistics with totalParseTime := statistics.totalParseTime + time }

end CacheStatistics

/-- The time at which an entry was stored is the time of the clock then, in the same ticks. -/
structure CacheEntry where
  key : Text
  parsed : ParsedTemplate
  storedAt : Int
  parseTime : Int
  hits : Nat
  deriving DecidableEq

namespace CacheEntry

/-- An entry stays valid for the time to live, counted from when it was stored. -/
def isExpired (entry : CacheEntry) (ttl : Option Duration) (now : Int) : Bool :=
  match ttl with
  | none => false
  | some duration => duration.isBelow (now - entry.storedAt)

def used (entry : CacheEntry) : CacheEntry :=
  { entry with hits := entry.hits + 1 }

end CacheEntry

/-- The entry that was used longest ago comes first. -/
structure TemplateCache where
  maxSize : Int
  ttl : Option Duration
  countsStatistics : Bool
  entries : List CacheEntry
  statistics : CacheStatistics
  deriving DecidableEq

namespace TemplateCache

def empty (maxSize : Int) (ttl : Option Duration) (countsStatistics : Bool) : TemplateCache :=
  ⟨maxSize, ttl, countsStatistics, [], .zero⟩

def keys (cache : TemplateCache) : List Text :=
  cache.entries.map CacheEntry.key

def entry? (cache : TemplateCache) (key : Text) : Option CacheEntry :=
  cache.entries.find? fun entry => entry.key = key

def contains (cache : TemplateCache) (key : Text) : Bool :=
  (cache.entry? key).isSome

def without (cache : TemplateCache) (key : Text) : List CacheEntry :=
  cache.entries.filter fun entry => entry.key ≠ key

/-- Nothing is counted while the statistics are switched off. -/
def count (cache : TemplateCache) (change : CacheStatistics → CacheStatistics) : TemplateCache :=
  if cache.countsStatistics then { cache with statistics := change cache.statistics } else cache

/-- A hit moves the entry to the end; an expired entry is dropped and counts as a miss. -/
def get (cache : TemplateCache) (key : Text) (now : Int) : Option ParsedTemplate × TemplateCache :=
  match cache.entry? key with
  | none => (none, cache.count .miss)
  | some entry =>
      if entry.isExpired cache.ttl now then
        (none, { cache with entries := cache.without key }.count
          fun statistics => (statistics.miss).evict 1)
      else
        (some entry.parsed,
          { cache with entries := cache.without key ++ [entry.used] }.count .hit)

/-- The number of entries that must go so that one more fits. -/
def excess (maxSize : Int) (length : Nat) : Nat :=
  length + 1 - maxSize.toNat

/-- A cache of no positive size stores nothing. A full cache drops the entries that were used
longest ago. -/
def put (cache : TemplateCache) (key : Text) (parsed : ParsedTemplate) (parseTime now : Int) :
    TemplateCache :=
  if cache.maxSize ≤ 0 then cache
  else
    let others := cache.without key
    let surplus := excess cache.maxSize others.length
    let entry : CacheEntry := ⟨key, parsed, now, parseTime, 0⟩
    { cache with entries := others.drop surplus ++ [entry] }.count (.evict surplus)

/-- One key is dropped, or every key. -/
def invalidate (cache : TemplateCache) : Option Text → TemplateCache
  | some key => { cache with entries := cache.without key }
  | none => { cache with entries := [] }

def resetStatistics (cache : TemplateCache) : TemplateCache :=
  { cache with statistics := .zero }

end TemplateCache

/-- What a cache is given from outside: the time, which moves only when it is told to, the time
that one parse takes, and the next identity for a template. The clock counts whole ticks of any
size, and a duration is counted in the same ticks. So the difference of two times is exact, without
the rounding of a clock that shows fractions of a second. -/
structure Supply where
  now : Int
  parseTime : Int
  nextIdentity : Nat
  deriving DecidableEq

namespace Supply

def advance (supply : Supply) (duration : Int) : Supply :=
  { supply with now := supply.now + duration }

/-- Every template that is read gets an identity of its own. -/
def parse (supply : Supply) (value : Value) : Except ParseError ParsedTemplate × Supply :=
  match Template.ofValue value with
  | .ok template =>
      (.ok ⟨supply.nextIdentity, template⟩,
        { supply with nextIdentity := supply.nextIdentity + 1 })
  | .error error => (.error error, supply)

end Supply

/-- A cache together with its supply. -/
structure CacheState where
  cache : TemplateCache
  supply : Supply
  deriving DecidableEq

namespace CacheState

/-- A text that is not stored is parsed and stored. -/
def parseMissing (state : CacheState) (key : Text) :
    Except ParseError ParsedTemplate × CacheState :=
  match state.supply.parse (.text key) with
  | (.ok parsed, supply) =>
      (.ok parsed,
        ⟨(state.cache.put key parsed supply.parseTime supply.now).count
          (.spend supply.parseTime), supply⟩)
  | (.error error, supply) => (.error error, ⟨state.cache.count .fail, supply⟩)

/-- A value that is no text is refused before the cache is looked at. -/
def parse (state : CacheState) : Value → Except ParseError ParsedTemplate × CacheState
  | .text key =>
      match state.cache.get key state.supply.now with
      | (some parsed, cache) => (.ok parsed, ⟨cache, state.supply⟩)
      | (none, cache) => parseMissing ⟨cache, state.supply⟩ key
  | value => (.error (.notText value.typeName), state)

end CacheState

end UriTemplate
