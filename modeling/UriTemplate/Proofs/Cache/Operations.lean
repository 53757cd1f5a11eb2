import UriTemplate.Cache.Basic

namespace UriTemplate

namespace TemplateCache

/-- What is set from outside. -/
def options (cache : TemplateCache) : Int × Option Duration × Bool :=
  (cache.maxSize, cache.ttl, cache.countsStatistics)

variable (cache : TemplateCache) (key : Text) (parsed : ParsedTemplate) (parseTime now : Int)

/-- Counting does not touch the entries. -/
@[simp]
theorem entries_count (change : CacheStatistics → CacheStatistics) :
    (cache.count change).entries = cache.entries := by
  rw [count]
  split <;> rfl

/-- Counting does not touch the options. -/
@[simp]
theorem options_count (change : CacheStatistics → CacheStatistics) :
    (cache.count change).options = cache.options := by
  rw [count]
  split <;> rfl

/-- Removing a key without an entry changes nothing. -/
theorem without_of_entry?_eq_none {cache : TemplateCache} {key : Text}
    (absent : cache.entry? key = none) : cache.without key = cache.entries := by
  rw [without, List.filter_eq_self]
  intro entry member
  have other := List.find?_eq_none.mp absent entry member
  simpa using other

/-- Removing a key twice is removing it once. -/
theorem without_of_entries_eq {cache other : TemplateCache} {key : Text}
    (same : other.entries = cache.without key) : other.without key = cache.without key := by
  rw [without, same, without, List.filter_filter]
  simp only [Bool.and_self]

/-- The entry that is found under a key is there and has that key. -/
theorem mem_of_entry?_eq_some {cache : TemplateCache} {key : Text} {entry : CacheEntry}
    (found : cache.entry? key = some entry) : entry ∈ cache.entries ∧ entry.key = key := by
  refine ⟨List.mem_of_find?_eq_some found, ?_⟩
  simpa using List.find?_some found

variable {cache key now}

/-- A key without an entry is a miss. -/
theorem get_of_absent (absent : cache.entry? key = none) :
    cache.get key now = (none, cache.count .miss) := by
  rw [get, absent]

/-- An entry that has expired is removed and counts as a miss. -/
theorem get_of_expired {entry : CacheEntry} (found : cache.entry? key = some entry)
    (expired : entry.isExpired cache.ttl now = true) :
    cache.get key now = (none, { cache with entries := cache.without key }.count
      fun statistics => (statistics.miss).evict 1) := by
  rw [get, found]
  exact if_pos expired

/-- A live entry is answered and becomes the last one used. -/
theorem get_of_live {entry : CacheEntry} (found : cache.entry? key = some entry)
    (live : entry.isExpired cache.ttl now = false) :
    cache.get key now =
      (some entry.parsed, { cache with entries := cache.without key ++ [entry.used] }.count
        .hit) := by
  rw [get, found]
  exact if_neg (Bool.not_eq_true _ ▸ live)

variable (cache key now)

/-- Removing a key leaves the entries of all others. -/
theorem mem_without_iff {cache : TemplateCache} {key : Text} {entry : CacheEntry} :
    entry ∈ cache.without key ↔ entry ∈ cache.entries ∧ entry.key ≠ key := by
  rw [without, List.mem_filter, decide_eq_true_iff]

/-- The entry that was put last is found under its key. -/
theorem entry?_of_without_append {cache other : TemplateCache} {key : Text} {entry : CacheEntry}
    (entries : other.entries = cache.without key ++ [entry]) (sameKey : entry.key = key) :
    other.entry? key = some entry := by
  have others : (cache.without key).find? (fun entry => entry.key = key) = none := by
    rw [List.find?_eq_none]
    intro found member
    simpa using (mem_without_iff.mp member).2
  have found : (cache.without key ++ [entry]).find? (fun entry => entry.key = key) =
      some entry := by
    rw [List.find?_append, others, Option.none_or, List.find?_cons_of_pos]
    exact decide_eq_true sameKey
  rwa [← entries] at found

/-- A lookup misses and leaves no entry of its key, or it answers from an entry that has not
expired and puts it last. -/
theorem get_cases : ((cache.get key now).1 = none ∧
      (∀ entry, cache.entry? key = some entry → entry.isExpired cache.ttl now = true) ∧
      (cache.get key now).2.entries = cache.without key) ∨
    ∃ entry, (cache.get key now).1 = some entry.parsed ∧ cache.entry? key = some entry ∧
      entry.isExpired cache.ttl now = false ∧
      (cache.get key now).2.entries = cache.without key ++ [entry.used] := by
  cases found : cache.entry? key with
  | none =>
      refine .inl ?_
      rw [get_of_absent found, entries_count, without_of_entry?_eq_none found]
      exact ⟨rfl, nofun, rfl⟩
  | some entry =>
      cases expiry : entry.isExpired cache.ttl now with
      | true =>
          refine .inl ?_
          rw [get_of_expired found expiry, entries_count]
          exact ⟨rfl, fun other same => Option.some.inj same ▸ expiry, rfl⟩
      | false =>
          refine .inr ⟨entry, ?_⟩
          rw [get_of_live found expiry, entries_count]
          exact ⟨rfl, rfl, expiry, rfl⟩

/-- A lookup does not touch the options. -/
theorem options_get : (cache.get key now).2.options = cache.options := by
  rw [get]
  split
  · exact options_count _ _
  · split <;> exact options_count _ _

/-- What is stored comes last, and only as much as it needs room for is dropped. -/
def entriesWith : List CacheEntry :=
  (cache.without key).drop (excess cache.maxSize (cache.without key).length) ++
    [⟨key, parsed, now, parseTime, 0⟩]

/-- A put stores an entry if the cache holds any. -/
theorem entries_put : (cache.put key parsed parseTime now).entries =
    if 0 < cache.maxSize then cache.entriesWith key parsed parseTime now else cache.entries := by
  rw [put]
  by_cases stores : 0 < cache.maxSize
  · rw [if_neg (Int.not_le.mpr stores), if_pos stores]
    exact entries_count _ _
  · rw [if_pos (Int.not_lt.mp stores), if_neg stores]

/-- What is stored behind a miss is stored as if nothing had been looked up. -/
theorem entriesWith_of_missed {cache other : TemplateCache} {key : Text}
    (entries : other.entries = cache.without key) (maxSize : other.maxSize = cache.maxSize)
    (parsed : ParsedTemplate) (parseTime now : Int) :
    other.entriesWith key parsed parseTime now = cache.entriesWith key parsed parseTime now := by
  rw [entriesWith, without_of_entries_eq entries, maxSize, entriesWith]

/-- An entry behind a put is an old one of another key or the new one. -/
theorem mem_entriesWith {cache : TemplateCache} {key : Text} {entry : CacheEntry}
    {parsed : ParsedTemplate} {parseTime now : Int}
    (member : entry ∈ cache.entriesWith key parsed parseTime now) :
    (entry ∈ cache.entries ∧ entry.key ≠ key) ∨ entry = ⟨key, parsed, now, parseTime, 0⟩ := by
  rw [entriesWith, List.mem_append, List.mem_singleton] at member
  rcases member with isOld | isNew
  · exact .inl (mem_without_iff.mp (List.mem_of_mem_drop isOld))
  · exact .inr isNew

/-- A put does not touch the options. -/
theorem options_put : (cache.put key parsed parseTime now).options = cache.options := by
  rw [put]
  split
  · rfl
  · exact options_count _ _

end TemplateCache

namespace Supply

/-- Reading a template takes no time. -/
@[simp]
theorem now_parse (supply : Supply) (value : Value) : (supply.parse value).2.now = supply.now := by
  rw [parse]
  split <;> rfl

/-- Reading a template does not change how long reading takes. -/
@[simp]
theorem parseTime_parse (supply : Supply) (value : Value) :
    (supply.parse value).2.parseTime = supply.parseTime := by
  rw [parse]
  split <;> rfl

end Supply

end UriTemplate
