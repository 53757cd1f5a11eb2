import UriTemplate.Proofs.Cache.Effect
import Mathlib.Algebra.Order.Field.Basic
import Mathlib.Data.Rat.Cast.Order

namespace UriTemplate

/-- A time that has passed is at most a duration. No time is at most what is not a number. -/
def Duration.Covers (elapsed : Int) : Duration → Prop
  | .whole seconds => elapsed ≤ seconds
  | .binary .notANumber => False
  | .binary (.infinite isNegative) => isNegative = false
  | .binary (.finite isNegative code) =>
      let signed : Int := if isNegative then -Binary64.numerator code else Binary64.numerator code
      (elapsed : ℚ) ≤ signed / Binary64.denominator code

/-- Finite numbers are fractions. -/
theorem Binary64.denominator_pos (code : Nat) : 0 < denominator code :=
  Nat.two_pow_pos _

/-- Among numbers, a time is either covered by a duration or beyond it. -/
theorem Duration.isBelow_eq_false_iff {duration : Duration} {elapsed : Int}
    (isNumber : duration ≠ .binary .notANumber) :
    duration.isBelow elapsed = false ↔ duration.Covers elapsed := by
  cases duration with
  | whole seconds => simp only [isBelow, Covers, decide_eq_false_iff_not, Int.not_lt]
  | binary number =>
      cases number with
      | notANumber => exact absurd rfl isNumber
      | infinite => exact Iff.rfl
      | finite isNegative code =>
          have positive : (0 : ℚ) < Binary64.denominator code :=
            Nat.cast_pos.mpr (Binary64.denominator_pos code)
          simp only [isBelow, Binary64.isBelow, Covers, decide_eq_false_iff_not, Int.not_lt]
          rw [le_div_iff₀ positive]
          norm_cast

/-- An entry comes from the moment that stored it. Since then its key was only looked up. -/
def CacheEntry.ComesFrom (entry : CacheEntry) (past : List CacheMoment) : Prop :=
  ∃ earlier store since, past = earlier ++ store :: since ∧
    store.Stores entry.key entry.parsed ∧ entry.storedAt = store.state.supply.now ∧
    ∀ moment ∈ since, moment.effect.Spares entry.key

namespace CacheState

variable {start state : CacheState} {past : List CacheMoment} {entry : CacheEntry}

/-- The induction follows the moments; each adds itself to the past of an entry it spares. -/
theorem LeadsTo.comesFrom (leads : start.LeadsTo past state) (isEmpty : start.cache.entries = []) :
    ∀ entry ∈ state.cache.entries, entry.ComesFrom past := by
  induction leads with
  | nothing =>
      intro entry member
      rw [isEmpty] at member
      cases member
  | @acting past state action leads single inductionHypothesis =>
      intro entry member
      rw [entries_perform _ single] at member
      rcases mem_entriesAfter member with
        ⟨spared, old, isOld, sameKey, sameParsed, sameTime⟩ | ⟨storedNow, stored⟩
      · obtain ⟨earlier, store, since, rfl, stored, storedAt, onlyUsed⟩ :=
          inductionHypothesis old isOld
        rw [sameKey] at stored onlyUsed
        rw [sameParsed] at stored
        rw [sameTime] at storedAt
        refine ⟨earlier, store, since ++ [⟨state, action⟩], ?_, stored, storedAt, ?_⟩
        · rw [List.append_assoc, List.cons_append]
        · intro moment isSince
          rcases List.mem_append.mp isSince with isBefore | isNow
          · exact onlyUsed moment isBefore
          · obtain rfl := List.mem_singleton.mp isNow
            exact spared
      · obtain ⟨_, stored⟩ := stored
        exact ⟨past, ⟨state, action⟩, [], rfl, allows_of_effect stored, storedNow,
          fun _ isSince => absurd isSince List.not_mem_nil⟩

end CacheState

namespace CacheMoment

variable {moment : CacheMoment} {key : Text} {parsed : ParsedTemplate}

/-- A moment that spares a key stores nothing under it. -/
theorem not_stores_of_spares (spared : moment.effect.Spares key) : ¬moment.Stores key parsed := by
  intro stores
  obtain ⟨_, stored⟩ := CacheState.effect_of_stores stores
  rw [effect, stored] at spared
  exact spared rfl

/-- A moment that spares a key does not invalidate it. -/
theorem action_ne_of_spares (spared : moment.effect.Spares key) :
    moment.action ≠ .invalidate (some key) ∧ moment.action ≠ .invalidate none := by
  constructor
  · intro invalidates
    rw [effect, invalidates] at spared
    exact spared rfl
  · intro invalidates
    rw [effect, invalidates] at spared
    exact spared

end CacheMoment

namespace CacheState

/-- What a lookup answers was stored last under its key. Since then the key was not invalidated,
and the time since it was stored, however often it was looked up in between, is covered by the
time to live that is in force now, if that is a number. A hit leaves the entry as old as it is. -/
theorem lookup_fresh (maxSize : Int) (ttl : Option Duration) (countsStatistics : Bool)
    (supply : Supply) (propagates : Bool) (actions : List CacheAction)
    (past : List CacheMoment) (key : Text) (parsed : ParsedTemplate) :
    let start : CacheState := ⟨.empty maxSize ttl countsStatistics, supply⟩
    let state := start.behind past
    past <+: start.allMoments propagates actions →
    (state.cache.get key state.supply.now).1 = some parsed →
      (state.parse (.text key)).1 = .ok parsed ∧
      ∃ earlier store since, past = earlier ++ store :: since ∧
        store.Stores key parsed ∧
        (∀ moment ∈ since, (∀ other, ¬moment.Stores key other) ∧
          moment.action ≠ .invalidate (some key) ∧ moment.action ≠ .invalidate none) ∧
        (∀ duration, state.cache.ttl = some duration → duration ≠ .binary .notANumber →
          duration.Covers (state.supply.now - store.state.supply.now)) ∧
        ∃ entry, TemplateCache.entry? (state.cache.get key state.supply.now).2 key = some entry ∧
          entry.parsed = parsed ∧ entry.storedAt = store.state.supply.now := by
  intro start state isBefore answered
  rcases state.lookup_cases key with ⟨missed, _⟩ | ⟨entry, hit, found, live, left⟩
  · rw [lookup, answered] at missed
    cases missed
  · rw [lookup, answered, Option.some.injEq] at hit
    obtain ⟨member, sameKey⟩ := TemplateCache.mem_of_entry?_eq_some found
    have leads := leadsTo_behind isBefore
    obtain ⟨earlier, store, since, pastEq, stores, storedAt, onlyUsed⟩ :=
      leads.comesFrom rfl entry member
    rw [sameKey] at stores onlyUsed
    rw [← hit] at stores
    refine ⟨?_, earlier, store, since, pastEq, stores, ?_, ?_, entry.used, ?_⟩
    · rw [parse_of_hit answered]
    · intro moment isSince
      have spared := onlyUsed moment isSince
      exact ⟨fun _ => CacheMoment.not_stores_of_spares spared,
        CacheMoment.action_ne_of_spares spared⟩
    · intro duration inForce isNumber
      rw [← Duration.isBelow_eq_false_iff isNumber, ← storedAt]
      rw [inForce] at live
      exact live
    · exact ⟨TemplateCache.entry?_of_without_append left sameKey, hit.symm, storedAt⟩

theorem lookup_fresh_second :
    let parsed : ParsedTemplate := ⟨7, ⟨"a", []⟩⟩
    let start : CacheState := ⟨.empty 1 (some (.whole 3)) true, ⟨1000, 1, 1⟩⟩
    let past := start.allMoments false
      [.put "a" "a" 0, .advance 2, .disabled true [.get "a"], .putParsed "a" parsed 0, .advance 3]
    let state := start.behind past
    (state.cache.get "a" state.supply.now).1 = some parsed ∧
      ∃ earlier store since, past = earlier ++ store :: since ∧ store.Stores "a" parsed ∧
        (Duration.whole 3).Covers (state.supply.now - store.state.supply.now) := by
  intro parsed start past state
  have answered : (state.cache.get "a" state.supply.now).1 = some parsed := by decide +kernel
  obtain ⟨_, earlier, store, since, pastEq, stores, _, covered, _⟩ :=
    lookup_fresh 1 (some (.whole 3)) true ⟨1000, 1, 1⟩ false _ past "a" parsed List.prefix_rfl
      answered
  exact ⟨answered, earlier, store, since, pastEq, stores, covered _ (by decide +kernel) (by nofun)⟩

/-- A time to live that is not a number is compared in vain: nothing is at most that, and yet an
entry is answered. -/
theorem lookup_stale_not_a_number :
    let parsed : ParsedTemplate := ⟨1, ⟨"a", []⟩⟩
    let start : CacheState := ⟨.empty 1 (some (.binary .notANumber)) true, ⟨1000, 1, 1⟩⟩
    let state := start.behind (start.allMoments false [.put "a" "a" 0, .advance 5])
    (state.cache.get "a" state.supply.now).1 = some parsed ∧
      state.cache.ttl = some (.binary .notANumber) ∧
      ∀ elapsed, ¬(Duration.binary .notANumber).Covers elapsed := by
  exact ⟨by decide +kernel, by decide +kernel, fun _ => id⟩

end CacheState

end UriTemplate
