import UriTemplate.Proofs.Cache.Effect
import UriTemplate.Proofs.Syntax.ParserInvariant

namespace UriTemplate

/-- A template keeps the text it was read from. -/
theorem Template.raw_of_parse {source : Text} {template : Template}
    (read : Template.parse source = .ok template) : template.raw = source := by
  obtain ⟨layout, _, rfl, rfl⟩ := Template.parse_eq_ok_iff.mp read
  rfl

/-- What is put under a key was read from it. -/
def CacheAction.IsHonest : CacheAction → Prop
  | .put key template _ => template = key
  | .putParsed key parsed _ => Template.parse key = .ok parsed.template
  | _ => True

/-- What is stored under a key is what the key is read as. -/
def TemplateCache.IsTransparent (cache : TemplateCache) : Prop :=
  ∀ entry ∈ cache.entries, Template.parse entry.key = .ok entry.parsed.template

/-- A cache without entries has nothing to be wrong about. -/
theorem TemplateCache.isTransparent_of_empty {cache : TemplateCache}
    (isEmpty : cache.entries = []) : cache.IsTransparent := by
  intro entry member
  rw [isEmpty] at member
  cases member

/-- Removing entries leaves honest ones. -/
theorem TemplateCache.isTransparent_invalidate {cache : TemplateCache}
    (transparent : cache.IsTransparent) (key : Option Text) :
    (cache.invalidate key).IsTransparent := by
  cases key with
  | none => exact isTransparent_of_empty rfl
  | some key => exact fun entry member => transparent entry (mem_without_iff.mp member).1

/-- Reading gives the template of the value, under a new identity. -/
theorem Supply.parse_template (supply : Supply) (value : Value) :
    (supply.parse value).1.map ParsedTemplate.template = Template.ofValue value := by
  rw [parse]
  split
  · next read => rw [read]; rfl
  · next refused => rw [refused]; rfl

namespace CacheState

variable {start state : CacheState} {past : List CacheMoment}

/-- What an honest action stores is the template of its key. -/
theorem parse_of_stores {action : CacheAction} {key : Text} {parsed : ParsedTemplate}
    (honest : action.IsHonest) (stores : state.Stores action key parsed) :
    Template.parse key = .ok parsed.template := by
  obtain ⟨_, ⟨rfl, _, read⟩ | ⟨template, _, rfl, read⟩ | ⟨_, rfl⟩⟩ := stores
  · have same := state.supply.parse_template (.text key)
    rw [read] at same
    exact same.symm
  · obtain rfl : template = key := honest
    have same := state.supply.parse_template (.text template)
    rw [read] at same
    exact same.symm
  · exact honest

/-- Honest moments keep all entries honest. -/
theorem LeadsTo.isTransparent (leads : start.LeadsTo past state)
    (transparent : start.cache.IsTransparent)
    (honest : ∀ moment ∈ past, moment.action.IsHonest) : state.cache.IsTransparent := by
  induction leads with
  | nothing => exact transparent
  | @acting past state action leads single inductionHypothesis =>
      have before := inductionHypothesis fun moment isEarlier =>
        honest moment (List.mem_append_left _ isEarlier)
      have honestNow : action.IsHonest :=
        honest ⟨state, action⟩ (List.mem_append_right _ (List.mem_singleton.mpr rfl))
      intro entry member
      rw [entries_perform _ single] at member
      rcases mem_entriesAfter member with ⟨_, old, isOld, sameKey, sameParsed, _⟩ | ⟨_, _, stored⟩
      · rw [← sameKey, ← sameParsed]
        exact before old isOld
      · exact parse_of_stores honestNow (allows_of_effect stored)

/-- An honest action keeps all entries honest. -/
theorem isTransparent_perform (transparent : state.cache.IsTransparent) {action : CacheAction}
    (single : action.IsSingle) (honest : action.IsHonest) :
    (state.perform action).state.cache.IsTransparent := by
  apply (leadsTo_single state single).isTransparent transparent
  intro moment member
  rw [List.mem_singleton.mp member]
  exact honest

theorem isTransparent_parse (transparent : state.cache.IsTransparent) (value : Value) :
    (state.parse value).2.cache.IsTransparent := by
  have performed : (state.perform (.parse value)).state.cache.IsTransparent :=
    isTransparent_perform transparent trivial trivial
  rwa [perform, attempted_state] at performed

/-- A transparent cache answers with the template of the key. -/
theorem lookup_transparent (transparent : state.cache.IsTransparent) {key : Text}
    {parsed : ParsedTemplate} (answered : state.lookup key = some parsed) :
    Template.parse key = .ok parsed.template := by
  rcases state.lookup_cases key with ⟨missed, _⟩ | ⟨entry, hit, found, _⟩
  · rw [answered] at missed
    cases missed
  · obtain ⟨member, sameKey⟩ := TemplateCache.mem_of_entry?_eq_some found
    obtain rfl := Option.some.inj (answered.symm.trans hit)
    rw [← sameKey]
    exact transparent entry member

/-- A miss is answered with what was read. -/
theorem parseMissing_answer (state : CacheState) (key : Text) :
    (state.parseMissing key).1 = (state.supply.parse (.text key)).1 := by
  rw [parseMissing]
  split
  · next read => rw [read]
  · next refused => rw [refused]

/-- A parse gives the template of the value, from the cache or not. -/
theorem parse_transparent (transparent : state.cache.IsTransparent) (value : Value) :
    (state.parse value).1.map ParsedTemplate.template = Template.ofValue value := by
  cases value with
  | text key =>
      cases answer : state.lookup key with
      | some parsed =>
          rw [parse_of_hit answer]
          exact (lookup_transparent transparent answer).symm
      | none =>
          rw [parse_of_miss answer, parseMissing_answer]
          exact state.supply.parse_template (.text key)
  | _ => rfl

/-- The moments of honest actions are honest; setting the limit always is. -/
theorem isHonest_moments {propagates : Bool} {actions : List CacheAction}
    (honest : ∀ action ∈ CacheAction.allSingles actions, action.IsHonest) :
    ∀ moment ∈ start.allMoments propagates actions, moment.action.IsHonest := by
  intro moment member
  rcases action_of_mem_moments.2 actions start propagates moment member with
    isWritten | ⟨_, setsMaxSize⟩
  · exact honest _ isWritten
  · rw [setsMaxSize]
    trivial

/-- At every point of an honest run all entries are honest. -/
theorem isTransparent_behind {propagates : Bool} {actions : List CacheAction}
    (transparent : start.cache.IsTransparent)
    (honest : ∀ action ∈ CacheAction.allSingles actions, action.IsHonest)
    (isBefore : past <+: start.allMoments propagates actions) :
    (start.behind past).cache.IsTransparent :=
  (leadsTo_behind isBefore).isTransparent transparent fun moment isEarlier =>
    isHonest_moments honest moment (isBefore.subset isEarlier)

end CacheState

end UriTemplate
