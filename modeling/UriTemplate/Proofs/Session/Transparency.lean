import UriTemplate.Proofs.Cache.Transparency
import UriTemplate.Session.Action

namespace UriTemplate

/-- A cache at some point of an honest run from an empty one. -/
def TemplateCache.IsHonest (cache : TemplateCache) : Prop :=
  ∃ (start : CacheState) (propagates : Bool) (actions : List CacheAction)
    (past : List CacheMoment), start.cache.entries = [] ∧
    (∀ action ∈ CacheAction.allSingles actions, action.IsHonest) ∧
    past <+: start.allMoments propagates actions ∧ (start.behind past).cache = cache

/-- A cache with an honest past answers with the templates of its keys. -/
theorem TemplateCache.IsHonest.isTransparent {cache : TemplateCache} (honest : cache.IsHonest) :
    cache.IsTransparent := by
  obtain ⟨start, propagates, actions, past, isEmpty, actionsHonest, isBefore, rfl⟩ := honest
  exact CacheState.isTransparent_behind (TemplateCache.isTransparent_of_empty isEmpty)
    actionsHonest isBefore

/-- Whoever replaces the cache replaces it with an honest one. -/
def SessionAction.IsHonest : SessionAction → Prop
  | .setCache (some cache) => cache.IsHonest
  | _ => True

namespace Session

/-- The session behind something that was done to its cache. -/
def withCacheState (session : Session) (state : CacheState) : Session :=
  { session with cache := some state.cache, supply := state.supply }

/-- The sessions that come from an initial one by actions of their own and by actions on their
cache. -/
inductive IsReachable : Session → Prop
  | initial (environment : Dictionary Text) (supply : Supply) :
      IsReachable (.initial environment supply)
  | perform {session : Session} {action : SessionAction} :
      IsReachable session → action.IsHonest → IsReachable (session.perform action).2
  | operate {session : Session} {cache : TemplateCache} {past : List CacheMoment}
      {propagates : Bool} {actions : List CacheAction} :
      IsReachable session → session.cache = some cache →
      (∀ action ∈ CacheAction.allSingles actions, action.IsHonest) →
      past <+: CacheState.allMoments ⟨cache, session.supply⟩ propagates actions →
        IsReachable (session.withCacheState (CacheState.behind ⟨cache, session.supply⟩ past))

/-- If the cache is open, it is transparent. -/
def IsTransparent (session : Session) : Prop :=
  ∀ cache, session.cache = some cache → cache.IsTransparent

variable {session : Session}

/-- The settings that were set or, if none were, those that the environment gives. -/
def inForce (session : Session) : Except SettingsFault Settings :=
  match session.settings with
  | some settings => .ok settings
  | none => session.readSettings []

/-- The settings in force are what loading gives. -/
theorem loadSettings_fst (session : Session) : session.loadSettings.1 = session.inForce := by
  rw [loadSettings, inForce]
  cases session.settings with
  | some settings => rfl
  | none => cases session.readSettings [] <;> rfl

/-- Loading leaves the settings in force installed. -/
theorem loadSettings_of_ok {settings : Settings} (loads : session.inForce = .ok settings) :
    session.loadSettings = (.ok settings, session.install settings) := by
  rw [inForce] at loads
  rw [loadSettings]
  cases there : session.settings with
  | none =>
      rw [there] at loads
      rw [show session.readSettings [] = .ok settings from loads]
      rfl
  | some installed =>
      rw [there] at loads
      cases loads
      have same : session.install settings = session := by rw [install, ← there]
      rw [same]

/-- Nothing is assigned before the settings have been read. -/
theorem loadSettings_of_error {fault : SettingsFault} (refused : session.inForce = .error fault) :
    session.loadSettings = (.error fault, session) := by
  rw [inForce] at refused
  rw [loadSettings]
  cases there : session.settings with
  | none =>
      rw [there] at refused
      rw [show session.readSettings [] = .error fault from refused]
  | some installed =>
      rw [there] at refused
      cases refused

/-- A cache that is there is opened without a change. -/
theorem openCache_of_some {cache : TemplateCache} (there : session.cache = some cache) :
    session.openCache = (.ok cache, session) := by
  rw [openCache, there]

/-- A cache that is opened comes from the settings in force, which are loaded then. -/
theorem openCache_of_ok (absent : session.cache = none) {settings : Settings}
    (loads : session.inForce = .ok settings) : session.openCache =
      let cache := TemplateCache.empty settings.cacheMaxSize settings.cacheTtl true
      (.ok cache, { session.install settings with cache := some cache }) := by
  rw [openCache, absent, loadSettings_of_ok loads]

/-- Without settings there is no cache to open, and nothing has been assigned. -/
theorem openCache_of_error (absent : session.cache = none) {fault : SettingsFault}
    (refused : session.inForce = .error fault) : session.openCache = (.error fault, session) := by
  rw [openCache, absent, loadSettings_of_error refused]

/-- The cache is there already, or the settings in force decide whether it can be opened. -/
theorem openCache_cases (session : Session) :
    (∃ cache next, session.openCache = (.ok cache, next)) ∨
      ∃ fault, session.openCache = (.error fault, session) ∧ session.cache = none ∧
        session.inForce = .error fault := by
  cases there : session.cache with
  | some cache => exact .inl ⟨_, _, openCache_of_some there⟩
  | none =>
      cases loads : session.inForce with
      | ok settings => exact .inl ⟨_, _, openCache_of_ok there loads⟩
      | error fault => exact .inr ⟨fault, openCache_of_error there loads, rfl, rfl⟩

/-- A session with a transparent cache is transparent. -/
theorem isTransparent_of_some {cache : TemplateCache} (there : session.cache = some cache)
    (transparent : cache.IsTransparent) : session.IsTransparent := by
  intro other same
  rw [there] at same
  exact Option.some.inj same ▸ transparent

/-- Only the cache counts. -/
theorem isTransparent_of_eq {next : Session} (transparent : session.IsTransparent)
    (same : next.cache = session.cache) : next.IsTransparent := by
  rwa [IsTransparent, same]

/-- Opening the cache leaves it transparent and the settings in force. -/
theorem openCache_ensures (transparent : session.IsTransparent) {cache : TemplateCache}
    {next : Session} (opens : session.openCache = (.ok cache, next)) :
    cache.IsTransparent ∧ next.IsTransparent ∧ next.inForce = session.inForce := by
  cases there : session.cache with
  | some cache =>
      rw [openCache_of_some there] at opens
      cases opens
      exact ⟨transparent _ there, transparent, rfl⟩
  | none =>
      cases loads : session.inForce with
      | error fault =>
          rw [openCache_of_error there loads] at opens
          cases opens
      | ok settings =>
          rw [openCache_of_ok there loads] at opens
          cases opens
          have newTransparent : (TemplateCache.empty settings.cacheMaxSize settings.cacheTtl
              true).IsTransparent := TemplateCache.isTransparent_of_empty rfl
          exact ⟨newTransparent, isTransparent_of_some rfl newTransparent, rfl⟩

/-- A session whose cache cannot be opened is left as it is, and an open cache is transparent. -/
theorem isTransparent_openCache (transparent : session.IsTransparent) :
    session.openCache.2.IsTransparent := by
  rcases session.openCache_cases with ⟨cache, next, opens⟩ | ⟨fault, refused, _⟩
  · rw [opens]
    exact (openCache_ensures transparent opens).2.1
  · rw [refused]
    exact transparent

/-- A cache is missing only as long as no settings can be loaded. -/
theorem openCache_of_inForce {settings : Settings} (loads : session.inForce = .ok settings) :
    ∃ cache next, session.openCache = (.ok cache, next) := by
  refine session.openCache_cases.resolve_right ?_
  rintro ⟨fault, _, _, refused⟩
  rw [loads] at refused
  cases refused

/-- Without a cache that can be opened, compiling fails and leaves what opening left. -/
theorem compile_of_error {fault : SettingsFault} {left : Session}
    (refused : session.openCache = (.error fault, left)) (value : Value) :
    session.compile value true = (.error (.settings fault), left) := by
  rw [compile, if_pos rfl, compileCached, refused]

/-- With an open cache, compiling is a parse of the cache. -/
theorem compile_of_ok {cache : TemplateCache} {next : Session}
    (opens : session.openCache = (.ok cache, next)) (value : Value) :
    session.compile value true =
      let parsed := CacheState.parse ⟨cache, next.supply⟩ value
      (parsed.1.mapError .parse, next.withCacheState parsed.2) := by
  rw [compile, if_pos rfl, compileCached, opens]
  rfl

/-- Compiling leaves the cache transparent, whether it is used or not. -/
theorem isTransparent_compile (transparent : session.IsTransparent) (value : Value)
    (usesCache : Bool) : (session.compile value usesCache).2.IsTransparent := by
  cases usesCache with
  | false => exact transparent
  | true =>
      rcases session.openCache_cases with ⟨cache, next, opens⟩ | ⟨fault, refused, _⟩
      · rw [compile_of_ok opens]
        have openedTransparent := (openCache_ensures transparent opens).1
        exact isTransparent_of_some rfl (CacheState.isTransparent_parse openedTransparent value)
      · rw [compile_of_error refused]
        exact transparent

/-- A change of the value and one of the error do not get in each other's way. -/
theorem map_mapError {α β ε δ : Type} (result : Except ε α) (change : α → β) (wrap : ε → δ) :
    (result.mapError wrap).map change = (result.map change).mapError wrap := by
  cases result <;> rfl

/-- What compiling gives does not depend on whether the cache is used. -/
theorem compile_ensures (transparent : session.IsTransparent) {settings : Settings}
    (loads : session.inForce = .ok settings) (value : Value) (usesCache : Bool) :
    (session.compile value usesCache).1.map ParsedTemplate.template =
        (Template.ofValue value).mapError .parse ∧
      (session.compile value usesCache).2.inForce = .ok settings := by
  cases usesCache with
  | false =>
      refine ⟨?_, loads⟩
      rw [← session.supply.parse_template value]
      exact map_mapError _ _ _
  | true =>
      obtain ⟨cache, next, opens⟩ := openCache_of_inForce loads
      obtain ⟨openedTransparent, _, sameSettings⟩ := openCache_ensures transparent opens
      rw [compile_of_ok opens]
      refine ⟨?_, sameSettings.trans loads⟩
      rw [map_mapError, CacheState.parse_transparent openedTransparent value]

/-- Loading settings has nothing to do with the cache. -/
theorem cache_loadSettings (session : Session) :
    session.loadSettings.2.cache = session.cache := by
  cases loads : session.inForce with
  | ok settings => rw [loadSettings_of_ok loads, install]
  | error fault => rw [loadSettings_of_error loads]

/-- Configuring does not touch the cache. -/
theorem cache_configure (session : Session) (overrides : Dictionary Value) :
    (session.configure overrides).2.cache = session.cache := by
  rw [configure]
  cases session.readSettings overrides <;> rfl

/-- Expanding asks the settings at most. -/
theorem expandTemplate_ensures {P : Session → Prop} (here : P session)
    (behindSettings : P session.loadSettings.2) (template : Template) (bindings : Bindings)
    (strict : Option Bool) : P (session.expandTemplate template bindings strict).2 := by
  rw [expandTemplate]
  cases template.written bindings with
  | error fault => exact here
  | ok result =>
      cases strict with
      | some strict => exact here
      | none =>
          rw [isStrict]
          revert behindSettings
          rcases session.loadSettings with ⟨fault | settings, left⟩ <;> exact id

/-- Whatever holds behind reading a template, and is kept by its use, holds behind both. -/
theorem withTemplate_ensures {P : Session → Prop} {value : Value} {isParsed : Bool}
    {use : Session → Template → Except SessionError SessionOutcome × Session}
    (compiled : P (session.compile value (!isParsed)).2)
    (used : ∀ next template, P next → P (use next template).2) :
    P (session.withTemplate value isParsed use).2 := by
  rw [withTemplate]
  split
  · next answered =>
      rw [answered] at compiled
      exact used _ _ compiled
  · next refused =>
      rw [refused] at compiled
      exact compiled

/-- No honest action on a session makes its cache answer with another template. -/
theorem isTransparent_perform (transparent : session.IsTransparent) {action : SessionAction}
    (honest : action.IsHonest) : (session.perform action).2.IsTransparent := by
  cases action with
  | setCache cache =>
      cases cache with
      | none =>
          intro cache there
          cases there
      | some cache => exact isTransparent_of_some rfl honest.isTransparent
  | getSettings => exact isTransparent_of_eq transparent (cache_loadSettings session)
  | configure overrides => exact isTransparent_of_eq transparent (cache_configure session overrides)
  | getCache => exact isTransparent_openCache transparent
  | invalidate key =>
      change (session.invalidate key).2.IsTransparent
      rw [invalidate]
      rcases session.openCache_cases with ⟨cache, next, opens⟩ | ⟨fault, refused, _⟩
      · rw [opens]
        exact isTransparent_of_some rfl
          (TemplateCache.isTransparent_invalidate (openCache_ensures transparent opens).1 key)
      · rw [refused]
        exact transparent
  | compile value usesCache => exact isTransparent_compile transparent value usesCache
  | expand value isParsed bindings strict =>
      exact withTemplate_ensures (isTransparent_compile transparent value _) fun next _ kept =>
        expandTemplate_ensures kept (isTransparent_of_eq kept (cache_loadSettings next)) _ _ _
  | variableNames value isParsed =>
      exact withTemplate_ensures (isTransparent_compile transparent value _) fun _ _ => id
  | canonical value isParsed =>
      exact withTemplate_ensures (isTransparent_compile transparent value _) fun _ _ => id
  | _ => exact transparent

/-- The induction follows the actions on the session and on its cache. -/
theorem IsReachable.isTransparent (reachable : session.IsReachable) : session.IsTransparent := by
  induction reachable with
  | initial =>
      intro cache there
      cases there
  | perform _ honest inductionHypothesis => exact isTransparent_perform inductionHypothesis honest
  | operate _ there honest isBefore inductionHypothesis =>
      exact isTransparent_of_some rfl
        (CacheState.isTransparent_behind (inductionHypothesis _ there) honest isBefore)

/-- What expanding a value gives if it is read anew. -/
def expanded (value : Value) (bindings : Bindings) (strict : Bool) :
    Except SessionError Text :=
  match Template.ofValue value with
  | .ok template => (template.tryExpand bindings strict).mapError .expansion
  | .error error => .error (.parse error)

/-- Where nothing is said of checking the result, the settings in force decide. -/
theorem expandTemplate_of_inForce {settings : Settings} (loads : session.inForce = .ok settings)
    (template : Template) (bindings : Bindings) (strict : Option Bool) :
    (session.expandTemplate template bindings strict).1 =
      (template.tryExpand bindings (strict.getD settings.strict)).mapError .expansion := by
  have decides : (session.isStrict strict).1 = .ok (strict.getD settings.strict) := by
    cases strict with
    | some strict => rfl
    | none =>
        rw [isStrict, loadSettings_of_ok loads]
        rfl
  rw [expandTemplate, Template.tryExpand]
  cases template.written bindings with
  | error fault => rfl
  | ok result =>
      revert decides
      rcases session.isStrict strict with ⟨fault | checks, left⟩
      · intro refused
        cases refused
      · rintro ⟨⟩
        change (Template.accept _ result).mapError (SessionError.expansion ∘ .invalid) =
          ((Template.accept _ result).mapError .invalid).mapError .expansion
        cases Template.accept (strict.getD settings.strict) result <;> rfl

/-- Expanding gives what it gives if the value is read anew. -/
theorem expand_ensures (transparent : session.IsTransparent) {settings : Settings}
    (loads : session.inForce = .ok settings) (value : Value) (isParsed : Bool)
    (bindings : Bindings) (strict : Option Bool) :
    (session.perform (.expand value isParsed bindings strict)).1 =
      (expanded value bindings (strict.getD settings.strict)).map .text := by
  obtain ⟨sameTemplate, stillLoads⟩ := compile_ensures transparent loads value (!isParsed)
  rw [perform, withTemplate, expanded]
  split
  · next answered =>
      rw [answered] at sameTemplate stillLoads
      cases read : Template.ofValue value with
      | error error =>
          rw [read] at sameTemplate
          cases sameTemplate
      | ok template =>
          rw [read] at sameTemplate
          obtain rfl := Except.ok.inj sameTemplate
          exact congrArg (Except.map SessionOutcome.text)
            (expandTemplate_of_inForce stillLoads _ bindings strict)
  · next refused =>
      rw [refused] at sameTemplate
      cases read : Template.ofValue value with
      | error error =>
          rw [read] at sameTemplate
          obtain rfl := Except.error.inj sameTemplate
          rfl
      | ok template =>
          rw [read] at sameTemplate
          cases sameTemplate

/-- A cache that was empty, and under whose keys only their own templates were put, answers every
lookup with the template that its key is read as, and parses every value as it is read without a
cache. So at any point of a session whose settings can be loaded compiling and expanding give the
same with the cache and without it. -/
theorem cache_transparent :
    (∀ (maxSize : Int) (ttl : Option Duration) (countsStatistics : Bool) (supply : Supply)
      (propagates : Bool) (actions : List CacheAction) (past : List CacheMoment),
      (∀ action ∈ CacheAction.allSingles actions, action.IsHonest) →
      let start : CacheState := ⟨.empty maxSize ttl countsStatistics, supply⟩
      let state := start.behind past
      past <+: start.allMoments propagates actions →
        (∀ key parsed, (state.cache.get key state.supply.now).1 = some parsed →
          parsed.template.raw = key ∧ Template.parse key = .ok parsed.template) ∧
        (∀ key parsed, (state.parse (.text key)).1 = .ok parsed →
          parsed.template.raw = key ∧ Template.parse key = .ok parsed.template) ∧
        ∀ value, (state.parse value).1.map ParsedTemplate.template = Template.ofValue value) ∧
    ∀ (session : Session) (settings : Settings), session.IsReachable →
      session.loadSettings.1 = .ok settings →
        (∀ value usesCache, (session.compile value usesCache).1.map ParsedTemplate.template =
          (Template.ofValue value).mapError .parse) ∧
        ∀ value isParsed bindings strict,
          (session.perform (.expand value isParsed bindings strict)).1 =
            (expanded value bindings (strict.getD settings.strict)).map .text := by
  constructor
  · intro maxSize ttl countsStatistics supply propagates actions past honest start state isBefore
    have transparent : state.cache.IsTransparent :=
      CacheState.isTransparent_behind (TemplateCache.isTransparent_of_empty rfl) honest isBefore
    have parses := CacheState.parse_transparent transparent
    refine ⟨?_, ?_, parses⟩
    · intro key parsed answered
      have read := CacheState.lookup_transparent transparent answered
      exact ⟨Template.raw_of_parse read, read⟩
    · intro key parsed answered
      have read := parses (.text key)
      rw [answered] at read
      exact ⟨Template.raw_of_parse read.symm, read.symm⟩
  · intro session settings reachable loads
    have transparent := reachable.isTransparent
    rw [loadSettings_fst] at loads
    exact ⟨fun value usesCache => (compile_ensures transparent loads value usesCache).1,
      expand_ensures transparent loads⟩

theorem cache_transparent_variable :
    let key : Text := "\x7ba\x7d"
    let start : CacheState := ⟨.empty 1 (some (.whole 5)) true, ⟨1000, 1, 1⟩⟩
    let state := start.behind (start.allMoments false [.put key key 0])
    let session := ((Session.initial [] ⟨1000, 1, 1⟩).perform (.compile (.text key) true)).2
    (state.cache.get key state.supply.now).1.isSome = true ∧
      (state.parse (.text key)).1.map ParsedTemplate.template = Template.parse key ∧
      session.cache.map TemplateCache.keys = some [key] ∧
      ∀ usesCache, (session.compile (.text key) usesCache).1.map ParsedTemplate.template =
        (Template.parse key).mapError .parse := by
  intro key start state session
  obtain ⟨ofCache, ofSession⟩ := cache_transparent
  have honest : ∀ action ∈ CacheAction.allSingles [.put key key 0], action.IsHonest := by
    intro action member
    rw [List.mem_singleton.mp member]
    exact rfl
  have reachable : session.IsReachable := .perform (.initial [] ⟨1000, 1, 1⟩) trivial
  have loads : session.loadSettings.1 = .ok Settings.default := by decide +kernel
  obtain ⟨_, _, parses⟩ :=
    ofCache 1 (some (.whole 5)) true ⟨1000, 1, 1⟩ false _ _ honest List.prefix_rfl
  exact ⟨by decide +kernel, parses (.text key), by decide +kernel,
    (ofSession session _ reachable loads).1 (.text key)⟩

end Session

end UriTemplate
