import UriTemplate.Proofs.Cache.Options
import UriTemplate.Proofs.Session.Transparency

namespace UriTemplate

namespace SessionAction

/-- The actions that change a variable of the environment. -/
def ChangesVariable : SessionAction → Prop
  | .setVariable _ _ => True
  | _ => False

/-- The actions that put other settings in place of the loaded ones or forget them. -/
def ChangesSettings : SessionAction → Prop
  | .resetSettings => True
  | .configure _ => True
  | .install _ => True
  | _ => False

/-- The action that puts another cache in place of the open one or closes it. -/
def ChangesCache : SessionAction → Prop
  | .setCache _ => True
  | _ => False

/-- The actions that open the cache and need settings for nothing else. -/
def OpensCache : SessionAction → Prop
  | .getCache => True
  | .invalidate _ => True
  | .compile _ usesCache => usesCache = true
  | .variableNames _ isParsed => isParsed = false
  | .canonical _ isParsed => isParsed = false
  | _ => False

/-- What opens the cache replaces neither the settings nor the cache. -/
theorem OpensCache.not_changes {action : SessionAction} (opensCache : action.OpensCache) :
    ¬action.ChangesSettings ∧ ¬action.ChangesCache := by
  cases action <;> simp_all [OpensCache, ChangesSettings, ChangesCache]

end SessionAction

namespace Session

/-- The session behind some actions. -/
def behind (session : Session) (actions : List SessionAction) : Session :=
  actions.foldl (fun session action => (session.perform action).2) session

/-- Loaded settings stay as they are, and an open cache stays open with its options. -/
structure Keeps (session next : Session) : Prop where
  settings : ∀ settings, session.settings = some settings → next.settings = some settings
  options : ∀ cache, session.cache = some cache →
    ∃ kept, next.cache = some kept ∧ kept.options = cache.options

variable {session next : Session}

theorem Keeps.refl (session : Session) : session.Keeps session :=
  ⟨fun _ => id, fun cache there => ⟨cache, there, rfl⟩⟩

theorem Keeps.trans {last : Session} (first : session.Keeps next) (second : next.Keeps last) :
    session.Keeps last := by
  refine ⟨fun settings loaded => second.settings settings (first.settings settings loaded), ?_⟩
  intro cache there
  obtain ⟨kept, isKept, sameOptions⟩ := first.options cache there
  obtain ⟨keptLater, isKeptLater, sameLater⟩ := second.options kept isKept
  exact ⟨keptLater, isKeptLater, sameLater.trans sameOptions⟩

/-- The same settings and the same cache are kept. -/
theorem keeps_of_same (sameSettings : next.settings = session.settings)
    (sameCache : next.cache = session.cache) : session.Keeps next :=
  ⟨fun _ loaded => sameSettings.trans loaded,
    fun cache there => ⟨cache, sameCache.trans there, rfl⟩⟩

/-- Settings that are loaded already stay, and loading does not touch the cache. -/
theorem keeps_loadSettings (session : Session) : session.Keeps session.loadSettings.2 := by
  refine ⟨fun settings loaded => ?_, fun cache there => ⟨cache, ?_, rfl⟩⟩
  · rw [loadSettings, loaded]
    exact loaded
  · rw [cache_loadSettings, there]

/-- A cache that is opened comes from the settings in force, which are loaded then. -/
theorem openCache_of_absent (absent : session.cache = none) {cache : TemplateCache}
    (opens : session.openCache = (.ok cache, next)) : ∃ settings,
      session.inForce = .ok settings ∧
      cache = .empty settings.cacheMaxSize settings.cacheTtl true ∧
      next = { session.install settings with cache := some cache } := by
  cases loads : session.inForce with
  | error fault =>
      rw [openCache_of_error absent loads] at opens
      cases opens
  | ok settings =>
      rw [openCache_of_ok absent loads] at opens
      cases opens
      exact ⟨settings, rfl, rfl, rfl⟩

/-- Behind its opening the cache is there. -/
theorem keeps_openCache {cache : TemplateCache} (opens : session.openCache = (.ok cache, next)) :
    next.cache = some cache ∧ session.Keeps next := by
  cases there : session.cache with
  | some cache =>
      rw [openCache_of_some there] at opens
      cases opens
      exact ⟨there, .refl session⟩
  | none =>
      obtain ⟨settings, loads, _, rfl⟩ := openCache_of_absent there opens
      have keeps := keeps_loadSettings session
      rw [loadSettings_of_ok loads] at keeps
      refine ⟨rfl, keeps.settings, fun cache isThere => ?_⟩
      rw [there] at isThere
      cases isThere

/-- Opening fails only if there are neither settings nor a cache, and then nothing is changed. -/
theorem openCache_of_refused {fault : SettingsFault}
    (refused : session.openCache.1 = .error fault) :
    session.openCache = (.error fault, session) ∧ session.settings = none ∧
      session.cache = none := by
  rcases session.openCache_cases with ⟨cache, next, opens⟩ | ⟨found, fails, absent, notInForce⟩
  · rw [opens] at refused
    cases refused
  · rw [fails] at refused
    cases refused
    refine ⟨fails, ?_, absent⟩
    cases loaded : session.settings with
    | none => rfl
    | some settings =>
        rw [inForce, loaded] at notInForce
        cases notInForce

/-- The entries and the statistics of an open cache may change. -/
theorem keeps_of_options {cache kept : TemplateCache}
    (sameSettings : next.settings = session.settings) (there : session.cache = some cache)
    (isKept : next.cache = some kept) (sameOptions : kept.options = cache.options) :
    session.Keeps next := by
  refine ⟨fun _ loaded => sameSettings.trans loaded, fun other isThere => ⟨kept, isKept, ?_⟩⟩
  rw [there] at isThere
  exact Option.some.inj isThere ▸ sameOptions

/-- Compiling keeps the settings and the options of the cache. -/
theorem keeps_compile (session : Session) (value : Value) (usesCache : Bool) :
    session.Keeps (session.compile value usesCache).2 := by
  cases usesCache with
  | false => exact keeps_of_same rfl rfl
  | true =>
      rcases session.openCache_cases with ⟨cache, next, opens⟩ | ⟨fault, refused, _⟩
      · rw [compile_of_ok opens]
        obtain ⟨there, keeps⟩ := keeps_openCache opens
        exact keeps.trans (keeps_of_options rfl there rfl (CacheState.options_parse _ value))
      · rw [compile_of_error refused]
        exact .refl session

/-- Emptying a cache leaves its options alone. -/
theorem keeps_invalidate (session : Session) (key : Option Text) :
    session.Keeps (session.invalidate key).2 := by
  rw [invalidate]
  rcases session.openCache_cases with ⟨cache, next, opens⟩ | ⟨fault, refused, _⟩
  · rw [opens]
    obtain ⟨there, keeps⟩ := keeps_openCache opens
    have sameOptions : (cache.invalidate key).options = cache.options := by cases key <;> rfl
    exact keeps.trans (keeps_of_options rfl there rfl sameOptions)
  · rw [refused]
    exact .refl session

/-- Only what changes the settings or the cache itself does not keep them. -/
theorem keeps_perform {action : SessionAction} (sameSettings : ¬action.ChangesSettings)
    (sameCache : ¬action.ChangesCache) : session.Keeps (session.perform action).2 := by
  have keepsUse (value : Value) (isParsed : Bool)
      {use : Session → Template → Except SessionError SessionOutcome × Session}
      (keeps : ∀ (next : Session) (template : Template), next.Keeps (use next template).2) :
      session.Keeps (session.withTemplate value isParsed use).2 :=
    withTemplate_ensures (keeps_compile session value _) fun _ _ kept => kept.trans (keeps _ _)
  cases action with
  | setVariable | advance => exact keeps_of_same rfl rfl
  | getSettings => exact keeps_loadSettings session
  | getCache =>
      change session.Keeps session.openCache.2
      rcases session.openCache_cases with ⟨cache, next, opens⟩ | ⟨fault, refused, _⟩
      · rw [opens]
        exact (keeps_openCache opens).2
      · rw [refused]
        exact .refl session
  | invalidate key => exact keeps_invalidate session key
  | compile value usesCache => exact keeps_compile session value usesCache
  | expand value isParsed bindings strict =>
      exact keepsUse value isParsed fun next _ =>
        expandTemplate_ensures (.refl next) (keeps_loadSettings next) _ _ _
  | variableNames value isParsed => exact keepsUse value isParsed fun next _ => .refl next
  | canonical value isParsed => exact keepsUse value isParsed fun next _ => .refl next
  | resetSettings | configure | install => exact absurd trivial sameSettings
  | setCache => exact absurd trivial sameCache

/-- Whatever needs the cache fails without it, and nothing is changed. -/
theorem perform_of_refused {action : SessionAction} (opensCache : action.OpensCache)
    {fault : SettingsFault} (refused : session.openCache = (.error fault, session)) :
    session.perform action = (.error (.settings fault), session) := by
  cases action with
  | getCache =>
      rw [perform, refused]
      rfl
  | invalidate key =>
      rw [perform, invalidate, refused]
      rfl
  | compile value usesCache =>
      obtain rfl : usesCache = true := opensCache
      rw [perform, compile_of_error refused]
      rfl
  | variableNames value isParsed | canonical value isParsed =>
      obtain rfl : isParsed = false := opensCache
      rw [perform, withTemplate, Bool.not_false, compile_of_error refused]
  | _ => exact opensCache.elim

/-- It makes no difference if the cache is opened first. -/
theorem perform_of_opened {action : SessionAction} (opensCache : action.OpensCache)
    {cache : TemplateCache} (opens : session.openCache = (.ok cache, next)) :
    session.perform action = next.perform action := by
  have opensAgain : next.openCache = (.ok cache, next) :=
    openCache_of_some (keeps_openCache opens).1
  cases action with
  | getCache => rw [perform, perform, opens, opensAgain]
  | invalidate key => rw [perform, perform, invalidate, invalidate, opens, opensAgain]
  | compile value usesCache =>
      obtain rfl : usesCache = true := opensCache
      rw [perform, perform, compile_of_ok opens, compile_of_ok opensAgain]
  | variableNames value isParsed | canonical value isParsed =>
      obtain rfl : isParsed = false := opensCache
      rw [perform, perform, withTemplate, withTemplate, Bool.not_false, compile_of_ok opens,
        compile_of_ok opensAgain]
  | _ => exact opensCache.elim

/-- An answer is an error only if what it answers failed. -/
theorem eq_error_of_answer {α : Type} {done : Except SettingsFault α × Session}
    {outcome : α → SessionOutcome} {error : SessionError}
    (fails : (answer done outcome).1 = .error error) :
    ∃ fault, done.1 = .error fault ∧ .settings fault = error := by
  obtain ⟨result, left⟩ := done
  cases result with
  | error fault => exact ⟨fault, rfl, Except.error.inj fails⟩
  | ok value => cases fails

/-- The settings are assigned when they have been read, and not before. -/
theorem configure_of_error {overrides : Dictionary Value} {fault : SettingsFault}
    (fails : (session.configure overrides).1 = .error fault) :
    (session.configure overrides).2 = session := by
  rw [configure] at fails ⊢
  cases reads : session.readSettings overrides with
  | error => rfl
  | ok settings =>
      rw [reads] at fails
      cases fails

/-- Settings that cannot be loaded were not loaded before. -/
theorem loadSettings_of_refused {fault : SettingsFault}
    (fails : session.loadSettings.1 = .error fault) :
    session.loadSettings.2 = session ∧ session.settings = none := by
  rw [loadSettings_fst] at fails
  refine ⟨by rw [loadSettings_of_error fails], ?_⟩
  cases loaded : session.settings with
  | none => rfl
  | some settings =>
      rw [inForce, loaded] at fails
      cases fails

/-- Reading a template fails for other reasons once the cache is open. -/
theorem openCache_of_compile_error {value : Value} {fault : SettingsFault}
    (fails : (session.compile value true).1 = .error (.settings fault)) :
    session.openCache.1 = .error fault := by
  rcases session.openCache_cases with ⟨cache, next, opens⟩ | ⟨other, refused, _⟩
  · rw [compile_of_ok opens] at fails
    cases parsed : (CacheState.parse ⟨cache, next.supply⟩ value).1 <;>
      simp [parsed, Except.mapError] at fails
  · rw [compile_of_error refused] at fails
    rw [refused]
    cases fails
    rfl

/-- A use that cannot fail leaves only reading the template to fail. -/
theorem compile_of_withTemplate_error {value : Value} {isParsed : Bool}
    {outcome : Template → SessionOutcome} {error : SessionError}
    (fails : (session.withTemplate value isParsed fun next template =>
      (.ok (outcome template), next)).1 = .error error) :
    (session.compile value (!isParsed)).1 = .error error := by
  rw [withTemplate] at fails
  split at fails
  · cases fails
  · next refused =>
      rw [refused]
      exact congrArg Except.error (Except.error.inj fails)

/-- Settings that cannot be loaded prevent what needs the cache only if it is not open. -/
theorem openCache_of_perform_error {action : SessionAction} (opensCache : action.OpensCache)
    {fault : SettingsFault} (fails : (session.perform action).1 = .error (.settings fault)) :
    session.openCache.1 = .error fault := by
  cases action with
  | getCache =>
      obtain ⟨_, refused, ⟨⟩⟩ := eq_error_of_answer fails
      exact refused
  | invalidate key =>
      obtain ⟨_, refused, ⟨⟩⟩ := eq_error_of_answer fails
      rw [invalidate] at refused
      revert refused
      rcases session.openCache with ⟨found | cache, left⟩
      · intro refused
        exact congrArg Except.error (Except.error.inj refused)
      · intro invalidated
        cases invalidated
  | compile value usesCache =>
      obtain rfl : usesCache = true := opensCache
      exact openCache_of_compile_error (eq_error_of_map fails)
  | variableNames value isParsed | canonical value isParsed =>
      obtain rfl : isParsed = false := opensCache
      exact openCache_of_compile_error (compile_of_withTemplate_error fails)
  | _ => exact opensCache.elim

section Runs

variable {actions : List SessionAction}

/-- The last action is done on what the others leave. -/
theorem behind_concat (session : Session) (actions : List SessionAction) (action : SessionAction) :
    session.behind (actions ++ [action]) = ((session.behind actions).perform action).2 := by
  simp only [behind, List.foldl_append, List.foldl_cons, List.foldl_nil]

/-- What every allowed action preserves holds behind a run of allowed actions. -/
theorem behind_ensures {P : Session → Prop} {allowed : SessionAction → Prop}
    (step : ∀ session action, allowed action → P session → P (session.perform action).2)
    (holds : P session) (areAllowed : ∀ action ∈ actions, allowed action) :
    P (session.behind actions) := by
  induction actions using List.reverseRecOn with
  | nil => exact holds
  | append_singleton actions action inductionHypothesis =>
      rw [behind_concat]
      exact step _ action (areAllowed action (by simp))
        (inductionHypothesis fun earlier member => areAllowed earlier (by simp [member]))

end Runs

/-- Loaded settings stay in force until they are forgotten or replaced. -/
theorem settings_perform {action : SessionAction} (sameSettings : ¬action.ChangesSettings)
    {settings : Settings} (loaded : session.settings = some settings) :
    (session.perform action).2.settings = some settings := by
  by_cases changesCache : action.ChangesCache
  · cases action with
    | setCache cache => exact loaded
    | _ => exact changesCache.elim
  · exact (keeps_perform sameSettings changesCache).settings settings loaded

/-- An open cache keeps its options until it is replaced, whatever becomes of the settings. -/
theorem options_perform {action : SessionAction} (sameCache : ¬action.ChangesCache)
    {options : Int × Option Duration × Bool}
    (opened : session.cache.map TemplateCache.options = some options) :
    (session.perform action).2.cache.map TemplateCache.options = some options := by
  by_cases changesSettings : action.ChangesSettings
  · cases action with
    | resetSettings | install => exact opened
    | configure overrides =>
        change (session.configure overrides).2.cache.map TemplateCache.options = some options
        rwa [cache_configure]
    | _ => exact changesSettings.elim
  · obtain ⟨cache, there, rfl⟩ := Option.map_eq_some_iff.mp opened
    obtain ⟨kept, isKept, sameOptions⟩ :=
      (keeps_perform changesSettings sameCache).options cache there
    rw [isKept, Option.map_some, sameOptions]

/-- Without settings and a cache nothing but the environment and the supply is left, and only the
environment changes with its variables. -/
theorem behind_eq_initial {repairs : List SessionAction} (noSettings : session.settings = none)
    (noCache : session.cache = none) (areRepairs : ∀ repair ∈ repairs, repair.ChangesVariable) :
    session.behind repairs = .initial (session.behind repairs).environment session.supply := by
  have isLeft : (session.behind repairs).settings = none ∧
      (session.behind repairs).cache = none ∧
      (session.behind repairs).supply = session.supply := by
    refine behind_ensures (P := fun next => next.settings = none ∧ next.cache = none ∧
      next.supply = session.supply) (fun next action changesVariable kept => ?_)
      ⟨noSettings, noCache, rfl⟩ areRepairs
    cases action with
    | setVariable name value => exact kept
    | _ => exact changesVariable.elim
  revert isLeft
  cases session.behind repairs
  rintro ⟨rfl, rfl, rfl⟩
  rfl

/-- The first use of the cache loads the settings and makes a cache from them. -/
theorem perform_initial {action : SessionAction} (opensCache : action.OpensCache)
    {environment : Dictionary Text} {supply : Supply} {settings : Settings}
    (loads : (Session.initial environment supply).readSettings [] = .ok settings) :
    let performed := (Session.initial environment supply).perform action
    (∀ fault, performed.1 ≠ .error (.settings fault)) ∧
      performed.2.settings = some settings ∧
      ∃ cache, performed.2.cache = some cache ∧
        cache.options = (settings.cacheMaxSize, settings.cacheTtl, true) := by
  intro performed
  obtain ⟨opened, next, opens⟩ : ∃ opened next,
      (Session.initial environment supply).openCache = (.ok opened, next) :=
    openCache_of_inForce loads
  obtain ⟨loaded, isInForce, isNew, same⟩ := openCache_of_absent rfl opens
  obtain rfl : settings = loaded := Except.ok.inj (loads.symm.trans isInForce)
  refine ⟨fun fault fails => ?_, ?_⟩
  · have refused := openCache_of_perform_error opensCache fails
    rw [opens] at refused
    cases refused
  · have keeps : next.Keeps performed.2 := by
      have ⟨sameSettings, sameCache⟩ := opensCache.not_changes
      rw [show performed = next.perform action from perform_of_opened opensCache opens]
      exact keeps_perform sameSettings sameCache
    obtain ⟨cache, there, sameOptions⟩ := keeps.options opened (keeps_openCache opens).1
    have isLoaded : next.settings = some settings := by
      rw [same]
      rfl
    refine ⟨keeps.settings settings isLoaded, cache, there, ?_⟩
    rw [sameOptions, isNew]
    rfl

/-- At any point of a session settings that cannot be loaded leave it as it was. What needed them
for a cache leaves neither settings nor a cache behind, so that after changes of the environment it
does what it does on its first use, and makes the cache from the settings if they can be loaded now.
Loaded settings do not depend on the environment any longer, and the limits of an open cache depend
neither on it nor on the settings. -/
theorem settings_failures_leave_session :
    (∀ (session : Session) (overrides : Dictionary Value) (error : SessionError),
      (session.perform (.configure overrides)).1 = .error error →
        (session.perform (.configure overrides)).2 = session) ∧
    (∀ (session : Session) (error : SessionError),
      (session.perform .getSettings).1 = .error error →
        (session.perform .getSettings).2 = session ∧ session.settings = none) ∧
    (∀ (session : Session) (action : SessionAction) (fault : SettingsFault), action.OpensCache →
      (session.perform action).1 = .error (.settings fault) →
        let left := (session.perform action).2
        left.settings = none ∧ left.cache = none ∧
          ∀ repairs, (∀ repair ∈ repairs, repair.ChangesVariable) →
            let repaired := left.behind repairs
            let first := Session.initial repaired.environment left.supply
            repaired.perform action = first.perform action ∧
              ∀ settings, first.readSettings [] = .ok settings →
                (∀ again, (repaired.perform action).1 ≠ .error (.settings again)) ∧
                (repaired.perform action).2.settings = some settings ∧
                ∃ cache, (repaired.perform action).2.cache = some cache ∧
                  cache.maxSize = settings.cacheMaxSize ∧ cache.ttl = settings.cacheTtl) ∧
    (∀ (session : Session) (settings : Settings) (actions : List SessionAction),
      session.settings = some settings → (∀ action ∈ actions, ¬action.ChangesSettings) →
        ((session.behind actions).perform .getSettings).1 = .ok (.settings settings)) ∧
    ∀ (session : Session) (cache : TemplateCache) (actions : List SessionAction),
      session.cache = some cache → (∀ action ∈ actions, ¬action.ChangesCache) →
        ((session.behind actions).perform .getCache).1 =
          .ok (.limits cache.maxSize cache.ttl) := by
  refine ⟨?_, ?_, ?_, ?_, ?_⟩
  · intro session overrides error fails
    obtain ⟨fault, refused, _⟩ := eq_error_of_answer fails
    exact configure_of_error refused
  · intro session error fails
    obtain ⟨fault, refused, _⟩ := eq_error_of_answer fails
    exact loadSettings_of_refused refused
  · intro session action fault opensCache fails left
    obtain ⟨refused, noSettings, noCache⟩ :=
      openCache_of_refused (openCache_of_perform_error opensCache fails)
    have isLeft : left = session := by
      rw [show left = (session.perform action).2 from rfl, perform_of_refused opensCache refused]
    rw [isLeft]
    refine ⟨noSettings, noCache, ?_⟩
    intro repairs areRepairs repaired first
    have isFirst : repaired = first := behind_eq_initial noSettings noCache areRepairs
    rw [isFirst]
    refine ⟨rfl, fun settings loads => ?_⟩
    obtain ⟨noFault, loaded, cache, there, isOptions⟩ := perform_initial opensCache loads
    exact ⟨noFault, loaded, cache, there, congrArg Prod.fst isOptions,
      congrArg (fun options => options.2.1) isOptions⟩
  · intro session settings actions loaded keepSettings
    have still : (session.behind actions).settings = some settings :=
      behind_ensures (P := fun next => next.settings = some settings)
        (fun _ _ sameSettings => settings_perform sameSettings) loaded keepSettings
    rw [perform, loadSettings, still]
    rfl
  · intro session cache actions there keepCache
    have still : (session.behind actions).cache.map TemplateCache.options = some cache.options :=
      behind_ensures (P := fun next => next.cache.map TemplateCache.options = some cache.options)
        (fun _ _ sameCache => options_perform sameCache) (by rw [there]; rfl) keepCache
    obtain ⟨kept, isKept, sameOptions⟩ := Option.map_eq_some_iff.mp still
    have sameSize : kept.maxSize = cache.maxSize := congrArg Prod.fst sameOptions
    have sameTtl : kept.ttl = cache.ttl := congrArg (fun options => options.2.1) sameOptions
    rw [perform, openCache_of_some isKept, ← sameSize, ← sameTtl]
    rfl

theorem settings_failures_leave_session_negative :
    let setSize (size : Text) : SessionAction :=
      .setVariable "URITPL_CACHE_MAX_SIZE" (some size)
    let parse : SessionAction := .compile (.text "\x7ba\x7d") true
    let session : Session := .initial [("URITPL_CACHE_MAX_SIZE", "-1")] ⟨1000, 1, 1⟩
    let repaired := (session.perform parse).2.behind [setSize "5"]
    let parsed := (repaired.perform parse).2
    (session.perform parse).1 = .error (.settings .negativeSize) ∧
      (session.perform .getSettings).2 = session ∧
      (session.perform (.configure [("strict", .integer 0)])).2 = session ∧
      parsed.settings = some ⟨true, 5, none, "WARNING"⟩ ∧
      ((parsed.behind [setSize "-1", parse]).perform .getSettings).1 =
        .ok (.settings ⟨true, 5, none, "WARNING"⟩) ∧
      ((parsed.behind [setSize "7", .resetSettings, .getSettings]).perform .getCache).1 =
        .ok (.limits 5 none) := by
  intro setSize parse session repaired parsed
  obtain ⟨configures, getsSettings, opens, keepsSettings, keepsCache⟩ :=
    settings_failures_leave_session
  have fails : (session.perform parse).1 = .error (.settings .negativeSize) := by decide +kernel
  have loads : (Session.initial repaired.environment session.supply).readSettings [] =
      .ok ⟨true, 5, none, "WARNING"⟩ := by decide +kernel
  obtain ⟨_, _, repairs⟩ := opens session parse _ rfl fails
  obtain ⟨_, isRepaired⟩ := repairs [setSize "5"] fun repair isSetSize => by
    rw [List.mem_singleton.mp isSetSize]
    exact trivial
  obtain ⟨_, loaded, cache, there, isSize, isTtl⟩ := isRepaired _ loads
  have isLoaded : parsed.settings = some ⟨true, 5, none, "WARNING"⟩ := by
    simpa only [parsed, repaired] using loaded
  have isOpen : parsed.cache = some cache := by
    simpa only [parsed, repaired] using there
  have stillLoaded := keepsSettings parsed _ [setSize "-1", parse] isLoaded (by
    simp [setSize, parse, SessionAction.ChangesSettings])
  have stillOpen := keepsCache parsed cache [setSize "7", .resetSettings, .getSettings] isOpen (by
    simp [setSize, SessionAction.ChangesCache])
  rw [isSize, isTtl] at stillOpen
  exact ⟨fails, (getsSettings session (.settings .negativeSize) (by decide +kernel)).1,
    configures session _ (.settings .negativeSize) (by decide +kernel), isLoaded, stillLoaded,
    stillOpen⟩

end Session

end UriTemplate
