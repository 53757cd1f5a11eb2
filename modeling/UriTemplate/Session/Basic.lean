import UriTemplate.Cache.Basic
import UriTemplate.Settings.Load

/-
This file defines sessions: settings that are loaded on first use, and one template cache that
is made from them on first use.
-/

namespace UriTemplate

inductive SessionError
  | parse (error : ParseError)
  | settings (fault : SettingsFault)
  | expansion (fault : ExpansionFault)
  deriving DecidableEq

structure Session where
  environment : Dictionary Text
  settings : Option Settings
  cache : Option TemplateCache
  supply : Supply
  deriving DecidableEq

namespace Session

def initial (environment : Dictionary Text) (supply : Supply) : Session :=
  ⟨environment, none, none, supply⟩

/-- The settings that the environment and the overrides give now. There is no settings file. -/
def readSettings (session : Session) (overrides : Dictionary Value) :
    Except SettingsFault Settings :=
  Settings.loadWith (fun _ => []) ⟨Layers.usualStart, none, session.environment, overrides⟩

/-- Settings that are not there yet are read, and then stay. -/
def loadSettings (session : Session) : Except SettingsFault Settings × Session :=
  match session.settings with
  | some settings => (.ok settings, session)
  | none =>
      match session.readSettings [] with
      | .error fault => (.error fault, session)
      | .ok settings => (.ok settings, { session with settings := some settings })

/-- New settings are read, and then take the place of the old ones. -/
def configure (session : Session) (overrides : Dictionary Value) :
    Except SettingsFault Settings × Session :=
  match session.readSettings overrides with
  | .error fault => (.error fault, session)
  | .ok settings => (.ok settings, { session with settings := some settings })

def install (session : Session) (settings : Settings) : Session :=
  { session with settings := some settings }

def resetSettings (session : Session) : Session :=
  { session with settings := none }

/-- A value that is not given removes the variable. -/
def setVariable (session : Session) (name : Text) (value : Option Text) : Session :=
  { session with environment :=
      match value with
      | some value => session.environment.insert name value
      | none => session.environment.erase name }

/-- A cache that is not there yet takes its limits from the settings, which are loaded first. -/
def openCache (session : Session) : Except SettingsFault TemplateCache × Session :=
  match session.cache with
  | some cache => (.ok cache, session)
  | none =>
      match session.loadSettings with
      | (.error fault, session) => (.error fault, session)
      | (.ok settings, session) =>
          let cache := TemplateCache.empty settings.cacheMaxSize settings.cacheTtl true
          (.ok cache, { session with cache := some cache })

def setCache (session : Session) (cache : Option TemplateCache) : Session :=
  { session with cache := cache }

/-- The cache must be open before anything is looked up in it. -/
def compileCached (session : Session) (value : Value) :
    Except SessionError ParsedTemplate × Session :=
  match session.openCache with
  | (.error fault, session) => (.error (.settings fault), session)
  | (.ok cache, session) =>
      let parsed := CacheState.parse ⟨cache, session.supply⟩ value
      (parsed.1.mapError .parse,
        { session with cache := some parsed.2.cache, supply := parsed.2.supply })

/-- Without the cache a template is parsed anew. -/
def compileFresh (session : Session) (value : Value) :
    Except SessionError ParsedTemplate × Session :=
  let parsed := session.supply.parse value
  (parsed.1.mapError .parse, { session with supply := parsed.2 })

def compile (session : Session) (value : Value) (usesCache : Bool) :
    Except SessionError ParsedTemplate × Session :=
  if usesCache then session.compileCached value else session.compileFresh value

/-- If it is not said whether results are checked, the settings decide. -/
def isStrict (session : Session) (strict : Option Bool) : Except SettingsFault Bool × Session :=
  match strict with
  | some strict => (.ok strict, session)
  | none =>
      match session.loadSettings with
      | (.error fault, session) => (.error fault, session)
      | (.ok settings, session) => (.ok settings.strict, session)

/-- There is a result before it is asked whether it is checked. -/
def expandTemplate (session : Session) (template : Template) (bindings : Bindings)
    (strict : Option Bool) : Except SessionError Text × Session :=
  match template.written bindings with
  | .error fault => (.error (.expansion fault), session)
  | .ok result =>
      match session.isStrict strict with
      | (.error fault, session) => (.error (.settings fault), session)
      | (.ok strict, session) =>
          ((Template.accept strict result).mapError fun invalid =>
            .expansion (.invalid invalid), session)

/-- The cache is opened even if it is emptied at once. -/
def invalidate (session : Session) (key : Option Text) : Except SettingsFault Unit × Session :=
  match session.openCache with
  | (.error fault, session) => (.error fault, session)
  | (.ok cache, session) => (.ok (), { session with cache := some (cache.invalidate key) })

def advance (session : Session) (duration : Int) : Session :=
  { session with supply := session.supply.advance duration }

end Session

end UriTemplate
