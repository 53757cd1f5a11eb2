import UriTemplate.Session.Basic

/-
This file runs lists of actions on a session and keeps a log of what each of them gave.
-/

namespace UriTemplate

/-- Where an action takes a template, it is either compiled through the cache or was parsed
beforehand. -/
inductive SessionAction
  | setVariable (name : Text) (value : Option Text)
  | resetSettings
  | getSettings
  | configure (overrides : Dictionary Value)
  | install (settings : Settings)
  | setCache (cache : Option TemplateCache)
  | getCache
  | advance (duration : Int)
  | invalidate (key : Option Text)
  | compile (value : Value) (usesCache : Bool)
  | expand (value : Value) (isParsed : Bool) (bindings : Bindings) (strict : Option Bool)
  | variableNames (value : Value) (isParsed : Bool)
  | canonical (value : Value) (isParsed : Bool)

inductive SessionOutcome
  | nothing
  | settings (settings : Settings)
  | limits (maxSize : Int) (ttl : Option Duration)
  | time (now : Int)
  | parsed (parsed : ParsedTemplate)
  | text (text : Text)
  | names (names : List Text)
  deriving DecidableEq

/-- What an action gave, and the cache after it. -/
structure SessionRecord where
  result : Except SessionError SessionOutcome
  cache : Option TemplateCache

namespace Session

/-- What was done on a session that settings can fail, and what it is answered with. -/
def answer {α : Type} (done : Except SettingsFault α × Session) (outcome : α → SessionOutcome) :
    Except SessionError SessionOutcome × Session :=
  ((done.1.map outcome).mapError .settings, done.2)

/-- What is done with a template once it is there. -/
def withTemplate (session : Session) (value : Value) (isParsed : Bool)
    (use : Session → Template → Except SessionError SessionOutcome × Session) :
    Except SessionError SessionOutcome × Session :=
  match session.compile value (!isParsed) with
  | (.ok parsed, session) => use session parsed.template
  | (.error error, session) => (.error error, session)

def perform (session : Session) : SessionAction → Except SessionError SessionOutcome × Session
  | .setVariable name value => (.ok .nothing, session.setVariable name value)
  | .resetSettings => (.ok .nothing, session.resetSettings)
  | .getSettings => answer session.loadSettings .settings
  | .configure overrides => answer (session.configure overrides) .settings
  | .install settings => (.ok (.settings settings), session.install settings)
  | .setCache cache => (.ok .nothing, session.setCache cache)
  | .getCache => answer session.openCache fun cache => .limits cache.maxSize cache.ttl
  | .advance duration =>
      (.ok (.time (session.advance duration).supply.now), session.advance duration)
  | .invalidate key => answer (session.invalidate key) fun _ => .nothing
  | .compile value usesCache =>
      let compiled := session.compile value usesCache
      (compiled.1.map .parsed, compiled.2)
  | .expand value isParsed bindings strict =>
      session.withTemplate value isParsed fun session template =>
        let expanded := session.expandTemplate template bindings strict
        (expanded.1.map .text, expanded.2)
  | .variableNames value isParsed =>
      session.withTemplate value isParsed fun session template =>
        (.ok (.names template.sortedNames), session)
  | .canonical value isParsed =>
      session.withTemplate value isParsed fun session template =>
        (.ok (.text template.canonical), session)

/-- An error ends only the action that it comes from. -/
def performAll (session : Session) : List SessionAction → List SessionRecord
  | [] => []
  | action :: rest =>
      let performed := session.perform action
      ⟨performed.1, performed.2.cache⟩ :: performed.2.performAll rest

end Session

end UriTemplate
