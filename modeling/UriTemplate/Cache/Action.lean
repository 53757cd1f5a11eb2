import UriTemplate.Cache.Basic

/-
This file runs lists of actions on a cache and keeps a log of what each of them gave.
-/

namespace UriTemplate

/-- A template is put under a key from its text or, where it is there already, as it is. A
disabled block runs its actions while nothing is stored; it may let the first error of its
actions out. -/
inductive CacheAction
  | parse (value : Value)
  | get (key : Text)
  | put (key template : Text) (parseTime : Int)
  | putParsed (key : Text) (parsed : ParsedTemplate) (parseTime : Int)
  | invalidate (key : Option Text)
  | contains (key : Text)
  | resetStatistics
  | advance (duration : Int)
  | setMaxSize (maxSize : Int)
  | setTtl (ttl : Option Duration)
  | setCountsStatistics (countsStatistics : Bool)
  | disabled (propagates : Bool) (actions : List CacheAction)
  deriving Inhabited

inductive CacheOutcome
  | nothing
  | parsed (parsed : Option ParsedTemplate)
  | contained (isContained : Bool)
  | time (now : Int)
  | entered
  | left
  | failed (error : ParseError)
  deriving DecidableEq

/-- What an action gave, and the cache after it. -/
structure CacheRecord where
  outcome : CacheOutcome
  cache : TemplateCache
  deriving DecidableEq

/-- The records of a run, the state after it, and the error that ended it early, if one did. -/
structure CacheRun where
  records : List CacheRecord
  state : CacheState
  error : Option ParseError
  deriving DecidableEq

namespace CacheState

def withCache (state : CacheState) (cache : TemplateCache) : CacheState :=
  { state with cache := cache }

def setMaxSize (state : CacheState) (maxSize : Int) : CacheState :=
  state.withCache { state.cache with maxSize := maxSize }

/-- The template is parsed before it is stored under the key. -/
def put (state : CacheState) (key template : Text) (parseTime : Int) :
    Except ParseError Unit × CacheState :=
  match state.supply.parse (.text template) with
  | (.ok parsed, supply) => (.ok (), ⟨state.cache.put key parsed parseTime supply.now, supply⟩)
  | (.error error, supply) => (.error error, ⟨state.cache, supply⟩)

/-- The run of one action that gives an outcome. -/
def done (state : CacheState) (outcome : CacheOutcome) : CacheRun :=
  ⟨[⟨outcome, state.cache⟩], state, none⟩

/-- The run of one action that can fail; a failure has no record yet. -/
def attempted {α : Type} (result : Except ParseError α × CacheState) (outcome : α → CacheOutcome) :
    CacheRun :=
  match result.1 with
  | .ok value => result.2.done (outcome value)
  | .error error => ⟨[], result.2, some error⟩

mutual

/-- A disabled block gives the old limit back however it ends. -/
def perform (state : CacheState) : CacheAction → CacheRun
  | .parse value => attempted (state.parse value) fun parsed => .parsed (some parsed)
  | .get key =>
      (state.withCache (state.cache.get key state.supply.now).2).done
        (.parsed (state.cache.get key state.supply.now).1)
  | .put key template parseTime =>
      attempted (state.put key template parseTime) fun _ => .nothing
  | .putParsed key parsed parseTime =>
      (state.withCache (state.cache.put key parsed parseTime state.supply.now)).done .nothing
  | .invalidate key => (state.withCache (state.cache.invalidate key)).done .nothing
  | .contains key => state.done (.contained (state.cache.contains key))
  | .resetStatistics => (state.withCache state.cache.resetStatistics).done .nothing
  | .advance duration =>
      let advanced : CacheState := ⟨state.cache, state.supply.advance duration⟩
      advanced.done (.time advanced.supply.now)
  | .setMaxSize maxSize => (state.setMaxSize maxSize).done .nothing
  | .setTtl ttl => (state.withCache { state.cache with ttl := ttl }).done .nothing
  | .setCountsStatistics countsStatistics =>
      (state.withCache { state.cache with countsStatistics := countsStatistics }).done .nothing
  | .disabled propagates actions =>
      let inside := state.setMaxSize 0
      let run := inside.performAll propagates actions
      let after := run.state.setMaxSize state.cache.maxSize
      let records := ⟨.entered, inside.cache⟩ :: run.records
      match run.error with
      | some error => ⟨records, after, some error⟩
      | none => ⟨records ++ [⟨.left, after.cache⟩], after, none⟩

/-- An error is recorded and the run goes on, or it ends the run. -/
def performAll (state : CacheState) (propagates : Bool) : List CacheAction → CacheRun
  | [] => ⟨[], state, none⟩
  | action :: rest =>
      let run := state.perform action
      match run.error with
      | none =>
          let others := run.state.performAll propagates rest
          ⟨run.records ++ others.records, others.state, others.error⟩
      | some error =>
          if propagates then run
          else
            let others := run.state.performAll propagates rest
            ⟨run.records ++ ⟨.failed error, run.state.cache⟩ :: others.records, others.state,
              others.error⟩

end

end CacheState

end UriTemplate
