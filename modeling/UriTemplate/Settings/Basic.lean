import UriTemplate.Number.Shortest

/-
This file defines the settings: whether results are checked, the limits of the template cache,
and the level of the log.
-/

namespace UriTemplate

/-- A number of seconds, whole or not. -/
inductive Duration
  | whole (seconds : Int)
  | binary (seconds : Binary64)
  deriving DecidableEq

/-- A whole number of seconds is compared exactly with a duration of either form. -/
def Duration.isBelow (duration : Duration) (elapsed : Int) : Bool :=
  match duration with
  | .whole seconds => decide (seconds < elapsed)
  | .binary seconds => seconds.isBelow elapsed

structure Settings where
  strict : Bool
  cacheMaxSize : Int
  cacheTtl : Option Duration
  logLevel : Text
  deriving DecidableEq

namespace Settings

def default : Settings :=
  ⟨true, 1000, none, "WARNING"⟩

/-- The levels of the log, from the fewest messages to the most. -/
def logLevels : List Text :=
  ["CRITICAL", "ERROR", "WARNING", "INFO", "DEBUG"]

def debugLevel : Text := "DEBUG"

end Settings

end UriTemplate
