import UriTemplate.CommandLine.Run

/-
This file is the program, except for the reader of settings files: it looks up what a run depends
on, and prints what the run gives.
-/

namespace UriTemplate.CommandLine

/-- The code of the error that comes from reading a directory. A path that goes on behind a file
gives another one. -/
def directoryCode : UInt32 := 21

/-- What is there but is no readable text is treated as a directory. -/
def entryAt (path : Text) : IO (Option PathEntry) := do
  try
    let content ← IO.FS.readFile path.toString
    pure (some (.file (Text.ofString content)))
  catch
    | .noFileOrDirectory .. => pure none
    | .inappropriateType _ code _ =>
        pure (if code = directoryCode then some .directory else none)
    | _ => pure (some .directory)

def entriesAt (paths : List Text) : IO (List (Text × Option PathEntry)) :=
  paths.mapM fun path => do pure (path, ← entryAt path)

def variablesNamed (names : List Text) : IO (Dictionary Text) :=
  names.filterMapM fun name => do
    pure ((← IO.getEnv name.toString).map fun value => (name, Text.ofString value))

def surroundingsOf (readSettingsFile : Layers.FileReader) (arguments : List Text) :
    IO Surroundings := do
  let environment ← variablesNamed variableNames
  let entries ← entriesAt (paths arguments)
  pure ⟨environment, fun path => (entries.lookup path).join, readSettingsFile⟩

def main (readSettingsFile : Layers.FileReader) (arguments : List String) : IO UInt32 := do
  let texts := arguments.map Text.ofString
  let outcome := run (← surroundingsOf readSettingsFile texts) texts
  IO.print outcome.stdout.toString
  IO.eprint outcome.stderr.toString
  pure outcome.exitCode.toUInt32

end UriTemplate.CommandLine
