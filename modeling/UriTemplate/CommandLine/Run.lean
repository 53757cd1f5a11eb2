import UriTemplate.Bindings.Assignments
import UriTemplate.Bindings.File
import UriTemplate.CommandLine.Arguments
import UriTemplate.CommandLine.Escapes
import UriTemplate.CommandLine.Files
import UriTemplate.CommandLine.Report
import UriTemplate.Settings.Load
import UriTemplate.Syntax.Document
import UriTemplate.Template

/-
This file runs the commands: they expand a template, show its structure or list its variables.
-/

namespace UriTemplate.CommandLine

structure Outcome where
  exitCode : Nat
  stdout : Text
  stderr : Text
  deriving DecidableEq

/-- What a command finds outside its arguments. -/
structure Surroundings where
  environment : Dictionary Text
  entry? : Text → Option PathEntry
  readSettingsFile : Layers.FileReader

namespace Outcome

/-- The output is plain text, also where a template holds escape sequences. -/
def success (stdout : Text) : Outcome := ⟨0, Escapes.remove stdout, []⟩

def failure (message : Text) : Outcome := ⟨1, [], Escapes.remove (message ++ "\n")⟩

/-- The arguments do not form a command. -/
def usage : Outcome := ⟨2, [], "Usage: uritpl [OPTIONS] COMMAND [ARGS]...\n"⟩

/-- An error that nothing reports ends the program without a word. -/
def silent : Outcome := ⟨1, [], []⟩

/-- A message behind a cross. -/
def crossed (message : Text) : Outcome := failure ("  ✗ " ++ message)

/-- What was logged before stands in front of the errors. -/
def logged (log : Text) (outcome : Outcome) : Outcome :=
  { outcome with stderr := log ++ outcome.stderr }

end Outcome

/-- A diagnostic whose place cannot be shown is given by its message. -/
def diagnosed (diagnostic : Diagnostic) : Outcome :=
  match diagnostic.format with
  | .ok text => .failure text
  | .error _ => .failure diagnostic.message

def parseFailure : ParseError → Outcome
  | .malformed error => diagnosed error.diagnostic
  | error => .failure error.message

/-- Rules are at least 40 and at most 100 columns wide; 80 columns are usual. -/
def width (surroundings : Surroundings) : Nat :=
  let columns := ((surroundings.environment.lookup (Text.ofString "COLUMNS")).bind
    Reading.integer?).getD 0
  if columns ≤ 0 then 80 else max 40 (min columns.toNat 100)

def debugLine (logger message : Text) : Text :=
  "DEBUG " ++ logger ++ ": " ++ message ++ "\n"

def parsedLine (template : Template) : Text :=
  debugLine "uritpl.parser" ("Parsed template " ++ Quoted.text template.raw ++ ": " ++
    Numeral.ofNat template.expressions.length ++ " expression(s)")

def expandingLine (template : Template) (count : Nat) : Text :=
  debugLine "uritpl.cli" ("Expanding " ++ Quoted.text template.raw ++ " with " ++
    Numeral.ofNat count ++ " binding(s)")

/-- A command in force: its settings, whether it logs, and what lies around it. -/
structure Invocation where
  settings : Settings
  logs : Bool
  surroundings : Surroundings

namespace Invocation

def log (invocation : Invocation) (line : Text) : Text :=
  if invocation.logs then line else []

/-- The template is read before anything else that a command needs. -/
def withTemplate (invocation : Invocation) (source : Text) (use : Template → Outcome) : Outcome :=
  match Template.parse source with
  | .ok template => (use template).logged (invocation.log (parsedLine template))
  | .error error => parseFailure error

/-- Assignments win over the bindings of a file. -/
def bindings (file : Option (Text × Text)) (assignments : List Text) :
    Except Text BindingsFile.Content := do
  let fromFile ← match file with
    | some (path, content) => (BindingsFile.read path content).mapError BindingsFile.Fault.message
    | none => .ok .nothing
  let assigned ← (Assignments.read assignments).mapError Assignments.Malformed.message
  pure (fromFile.overriddenBy assigned)

def expand (invocation : Invocation) (source : Text) (file : Option (Text × Text))
    (assignments : List Text) (strict : Bool) : Outcome :=
  invocation.withTemplate source fun template =>
    match bindings file assignments with
    | .error message => .crossed message
    | .ok content =>
        let outcome :=
          match template.tryExpand content.bindings strict with
          | .ok result => Outcome.success (result ++ "\n")
          | .error (.invalid invalid) => diagnosed invalid.diagnostic
          | .error .tooManyDigits => .silent
        outcome.logged (invocation.log (expandingLine template content.size))

def parse (invocation : Invocation) (source : Text) (asJson : Bool) : Outcome :=
  invocation.withTemplate source fun template =>
    .success (if asJson then template.document.indented 2 ++ "\n"
      else Report.template (width invocation.surroundings) template)

def listNames (invocation : Invocation) (source : Text) : Outcome :=
  invocation.withTemplate source fun template =>
    .success (template.variableNames.flatMap fun name => name ++ "\n")

end Invocation

def flag (name : String) : OptionForm := ⟨Text.ofString name, false⟩

def valued (name : String) : OptionForm := ⟨Text.ofString name, true⟩

def helpFlag : OptionForm := flag "--help"

def commonForms : List OptionForm :=
  [flag "--verbose", valued "--env-file", flag "--version", helpFlag]

def expandForms : List OptionForm :=
  [valued "--var", valued "-v", valued "--vars", flag "--strict", flag "--no-strict", helpFlag]

def parseForms : List OptionForm := [flag "--json", helpFlag]

def variablesForms : List OptionForm := [helpFlag]

/-- The commands with a short description each. -/
def helpText : Text :=
  "Commands:\n" ++
  "  expand   Expand TEMPLATE and print the result.\n" ++
  "  parse    Show operators, variables and spans of TEMPLATE.\n" ++
  "  vars     List the variable names TEMPLATE references,...\n"

def versionText : Text := "uritpl, version 0.1.0\n"

/-- A command takes one plain argument, the template. -/
def withCommandArguments (forms : List OptionForm) (arguments : List Text)
    (use : Arguments → Text → Outcome) : Outcome :=
  match Arguments.read? forms true arguments with
  | none => .usage
  | some read =>
      if read.has (Text.ofString "--help") then .success helpText
      else
        match read.plain with
        | [source] => use read source
        | _ => .usage

/-- Of the options for strictness the last one counts; without any the settings decide. -/
def isStrict (settings : Settings) (arguments : Arguments) : Bool :=
  match (arguments.given [Text.ofString "--strict", Text.ofString "--no-strict"]).getLast? with
  | some name => name = Text.ofString "--strict"
  | none => settings.strict

def runExpand (invocation : Invocation) (arguments : List Text) : Outcome :=
  withCommandArguments expandForms arguments fun read source =>
    let assignments := read.values [Text.ofString "--var", Text.ofString "-v"]
    let strict := isStrict invocation.settings read
    match (read.values [Text.ofString "--vars"]).getLast? with
    | none => invocation.expand source none assignments strict
    | some path =>
        match invocation.surroundings.entry? path with
        | some (.file content) =>
            invocation.expand source (some (PathEntry.normalPath path, content)) assignments strict
        | _ => .usage

def runParse (invocation : Invocation) (arguments : List Text) : Outcome :=
  withCommandArguments parseForms arguments fun read source =>
    invocation.parse source (read.has (Text.ofString "--json"))

def runVariables (invocation : Invocation) (arguments : List Text) : Outcome :=
  withCommandArguments variablesForms arguments fun _ source => invocation.listNames source

/-- The commands by their names. -/
def commands : List (Text × (Invocation → List Text → Outcome)) :=
  [("expand", runExpand), ("parse", runParse), ("vars", runVariables)]

/-- Only the faults that the checks of the settings find are reported. -/
def settingsFailure : SettingsFault → Outcome
  | .tooLarge => .silent
  | .tooManyDigits => .silent
  | .unreadableFile _ => .silent
  | fault => .crossed ("Invalid settings: " ++ fault.message)

/-- The settings are loaded before the arguments of the command are looked at. -/
def runCommand (surroundings : Surroundings) (verbose : Bool) (file : Option Text)
    (command : Invocation → List Text → Outcome) (arguments : List Text) : Outcome :=
  match Settings.load surroundings.readSettingsFile
      ⟨Layers.usualStart, file, surroundings.environment, []⟩ with
  | .error fault => settingsFailure fault
  | .ok settings =>
      command ⟨settings, verbose || settings.logLevel = Settings.debugLevel, surroundings⟩
        arguments

/-- The settings file may be missing, but it is no directory. -/
def settingsFile (surroundings : Surroundings) (path : Option Text) :
    Except Outcome (Option Text) :=
  match path.bind surroundings.entry? with
  | none => .ok none
  | some (.file content) => .ok (some content)
  | some .directory => .error .usage

/-- The version and the help are shown instead of anything else, whichever comes first. -/
def shown? (arguments : Arguments) : Option Outcome :=
  (arguments.given [Text.ofString "--version", Text.ofString "--help"]).head?.map fun name =>
    .success (if name = Text.ofString "--help" then helpText else versionText)

/-- An option may stand behind two dashes in the place of the command. The arguments from there
on are then read once more, but they cannot bring a command any longer. -/
def withoutCommand (arguments : List Text) : Outcome :=
  ((Arguments.read? commonForms false arguments).bind shown?).getD .usage

def runNamed (surroundings : Surroundings) (arguments : Arguments) (file : Option Text) : Outcome :=
  match arguments.plain with
  | [] => .usage
  | name :: rest =>
      match commands.lookup name with
      | some command =>
          runCommand surroundings (arguments.has (Text.ofString "--verbose")) file command rest
      | none => withoutCommand (name :: rest)

def run (surroundings : Surroundings) (arguments : List Text) : Outcome :=
  match Arguments.read? commonForms false arguments with
  | none => .usage
  | some read =>
      match shown? read with
      | some outcome => outcome
      | none =>
          match settingsFile surroundings
              (read.values [Text.ofString "--env-file"]).getLast? with
          | .ok file => runNamed surroundings read file
          | .error outcome => outcome

/-- The paths that a run may look at. -/
def paths (arguments : List Text) : List Text :=
  match Arguments.read? commonForms false arguments with
  | none => []
  | some read =>
      read.values [Text.ofString "--env-file"] ++
        match Arguments.read? expandForms true (read.plain.drop 1) with
        | none => []
        | some others => others.values [Text.ofString "--vars"]

/-- The variables that a run looks at. -/
def variableNames : List Text :=
  Text.ofString "COLUMNS" ::
    [Settings.strictName, Settings.cacheMaxSizeName, Settings.cacheTtlName,
      Settings.logLevelName].map fun name => Layers.usualStart ++ Uppercase.text name

end UriTemplate.CommandLine
