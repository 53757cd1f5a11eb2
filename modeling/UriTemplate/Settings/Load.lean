import UriTemplate.Settings.Basic
import UriTemplate.Settings.Layers
import UriTemplate.Text.Uppercase

/-
This file checks raw settings and makes settings of them.
-/

namespace UriTemplate

inductive SettingsFault
  | wrongType (name expected found : Text)
  | tooLarge
  | tooManyDigits
  | unreadableFile (message : Text)
  | unknownLevel (level : Text)
  | negativeSize
  deriving DecidableEq

def SettingsFault.message : SettingsFault → Text
  | wrongType name expected found =>
      "Setting '" ++ name ++ "' expected " ++ expected ++ ", got " ++ found
  | tooLarge => "int too large to convert to float"
  | tooManyDigits => Numeral.tooManyDigits
  | unreadableFile message => message
  | unknownLevel level => "Unknown log level '" ++ level ++ "'"
  | negativeSize => "cache_max_size must not be negative"

namespace Settings

def strictName : Text := "strict"

def cacheMaxSizeName : Text := "cache_max_size"

def cacheTtlName : Text := "cache_ttl"

def logLevelName : Text := "log_level"

/-- A truth value, or one of the numbers zero and one. -/
def readStrict : Value → Except SettingsFault Bool
  | .boolean value => .ok value
  | .integer 0 => .ok false
  | .integer 1 => .ok true
  | value => .error (.wrongType strictName "<class 'bool'>" value.typeName)

/-- A truth value is no size. -/
def readSize : Value → Except SettingsFault Int
  | .integer value => .ok value
  | value => .error (.wrongType cacheMaxSizeName "<class 'int'>" value.typeName)

/-- Nothing, or a number, which becomes a binary64 number. -/
def readTtl : Value → Except SettingsFault (Option Duration)
  | .null => .ok none
  | .number value => .ok (some (.binary value))
  | .integer value =>
      match Binary64.ofInt? value with
      | some seconds => .ok (some (.binary seconds))
      | none => .error .tooLarge
  | value => .error (.wrongType cacheTtlName "typing.Optional[float]" value.typeName)

/-- A text, or a number that is taken as the text it is written as. -/
def readLevel : Value → Except SettingsFault Text
  | .text value => .ok value
  | .integer value =>
      if Numeral.isShort value then .ok (Numeral.ofInt value) else .error .tooManyDigits
  | .number value => .ok value.written
  | value => .error (.wrongType logLevelName "<class 'str'>" value.typeName)

/-- A setting that is not there has its default. -/
def field {α : Type} (raw : Dictionary Value) (name : Text) (usual : α)
    (read : Value → Except SettingsFault α) : Except SettingsFault α :=
  match raw.lookup name with
  | some value => read value
  | none => .ok usual

/-- The log level is compared in capitals. -/
def validate (settings : Settings) : Except SettingsFault Settings :=
  let level := Uppercase.text settings.logLevel
  if !logLevels.contains level then .error (.unknownLevel level)
  else if settings.cacheMaxSize < 0 then .error .negativeSize
  else .ok { settings with logLevel := level }

/-- The types are checked one setting after another, then the log level, then the size. -/
def build (raw : Dictionary Value) : Except SettingsFault Settings := do
  let strict ← field raw strictName default.strict readStrict
  let cacheMaxSize ← field raw cacheMaxSizeName default.cacheMaxSize readSize
  let cacheTtl ← field raw cacheTtlName default.cacheTtl readTtl
  let logLevel ← field raw logLevelName default.logLevel readLevel
  validate ⟨strict, cacheMaxSize, cacheTtl, logLevel⟩

/-- Settings are written into the log when they are loaded, and their size may have too many digits
for that. -/
def announce (settings : Settings) : Except SettingsFault Settings :=
  if Numeral.isShort settings.cacheMaxSize then .ok settings else .error .tooManyDigits

def loadWith (readFile : Text → Dictionary (Option Text)) (sources : Layers.Sources) :
    Except SettingsFault Settings :=
  build (Layers.collectWith readFile sources) >>= announce

/-- A settings file that cannot be read prevents everything else. -/
def load (readFile : Layers.FileReader) (sources : Layers.Sources) :
    Except SettingsFault Settings :=
  match sources.read readFile with
  | .ok found => loadWith (fun _ => found) sources
  | .error message => .error (.unreadableFile message)

end Settings

end UriTemplate
