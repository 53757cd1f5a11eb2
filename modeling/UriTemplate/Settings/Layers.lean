import UriTemplate.Dictionary
import UriTemplate.Number.Reading
import UriTemplate.Value.Basic

/-
This file collects raw settings from a settings file, the environment and overrides, which win
over each other in this order.
-/

namespace UriTemplate.Layers

/-- What a reader of settings files makes of one: names with values and names alone, in their order,
or a message that it cannot be read. -/
abbrev FileReader := Text → Except Text (Dictionary (Option Text))

/-- A name without a value counts as not given. -/
def given (file : Dictionary (Option Text)) : Dictionary Text :=
  file.filterMap fun entry => entry.2.map fun value => (entry.1, value)

def trueWords : List Text := ["true", "yes", "on"]

def falseWords : List Text := ["false", "no", "off"]

def nothingWords : List Text := ["none", "null", ""]

/-- The type of a raw value is guessed from its text: a word, a number with a point, a whole
number, or else a text. -/
def convert (text : Text) : Value :=
  let word := text.lowerAscii
  if trueWords.contains word then .boolean true
  else if falseWords.contains word then .boolean false
  else if nothingWords.contains word then .null
  else if text.contains (CodePoint.ofChar '.') then
    ((Reading.binary64? text).map Value.number).getD (.text text)
  else ((Reading.integer? text).map Value.integer).getD (.text text)

/-- The setting that a variable sets, if its name starts as the names of settings do. -/
def settingName? (start name : Text) : Option Text :=
  if name.startsWith start then some (Text.lowerAscii (name.drop start.length)) else none

def entries (start : Text) (environment : Dictionary Text) : Dictionary Value :=
  environment.filterMap fun entry =>
    (settingName? start entry.1).map fun name => (name, convert entry.2)

/-- Everything that raw settings are taken from. -/
structure Sources where
  start : Text
  file : Option Text
  environment : Dictionary Text
  overrides : Dictionary Value

/-- The start of the names of settings in files and in the environment. -/
def usualStart : Text := "URITPL_"

/-- The names and values that are found in the settings file; without a file there are none. -/
def Sources.read (readFile : FileReader) (sources : Sources) :
    Except Text (Dictionary (Option Text)) :=
  (sources.file.map readFile).getD (.ok [])

/-- The same where nothing can go wrong in reading the file. -/
def Sources.fileWith (readFile : Text → Dictionary (Option Text)) (sources : Sources) :
    Dictionary (Option Text) :=
  (sources.file.map readFile).getD []

/-- How the text of a settings file is read does not matter to the way the layers are put one
over another. -/
def collectWith (readFile : Text → Dictionary (Option Text)) (sources : Sources) :
    Dictionary Value :=
  Dictionary.insertAll
    (Dictionary.insertAll
      (Dictionary.insertAll [] (entries sources.start (given (sources.fileWith readFile))))
      (entries sources.start sources.environment))
    sources.overrides

end UriTemplate.Layers
