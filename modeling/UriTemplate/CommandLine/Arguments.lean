import UriTemplate.Text.Basic

/-
This file splits command line arguments into options and plain arguments.
-/

namespace UriTemplate.CommandLine

/-- An option has a name of one letter behind one dash, or a longer name behind two. -/
structure OptionForm where
  name : Text
  takesValue : Bool
  deriving DecidableEq

/-- An option as it was given. -/
structure GivenOption where
  name : Text
  value : Option Text
  deriving DecidableEq

structure Arguments where
  options : List GivenOption
  plain : List Text
  deriving DecidableEq

namespace Arguments

def find? (forms : List OptionForm) (name : Text) : Option OptionForm :=
  forms.find? fun form => form.name = name

def addOption (option : GivenOption) (arguments : Arguments) : Arguments :=
  { arguments with options := option :: arguments.options }

def addPlain (plain : Text) (arguments : Arguments) : Arguments :=
  { arguments with plain := plain :: arguments.plain }

/-- What one argument gives: options that are complete, and one that needs the next argument
for its value. -/
structure Group where
  complete : List GivenOption
  waiting : Option Text

/-- Letters behind one dash are options of their own, until one takes a value. -/
def letters? (forms : List OptionForm) : Text → Option Group
  | [] => some ⟨[], none⟩
  | letter :: rest => do
      let form ← find? forms [CodePoint.ofChar '-', letter]
      if form.takesValue then
        if rest.isEmpty then some ⟨[], some form.name⟩ else some ⟨[⟨form.name, some rest⟩], none⟩
      else
        let group ← letters? forms rest
        some { group with complete := ⟨form.name, none⟩ :: group.complete }

/-- A value may stand behind an equals sign in a long option. -/
def group? (forms : List OptionForm) (argument : Text) : Option Group :=
  let (name, value) := Text.cut '=' argument
  match find? (forms.filter fun form => 2 < form.name.length) name, value with
  | some form, some value =>
      if form.takesValue then some ⟨[⟨form.name, some value⟩], none⟩ else none
  | some form, none =>
      if form.takesValue then some ⟨[], some form.name⟩ else some ⟨[⟨form.name, none⟩], none⟩
  | none, _ => if argument.startsWith "--" then none else letters? forms (argument.drop 1)

def isOption (argument : Text) : Bool :=
  1 < argument.length && argument.head? = some (CodePoint.ofChar '-')

/-- Two dashes alone end the options. The first plain argument ends them too, unless options
may stand between plain arguments. Unknown options and missing values are refused. -/
def read? (forms : List OptionForm) (mixed : Bool) : List Text → Option Arguments
  | [] => some ⟨[], []⟩
  | argument :: rest =>
      if argument = Text.ofString "--" then some ⟨[], rest⟩
      else if isOption argument then
        match group? forms argument with
        | none => none
        | some ⟨complete, none⟩ =>
            (read? forms mixed rest).map fun others => complete.foldr addOption others
        | some ⟨complete, some name⟩ =>
            match rest with
            | [] => none
            | value :: rest =>
                (read? forms mixed rest).map fun others =>
                  complete.foldr addOption (addOption ⟨name, some value⟩ others)
      else if mixed then (read? forms mixed rest).map (addPlain argument)
      else some ⟨[], argument :: rest⟩

def values (arguments : Arguments) (names : List Text) : List Text :=
  arguments.options.filterMap fun option =>
    if names.contains option.name then option.value else none

def has (arguments : Arguments) (name : Text) : Bool :=
  arguments.options.any fun option => option.name = name

/-- The names of the options that were given, as far as they are asked for. -/
def given (arguments : Arguments) (names : List Text) : List Text :=
  (arguments.options.map GivenOption.name).filter fun name => names.contains name

end Arguments

end UriTemplate.CommandLine
