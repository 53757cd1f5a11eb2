import UriTemplate.Dictionary

/-
This file says what stands at a path.
-/

namespace UriTemplate.CommandLine

inductive PathEntry
  | file (content : Text)
  | directory
  deriving DecidableEq

namespace PathEntry

def slash : CodePoint := CodePoint.ofChar '/'

/-- Empty parts and single dots stay in the directory where they stand. -/
def isStay (part : Text) : Bool :=
  part.isEmpty || part = Text.ofString "."

def isAscent (part : Text) : Bool :=
  part = Text.ofString ".."

/-- The parts of a path that lead somewhere. -/
def parts (path : Text) : List Text :=
  (path.splitOn slash).filter fun part => !isStay part

/-- The path without the parts that stay. -/
def normalPath (path : Text) : Text :=
  let joined := Text.join [slash] (parts path)
  if path.head? = some slash then slash :: joined
  else if joined.isEmpty then Text.ofString "."
  else joined

/-- Of what lies outside the working directory, only the directories above it are known. -/
def outside? (path : List Text) : Option PathEntry :=
  if path.all fun part => isStay part || isAscent part then some .directory else none

/-- A path is followed part by part from a directory. A file leads nowhere, not even to
itself. -/
def follow? (files : Dictionary Text) (directory : List Text) : List Text → Option PathEntry
  | [] => some .directory
  | part :: rest =>
      if isStay part then follow? files directory rest
      else if isAscent part then
        if directory.isEmpty then outside? rest else follow? files directory.dropLast rest
      else
        let here := directory ++ [part]
        match files.find? fun entry => parts entry.1 = here with
        | some entry => if rest.isEmpty then some (.file entry.2) else none
        | none =>
            if files.any fun entry => here.isPrefixOf (parts entry.1) then follow? files here rest
            else none

/-- The files of the working directory are named by their paths from there. -/
def find? (files : Dictionary Text) (path : Text) : Option PathEntry :=
  if path.isEmpty then none
  else if path.head? = some slash then outside? (path.splitOn slash)
  else follow? files [] (path.splitOn slash)

end PathEntry

end UriTemplate.CommandLine
