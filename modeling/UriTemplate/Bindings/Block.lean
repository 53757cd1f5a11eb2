import UriTemplate.Bindings
import UriTemplate.Bindings.PlainScalar
import UriTemplate.Value.Written

/-
This file reads the block notation of binding files. Mappings are lines `name: value`, lists are
lines `- value`, and a value may stand on indented lines of its own.
-/

namespace UriTemplate.Block

def space : CodePoint := CodePoint.ofChar ' '

def tab : CodePoint := CodePoint.ofChar '\t'

def apostrophe : CodePoint := CodePoint.ofChar '\x27'

def dropSpaces (text : Text) : Text :=
  text.dropWhile (· = space)

def trimRight (text : Text) : Text :=
  (dropSpaces text.reverse).reverse

/-- Line feed, carriage return, next line, line separator and paragraph separator. -/
def isLineBreak (codePoint : CodePoint) : Bool :=
  [0x0A, 0x0D, 0x85, 0x2028, 0x2029].contains codePoint.value

/-- Control characters, lone surrogates and the two noncharacters of the first plane belong to
no text in block notation. -/
def isAllowed (codePoint : CodePoint) : Bool :=
  codePoint = tab || isLineBreak codePoint || codePoint.isBetween ' ' '~' ||
    (0xA0 ≤ codePoint.value && !codePoint.isSurrogate &&
      codePoint.value ≠ 0xFFFE && codePoint.value ≠ 0xFFFF)

/-- A line without its indentation, how wide that is, and whether a comment stands between this
line and the one before. -/
structure Line where
  indentation : Nat
  content : Text
  followsComment : Bool
  deriving DecidableEq

/-- Nothing but a comment is left of a line. -/
def isOver (text : Text) : Bool :=
  text.isEmpty || text.head? = some (CodePoint.ofChar '#')

/-- A mark has its meaning only in front of a space and at the end. -/
def endsMark (text : Text) : Bool :=
  text.isEmpty || text.head? = some space

/-- The lines that hold something. -/
def linesFrom (followsComment : Bool) : List Text → List Line
  | [] => []
  | text :: rest =>
      let content := trimRight (dropSpaces text)
      if content.isEmpty then linesFrom followsComment rest
      else if isOver content then linesFrom true rest
      else ⟨(text.takeWhile (· = space)).length, content, followsComment⟩ :: linesFrom false rest

def linesOf (text : Text) : List Line :=
  linesFrom false (Text.lines (text.map fun codePoint =>
    if isLineBreak codePoint then CodePoint.ofChar '\n' else codePoint))

/-- What the content of a line is, as far as the line tells. -/
inductive Piece
  | nothing
  | item (spaces : Nat) (content : Text)
  | member (key : Value) (content : Text)
  | quoted (content : Text)
  | plain (content : Text) (isCommented : Bool)

/-- Inside quotes two apostrophes stand for one, and one ends the scalar; what follows it is
given back. -/
def quoted? : Text → Option (Text × Text)
  | [] => none
  | [first] => if first = apostrophe then some ([], []) else none
  | first :: second :: rest =>
      if first ≠ apostrophe then
        (quoted? (second :: rest)).map fun quoted => (first :: quoted.1, quoted.2)
      else if second = apostrophe then
        (quoted? rest).map fun quoted => (first :: quoted.1, quoted.2)
      else some ([], second :: rest)

/-- Plain text ends at the colon behind a name and at a comment, which needs a space in front. -/
def splitPlain (afterSpace : Bool) : Text → Text × Text
  | [] => ([], [])
  | first :: rest =>
      if (first = ':' && endsMark rest) || (first = '#' && afterSpace) then ([], first :: rest)
      else
        let (plain, after) := splitPlain (first = space) rest
        (first :: plain, after)

/-- Plain text, and what follows it; a tab is no part of it. -/
def plain? (text : Text) : Option (Text × Text) :=
  let (plain, after) := splitPlain false text
  let content := trimRight plain
  if content.isEmpty || content.contains tab then none else some (content, after)

/-- These marks start collections, quotes and the like, but no plain text. -/
def isIndicator (codePoint : CodePoint) : Bool :=
  (Text.ofString ",[]\x7b\x7d#&*!|>'\"%@`").contains codePoint

def plainPiece? (text : Text) : Option Piece := do
  let (content, after) ← plain? text
  if text.head?.any isIndicator || (text.head? = some (CodePoint.ofChar '?') &&
      endsMark (text.drop 1)) then none
  else
    match after with
    | [] => some (.plain content false)
    | mark :: rest =>
        if mark = ':' then
          (PlainScalar.key? content).map fun key => .member key (dropSpaces rest)
        else some (.plain content true)

def quotedPiece? (text : Text) : Option Piece := do
  let (content, afterQuote) ← quoted? text
  let after := dropSpaces afterQuote
  if isOver after then some (.quoted content)
  else if after.head? = some (CodePoint.ofChar ':') && endsMark (after.drop 1) then
    some (.member (.text content) (dropSpaces (after.drop 1)))
  else none

def piece? : Text → Option Piece
  | [] => some .nothing
  | first :: rest =>
      if first = '#' then some .nothing
      else if first = '-' && endsMark rest then
        some (.item (rest.takeWhile (· = space)).length (dropSpaces rest))
      else if first = apostrophe then quotedPiece? rest
      else plainPiece? (first :: rest)

/-- Plain text goes on over the lines below it, up to a comment. -/
def continuation? (isCommented : Bool) : List Line → Option (List Text)
  | [] => some []
  | line :: rest =>
      if isCommented || line.followsComment then none
      else do
        let (content, after) ← plain? line.content
        if after.head? = some (CodePoint.ofChar ':') then none
        else (continuation? (!after.isEmpty) rest).map (content :: ·)

def scalar? (piece : Piece) (below : List Line) : Option Value :=
  match piece with
  | .quoted content => if below.isEmpty then some (.text content) else none
  | .plain content isCommented => do
      let more ← continuation? isCommented below
      PlainScalar.value? (Text.join [space] (content :: more))
  | _ => none

/-- A line with the lines that belong to it. -/
structure Group where
  head : Line
  below : List Line

/-- Each line takes the lines that follow it as long as they belong to it. -/
def groups (belongs : Line → Line → Bool) (head : Line) (below : List Line) :
    List Line → List Group
  | [] => [⟨head, below⟩]
  | line :: rest =>
      if belongs head line then groups belongs head (below ++ [line]) rest
      else ⟨head, below⟩ :: groups belongs line [] rest

def isDeeper (head line : Line) : Bool :=
  head.indentation < line.indentation

def isItem (line : Line) : Bool :=
  match piece? line.content with
  | some (.item ..) => true
  | _ => false

def isNameAlone (line : Line) : Bool :=
  match piece? line.content with
  | some (.member _ content) => isOver content
  | _ => false

/-- The items under a name need no indentation. -/
def isUnder (head line : Line) : Bool :=
  isDeeper head line ||
    (head.indentation = line.indentation && isNameAlone head && isItem line)

/-- Only where the first line is not indented the others need not be. -/
def isUniform (group : Group) : Bool :=
  group.below.all (isDeeper group.head) || !group.below.head?.any (isDeeper group.head)

/-- What stands behind a dash is a line of its own, unless there is nothing. -/
def item? (indentation : Nat) (group : Group) : Option (List Line) :=
  if group.head.indentation ≠ indentation then none
  else
    match piece? group.head.content with
    | some (.item spaces content) =>
        if isOver content then some group.below
        else some (⟨indentation + 1 + spaces, content, false⟩ :: group.below)
    | _ => none

/-- A name, and what stands behind its colon. -/
def member? (indentation : Nat) (group : Group) : Option (Value × Text) :=
  if group.head.indentation ≠ indentation || !isUniform group then none
  else
    match piece? group.head.content with
    | some (.member key content) => some (key, content)
    | _ => none

/-- Keys are equal if they are equal as numbers; a truth value counts as zero or one. -/
def identity (key : Value) : Text :=
  match key with
  | .boolean value => Value.literal (.integer (if value then 1 else 0))
  | .number value => ((value.whole?).map Numeral.ofInt).getD value.written
  | key => key.literal

/-- Of equal keys the first counts, with the last value. -/
def insert (pairs : List (Value × Value)) (pair : Value × Value) : List (Value × Value) :=
  match pairs with
  | [] => [pair]
  | first :: rest =>
      if identity first.1 = identity pair.1 then (first.1, pair.2) :: rest
      else first :: insert rest pair

def mapping (pairs : List (Value × Value)) : Value :=
  .mapping (pairs.foldl insert [])

/-- The first line tells what the lines are together. Every step takes a dash or a name away, so
the length of the lines is limit enough. -/
def node? (limit : Nat) (lines : List Line) : Option Value :=
  match limit, lines with
  | _, [] => some .null
  | 0, _ => none
  | limit + 1, first :: rest => do
      let piece ← piece? first.content
      match piece with
      | .item .. =>
          let items ← (groups isDeeper first [] rest).mapM fun group => do
            node? limit (← item? first.indentation group)
          pure (.sequence .list items)
      | .member .. =>
          let pairs ← (groups isUnder first [] rest).mapM fun group => do
            let (key, content) ← member? first.indentation group
            let value ←
              if isOver content then node? limit group.below
              else (piece? content).bind fun piece => scalar? piece group.below
            pure (key, value)
          pure (mapping pairs)
      | piece => scalar? piece rest

/-- A document starts behind three dashes and ends before three dots. -/
def isMarker (mark : String) (line : Line) : Bool :=
  line.indentation = 0 && line.content.startsWith mark && endsMark (line.content.drop 3)

def startsDocument (line : Line) : Bool :=
  isMarker "---" line && isOver (dropSpaces (line.content.drop 3))

/-- The mark at the start may be left out; there is no second document. -/
def document? (lines : List Line) : Option (List Line) :=
  let body := if lines.head?.any startsDocument then lines.drop 1 else lines
  if body.any fun line => isMarker "---" line || isMarker "..." line then none else some body

/-- A byte order mark may stand in front. -/
def read? (text : Text) : Option Value := do
  let unmarked := if text.head?.any (fun first => first.value = 0xFEFF) then text.drop 1 else text
  if unmarked.all isAllowed then node? (unmarked.length + 1) (← document? (linesOf unmarked))
  else none

end UriTemplate.Block
