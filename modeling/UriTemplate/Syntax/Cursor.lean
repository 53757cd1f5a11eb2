import UriTemplate.Syntax.Lexeme

/-
This file defines a cursor in a text and the readings that move it, one at a time.
-/

namespace UriTemplate

/-- The position reached, and the text that is still ahead. -/
structure Cursor where
  position : Position
  ahead : Text
  deriving DecidableEq

namespace Cursor

def atStart (source : Text) : Cursor :=
  ⟨Position.start, source⟩

/-- The cursor moves over the taken text; the rest lies ahead. -/
def passing (cursor : Cursor) (taken rest : Text) : Cursor :=
  ⟨cursor.position.after taken, rest⟩

def peek (cursor : Cursor) (distance : Nat) : Option CodePoint :=
  cursor.ahead[distance]?

def advance (cursor : Cursor) : Option CodePoint × Cursor :=
  match cursor.ahead with
  | [] => (none, cursor)
  | first :: rest => (some first, cursor.passing [first] rest)

/-- The longest run of code points that satisfy a test. -/
def readWhile (test : CodePoint → Bool) (cursor : Cursor) : Text × Cursor :=
  let taken := cursor.ahead.takeWhile test
  (taken, cursor.passing taken (cursor.ahead.dropWhile test))

def readLiteral (cursor : Cursor) : Text × Cursor :=
  cursor.readWhile Lexeme.isLiteral

def readNumber (cursor : Cursor) : Text × Cursor :=
  cursor.readWhile CodePoint.isDigit

/-- A fault of the character under the cursor. -/
def fault (cursor : Cursor) (cause : SyntaxCause) : SyntaxFault :=
  ⟨cause, Span.single cursor.position⟩

/-- The name characters are counted. The cursor stops in front of a malformed triplet. -/
def readNameRun (cursor : Cursor) : Except SyntaxFault Nat × Cursor :=
  let run := Lexeme.nameRun cursor.ahead
  let moved := cursor.passing run.taken run.rest
  if run.isMalformed then (.error (moved.fault .malformedTriplet), moved)
  else (.ok run.count, moved)

/-- A name that stops short leaves the cursor where it stopped. -/
def readName (cursor : Cursor) : Except SyntaxFault Text × Cursor :=
  let moved := cursor.passing (Lexeme.name cursor.ahead).taken (Lexeme.name cursor.ahead).rest
  match (Lexeme.name cursor.ahead).cause with
  | some cause => (.error (moved.fault cause), moved)
  | none => (.ok (Lexeme.name cursor.ahead).taken, moved)

end Cursor

/-- One reading of a cursor. -/
inductive CursorStep
  | peek (distance : Nat)
  | advance
  | literal
  | nameRun
  | name
  | number

/-- What a reading gives: nothing, a text or a count. -/
inductive CursorResult
  | nothing
  | text (text : Text)
  | count (count : Nat)

def CursorResult.ofCodePoint? : Option CodePoint → CursorResult
  | none => .nothing
  | some codePoint => .text [codePoint]

namespace Cursor

def perform (cursor : Cursor) : CursorStep → Except SyntaxFault CursorResult × Cursor
  | .peek distance => (.ok (.ofCodePoint? (cursor.peek distance)), cursor)
  | .advance => (.ok (.ofCodePoint? cursor.advance.1), cursor.advance.2)
  | .literal => (.ok (.text cursor.readLiteral.1), cursor.readLiteral.2)
  | .nameRun => (cursor.readNameRun.1.map .count, cursor.readNameRun.2)
  | .name => (cursor.readName.1.map .text, cursor.readName.2)
  | .number => (.ok (.text cursor.readNumber.1), cursor.readNumber.2)

/-- Each step starts where the one before it stopped, also after a fault. -/
def performAll (cursor : Cursor) : List CursorStep → List (Except SyntaxFault CursorResult × Cursor)
  | [] => []
  | step :: rest => cursor.perform step :: (cursor.perform step).2.performAll rest

end Cursor

end UriTemplate
