import UriTemplate.Text.Numeral

/-
This file counts offsets, lines and columns in code points.
-/

namespace UriTemplate

/-- Lines and columns start at one. -/
structure Position where
  offset : Nat
  line : Nat
  column : Nat
  deriving DecidableEq

namespace Position

def start : Position := ⟨0, 1, 1⟩

/-- Only a line feed begins a new line. -/
def advance (position : Position) (codePoint : CodePoint) : Position :=
  if codePoint = '\n' then ⟨position.offset + 1, position.line + 1, 1⟩
  else ⟨position.offset + 1, position.line, position.column + 1⟩

def after (position : Position) (text : Text) : Position :=
  text.foldl advance position

@[simp] theorem after_nil (position : Position) : position.after [] = position := rfl

@[simp] theorem after_cons (position : Position) (first : CodePoint) (rest : Text) :
    position.after (first :: rest) = (position.advance first).after rest := rfl

theorem after_append (position : Position) (first second : Text) :
    position.after (first ++ second) = (position.after first).after second := by
  simp [after, List.foldl_append]

theorem offset_after (position : Position) (text : Text) :
    (position.after text).offset = position.offset + text.length := by
  induction text generalizing position with
  | nil => rfl
  | cons first rest inductionHypothesis =>
      rw [after_cons, inductionHypothesis]
      unfold advance
      split <;> simp <;> omega

end Position

/-- A range of offsets with the line and the column of its start. -/
structure Span where
  start : Nat
  stop : Nat
  line : Nat
  column : Nat
  deriving DecidableEq

namespace Span

/-- The range that a text covers when it stands at a position. -/
def covering (position : Position) (text : Text) : Span :=
  ⟨position.offset, position.offset + text.length, position.line, position.column⟩

/-- The range of the one character at a position. -/
def single (position : Position) : Span :=
  ⟨position.offset, position.offset + 1, position.line, position.column⟩

/-- The range from the start of the first to the stop of the second. -/
def through (first last : Span) : Span :=
  ⟨first.start, last.stop, first.line, first.column⟩

def written (span : Span) : Text :=
  "Line " ++ Numeral.ofNat span.line ++ ":" ++ Numeral.ofNat span.column ++ " (pos " ++
    Numeral.ofNat span.start ++ "-" ++ Numeral.ofNat span.stop ++ ")"

end Span

end UriTemplate
