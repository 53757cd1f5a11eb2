import UriTemplate.Syntax.Fault

/-
This file renders errors for people: a header, the place in the template and suggestions.
-/

namespace UriTemplate

inductive DiagnosticKind
  | general
  | malformedTemplate
  | invalidResult (uri : Text)
  deriving DecidableEq

def DiagnosticKind.label : DiagnosticKind → Text
  | general => "TemplateDiagnostic"
  | malformedTemplate => "TemplateSyntaxError"
  | invalidResult _ => "TemplateExpansionError"

structure Diagnostic where
  kind : DiagnosticKind
  message : Text
  span : Option Span
  source : Option Text
  suggestions : List Text
  deriving DecidableEq

/-- The span names a line that the template does not have. -/
structure MissingLine where
  line : Nat
  deriving DecidableEq

def MissingLine.message (_ : MissingLine) : Text :=
  "list index out of range"

namespace Diagnostic

/-- Lines are numbered from one, and the last line stands for line zero. -/
def line? (lines : List Text) : Nat → Option Text
  | 0 => lines.getLast?
  | number + 1 => lines[number]?

/-- The line of the template and a caret under the column of the span. -/
def excerpt (source : Text) (span : Span) : Except MissingLine (List Text) :=
  match line? source.lines span.line with
  | some line =>
      .ok ["   | " ++ line,
        "   | " ++ List.replicate (span.column - 1) (CodePoint.ofChar ' ') ++ "^"]
  | none => .error ⟨span.line⟩

/-- A result is shown by itself; a place in a template is shown with its line. -/
def locationLines (diagnostic : Diagnostic) : Except MissingLine (List Text) :=
  match diagnostic.kind with
  | .invalidResult uri => .ok ["  Result: " ++ uri]
  | _ =>
      match diagnostic.span with
      | none => .ok []
      | some span =>
          let arrow : Text := "  --> " ++ span.written
          match diagnostic.source with
          | none => .ok [arrow]
          | some source => (excerpt source span).map (arrow :: ·)

def numbered (number : Nat) : List Text → List Text
  | [] => []
  | suggestion :: rest =>
      ("  " ++ Numeral.ofNat number ++ ") " ++ suggestion) :: numbered (number + 1) rest

def suggestionLines (diagnostic : Diagnostic) : List Text :=
  if diagnostic.suggestions.isEmpty then []
  else Text.ofString "\nSuggestions:" :: numbered 1 diagnostic.suggestions

def format (diagnostic : Diagnostic) : Except MissingLine Text :=
  diagnostic.locationLines.map fun location =>
    let header : Text := diagnostic.kind.label ++ ": " ++ diagnostic.message
    Text.join "\n" (header :: location ++ diagnostic.suggestionLines)

end Diagnostic

def SyntaxError.diagnostic (error : SyntaxError) : Diagnostic :=
  ⟨.malformedTemplate, error.fault.cause.message, some error.fault.span, error.source,
    error.fault.cause.suggestions⟩

end UriTemplate
