import UriTemplate.PercentEncoding
import UriTemplate.Syntax.Fault

/-
This file splits the longest literal run, name and number off the front of a text.
-/

namespace UriTemplate.Lexeme

/-- Literal text goes on up to the next opening brace. -/
def isLiteral (codePoint : CodePoint) : Bool :=
  codePoint ≠ Expression.openBrace

/-- A run of name characters: how many there are, their text and what follows. A percent
triplet counts as one. -/
structure NameRun where
  count : Nat
  taken : Text
  rest : Text

def NameRun.behind (text : Text) (run : NameRun) : NameRun :=
  ⟨run.count + 1, text ++ run.taken, run.rest⟩

def nameRun : Text → NameRun
  | [] => ⟨0, [], []⟩
  | first :: second :: third :: rest =>
      if first.isVarchar then (nameRun (second :: third :: rest)).behind [first]
      else if PercentEncoding.isTriplet first second third then
        (nameRun rest).behind [first, second, third]
      else ⟨0, [], first :: second :: third :: rest⟩
  | first :: rest =>
      if first.isVarchar then (nameRun rest).behind [first] else ⟨0, [], first :: rest⟩

/-- A run that ends at a percent sign ends at a malformed triplet. -/
def NameRun.isMalformed (run : NameRun) : Bool :=
  run.rest.head? = some (CodePoint.ofChar '%')

theorem nameRun_append (text : Text) : (nameRun text).taken ++ (nameRun text).rest = text := by
  fun_induction nameRun text <;> simp_all [NameRun.behind]

theorem nameRun_rest_length (text : Text) : (nameRun text).rest.length ≤ text.length := by
  have parts := congrArg List.length (nameRun_append text)
  rw [List.length_append] at parts
  omega

/-- A reading of text: the part that was taken, a cause if it stopped short, and the rest. -/
structure Reading where
  taken : Text
  rest : Text
  cause : Option SyntaxCause

def Reading.behind (text : Text) (reading : Reading) : Reading :=
  ⟨text ++ reading.taken, reading.rest, reading.cause⟩

/-- Each dot must be followed by at least one name character. -/
def nameTail (taken : Text) : Text → Reading
  | [] => ⟨taken, [], none⟩
  | dot :: rest =>
      if dot = '.' then
        let run := nameRun rest
        let reached := taken ++ dot :: run.taken
        if run.isMalformed then ⟨reached, run.rest, some .malformedTriplet⟩
        else if run.count = 0 then ⟨reached, run.rest, some (.strayDot reached)⟩
        else nameTail reached run.rest
      else ⟨taken, dot :: rest, none⟩
  termination_by text => text.length
  decreasing_by
    have shorter := nameRun_rest_length rest
    simp only [List.length_cons]
    omega

/-- A name is one or more runs of name characters with single dots between them. -/
def name (text : Text) : Reading :=
  let run := nameRun text
  if run.isMalformed then ⟨run.taken, run.rest, some .malformedTriplet⟩
  else if run.count = 0 then ⟨[], text, some .missingName⟩
  else nameTail run.taken run.rest

theorem nameTail_append (taken text : Text) :
    (nameTail taken text).taken ++ (nameTail taken text).rest = taken ++ text := by
  fun_induction nameTail taken text with
  | case1 => rfl
  | case2 taken rest run malformed reached => simp [reached, run, nameRun_append]
  | case3 taken rest run wellFormed noCharacter reached =>
      simp [reached, run, nameRun_append]
  | case4 taken rest run wellFormed hasCharacter reached inductionHypothesis =>
      rw [inductionHypothesis]
      simp [reached, run, nameRun_append]
  | case5 => rfl

theorem name_append (text : Text) : (name text).taken ++ (name text).rest = text := by
  fun_cases name text with
  | case1 run malformed => exact nameRun_append text
  | case2 => rfl
  | case3 run wellFormed hasCharacter => rw [nameTail_append, nameRun_append]

theorem nameTail_taken_ne_nil {taken : Text} (text : Text) (nonempty : taken ≠ []) :
    (nameTail taken text).taken ≠ [] := by
  fun_induction nameTail taken text with
  | case1 => exact nonempty
  | case2 taken rest run malformed reached => simp [reached]
  | case3 taken rest run wellFormed noCharacter reached => simp [reached]
  | case4 taken rest run wellFormed hasCharacter reached inductionHypothesis =>
      exact inductionHypothesis (by simp [reached])
  | case5 => exact nonempty

theorem nameRun_taken_ne_nil {text : Text} (some : (nameRun text).count ≠ 0) :
    (nameRun text).taken ≠ [] := by
  fun_induction nameRun text <;> simp_all [NameRun.behind]

/-- A name that does not stop short has at least one character. -/
theorem name_taken_ne_nil {text : Text} (complete : (name text).cause = none) :
    (name text).taken ≠ [] := by
  revert complete
  fun_cases name text with
  | case1 => simp
  | case2 => simp
  | case3 run wellFormed hasCharacter =>
      intro
      exact nameTail_taken_ne_nil _ (nameRun_taken_ne_nil hasCharacter)

end UriTemplate.Lexeme
