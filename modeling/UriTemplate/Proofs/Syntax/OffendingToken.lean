import UriTemplate.Proofs.Syntax.TokenReading

namespace UriTemplate

open TokenGrammar

namespace Parser

/-! Whatever was read can be continued. -/

/-- A closing brace completes an expression behind any of its variables. -/
theorem exists_closing {lead spec : List Token} (isLead : IsLead lead) (isSpec : IsSpec spec) :
    ∃ closeBrace : Token, closeBrace.IsSound ∧ IsTemplate (lead ++ spec ++ [closeBrace]) :=
  ⟨Token.covering .closeBrace Position.start [Expression.closeBrace],
    Piece.IsProper.closeBrace.isSound _,
    isTemplate_of_isExpression (isLead.isExpression (.single isSpec) rfl)⟩

/-- The tokens in front of a variable can be completed by one. -/
theorem exists_completion_of_isLead {lead : List Token} (isLead : IsLead lead) :
    ∃ rest, (∀ token ∈ rest, token.IsSound) ∧ IsTemplate (lead ++ rest) := by
  let name := Token.covering .name Position.start "x"
  have nameIsSound : name.IsSound :=
    (Piece.IsProper.name (.starting (.letter rfl) .done)).isSound Position.start
  have isSpec : IsSpec [name] := .plain rfl
  obtain ⟨closeBrace, isSound, isTemplate⟩ := exists_closing isLead isSpec
  exact ⟨[name, closeBrace], by simpa using ⟨nameIsSound, isSound⟩, by simpa using isTemplate⟩

/-- An open expression can be completed. -/
theorem exists_completion {state : ParserState} {inner : List Token}
    (read : state.HasRead inner) :
    ∃ rest, (∀ token ∈ rest, token.IsSound) ∧ IsTemplate (inner ++ rest) := by
  cases read with
  | outside => exact ⟨[], by simp, .empty⟩
  | opened opens => exact exists_completion_of_isLead (.opened opens)
  | listing isLead => exact exists_completion_of_isLead isLead
  | continuing isLead => exact exists_completion_of_isLead isLead
  | named isLead isName =>
      obtain ⟨closeBrace, isSound, isTemplate⟩ := exists_closing isLead (.plain isName)
      exact ⟨[closeBrace], by simpa using isSound, isTemplate⟩
  | @sizing draft lead token colon name isLead isName nonempty isColon =>
      let number := Token.covering .number Position.start "1"
      have numberIsSound : number.IsSound :=
        (Piece.IsProper.number (by decide) (by decide)).isSound Position.start
      have isSpec : IsSpec [token, colon, number] :=
        .cut isName isColon rfl rfl (.digits (by decide) (by decide) (by decide))
      obtain ⟨closeBrace, isSound, isTemplate⟩ := exists_closing isLead isSpec
      exact ⟨[number, closeBrace], by simpa using ⟨numberIsSound, isSound⟩,
        by simpa using isTemplate⟩
  | specified isLead isSpec =>
      obtain ⟨closeBrace, isSound, isTemplate⟩ := exists_closing isLead isSpec
      exact ⟨[closeBrace], by simpa using isSound, isTemplate⟩

/-- What the parser has read can be completed to a template. -/
theorem isViable_of_hasRead {progress : Progress} {tokens : List Token}
    (read : progress.HasRead tokens) : IsViable tokens := by
  obtain ⟨outer, inner, rfl, isTemplate, readInner⟩ := read
  obtain ⟨rest, areSound, completed⟩ := exists_completion readInner
  let finish := Token.finishAt Position.start
  have finishSound : finish.IsSound := ⟨nofun, nofun, nofun⟩
  refine ⟨rest ++ [finish], ?_, outer ++ (inner ++ rest), finish, [], ?_, rfl,
    isTemplate.append completed⟩
  · exact List.forall_mem_append.mpr ⟨areSound, by simpa using finishSound⟩
  · simp

/-! The first token that is refused. -/

/-- A run over more tokens goes on from where the first ones lead. -/
theorem Reaches.of_append {progress middle next : Progress} {tokens others : List Token}
    (first : Reaches progress tokens middle) (whole : Reaches progress (tokens ++ others) next) :
    Reaches middle others next := by
  rw [Reaches, List.foldlM_append, first] at whole
  exact whole

/-- A run that fails does so at one of its tokens. -/
theorem exists_refused_of_foldlM {tokens : List Token} {progress : Progress} {fault : ParserFault}
    (failed : tokens.foldlM step progress = .error fault) :
    ∃ before token behind reached, tokens = before ++ token :: behind ∧
      Reaches progress before reached ∧ step reached token = .error fault := by
  induction tokens generalizing progress with
  | nil => cases failed
  | cons first rest inductionHypothesis =>
      rw [List.foldlM_cons] at failed
      cases stepped : step progress first with
      | error other =>
          rw [stepped] at failed
          cases failed
          exact ⟨[], first, rest, progress, rfl, .nil _, stepped⟩
      | ok next =>
          rw [stepped] at failed
          obtain ⟨before, token, behind, reached, rfl, run, refused⟩ := inductionHypothesis failed
          exact ⟨first :: before, token, behind, reached, rfl, .cons stepped run, refused⟩

/-- Inside braces the end of the tokens is a token like any other. -/
theorem finish_of_ne_outside {progress : Progress} (isInside : progress.state ≠ .outside)
    (token : Token) : finish progress token = (step progress token).map Progress.expressions := by
  rcases progress with ⟨expressions, state⟩
  cases state with
  | outside => exact absurd rfl isInside
  | _ => rfl

/-- A stream that is refused is refused at one of its tokens, the finish only inside an
expression. -/
theorem exists_refused_of_expressions {stream : TokenStream} {fault : ParserFault}
    (failed : expressions stream = .error fault) :
    ∃ before token behind reached, stream.toList = before ++ token :: behind ∧
      Reaches ⟨[], .outside⟩ before reached ∧ step reached token = .error fault ∧
      (token ∈ stream.body ∨ before = stream.body ∧ reached.state ≠ .outside) := by
  rw [expressions] at failed
  cases run : stream.body.foldlM step ⟨[], .outside⟩ with
  | error other =>
      rw [run] at failed
      cases failed
      obtain ⟨before, token, behind, reached, split, reaches, refused⟩ :=
        exists_refused_of_foldlM run
      refine ⟨before, token, behind ++ [stream.finish], reached, ?_, reaches, refused, .inl ?_⟩
      · simp [TokenStream.toList, split]
      · simp [split]
  | ok reached =>
      rw [run] at failed
      have isInside : reached.state ≠ .outside := by
        intro isOutside
        rcases reached with ⟨read, state⟩
        obtain rfl : state = .outside := isOutside
        cases failed
      have refused : finish reached stream.finish = .error fault := failed
      rw [finish_of_ne_outside isInside] at refused
      exact ⟨stream.body, stream.finish, [], reached, rfl, run, eq_error_of_map refused,
        .inr ⟨rfl, isInside⟩⟩

/-- A run reads all its tokens. -/
theorem hasRead_of_reaches {progress next : Progress} {earlier tokens : List Token}
    (areSound : ∀ token ∈ tokens, token.IsSound) (read : progress.HasRead earlier)
    (run : Reaches progress tokens next) : next.HasRead (earlier ++ tokens) := by
  induction tokens generalizing progress earlier with
  | nil =>
      cases run
      rwa [List.append_nil]
  | cons first rest inductionHypothesis =>
      have ⟨firstSound, restSound⟩ := List.forall_mem_cons.mp areSound
      have settles := step_settles firstSound read
      rw [Reaches, List.foldlM_cons] at run
      cases stepped : step progress first with
      | error fault =>
          rw [stepped] at run
          cases run
      | ok middle =>
          rw [stepped] at settles run
          have others := inductionHypothesis restSound settles run
          rwa [List.append_assoc] at others

/-- A run from the start reads all its tokens. -/
theorem hasRead_of_run {tokens : List Token} {next : Progress}
    (areSound : ∀ token ∈ tokens, token.IsSound) (run : Reaches ⟨[], .outside⟩ tokens next) :
    next.HasRead tokens := by
  have start : Progress.HasRead ⟨[], .outside⟩ [] := ⟨[], [], rfl, .empty, .outside⟩
  exact hasRead_of_reaches areSound start run

/-- Of sound tokens that are refused, one is reported, behind tokens that were read. -/
theorem exists_offending_of_expressions {stream : TokenStream} {fault : ParserFault}
    (areSound : ∀ token ∈ stream.toList, token.IsSound)
    (failed : expressions stream = .error fault) :
    ∃ before token behind reached cause, stream.toList = before ++ token :: behind ∧
      (∀ other ∈ before, other.IsSound) ∧ token.IsSound ∧
      Reaches ⟨[], .outside⟩ before reached ∧ step reached token = .error fault ∧
      fault = .unexpected ⟨cause, token.span⟩ ∧
      (token ∈ stream.body ∨ before = stream.body ∧ reached.state ≠ .outside) := by
  obtain ⟨before, token, behind, reached, split, run, refused, place⟩ :=
    exists_refused_of_expressions failed
  have ⟨beforeSound, othersSound⟩ := List.forall_mem_append.mp (split ▸ areSound)
  have isSound := othersSound token List.mem_cons_self
  have settles := step_settles isSound (hasRead_of_run beforeSound run)
  rw [refused] at settles
  cases fault with
  | invalidPart fault => exact absurd settles not_false
  | unexpected fault =>
      rcases fault with ⟨cause, span⟩
      obtain rfl : span = token.span := settles
      exact ⟨before, token, behind, reached, cause, split, beforeSound, isSound, run, refused, rfl,
        place⟩

/-- What a sequence has behind tokens without a finish is part of its body, or its first finish. -/
theorem in_body_or_finish {before body rest others : List Token} {token finish : Token}
    (split : before ++ token :: rest = body ++ finish :: others)
    (noFinish : ∀ other ∈ before, other.kind ≠ .finish) (isFinish : finish.kind = .finish) :
    (∃ more, body = before ++ token :: more) ∨ body = before ∧ token.kind = .finish := by
  rcases List.append_eq_append_iff.mp split with ⟨more, rfl, here⟩ | ⟨more, rfl, here⟩
  · cases more with
    | nil =>
        obtain ⟨rfl, -⟩ := List.cons.inj here
        exact .inr ⟨List.append_nil before, isFinish⟩
    | cons first behind =>
        obtain ⟨rfl, -⟩ := List.cons.inj here
        exact .inl ⟨behind, rfl⟩
  · cases more with
    | nil =>
        obtain ⟨rfl, -⟩ := List.cons.inj here
        exact .inr ⟨(List.append_nil body).symm, isFinish⟩
    | cons first behind =>
        obtain ⟨rfl, -⟩ := List.cons.inj here
        exact absurd isFinish (noFinish finish (by simp))

/-- A token that is refused behind what was read cannot follow it in any accepted sequence. -/
theorem not_isViable_of_refused {before : List Token} {token : Token} {reached : Progress}
    {fault : ParserFault} (beforeSound : ∀ other ∈ before, other.IsSound)
    (isSound : token.IsSound) (run : Reaches ⟨[], .outside⟩ before reached)
    (refused : step reached token = .error fault)
    (isNoEnd : token.kind = .finish → reached.state ≠ .outside) :
    ¬IsViable (before ++ [token]) := by
  rintro ⟨rest, restSound, body, finish, others, split, isFinish, isTemplate⟩
  have noFinish := hasRead_kind_ne_finish (hasRead_of_run beforeSound run)
  rw [List.append_assoc, List.singleton_append] at split
  have bodySound : ∀ other ∈ body, other.IsSound := by
    intro other member
    have isThere : other ∈ before ++ token :: rest := split ▸ List.mem_append_left _ member
    rcases List.mem_append.mp isThere with earlier | later
    · exact beforeSound other earlier
    · exact List.forall_mem_cons.mpr ⟨isSound, restSound⟩ other later
  obtain ⟨read, complete⟩ := reaches_of_isTemplate isTemplate bodySound []
  rcases in_body_or_finish split noFinish isFinish with ⟨more, rfl⟩ | ⟨rfl, isEnd⟩
  · have later := run.of_append complete
    rw [Reaches, List.foldlM_cons, refused] at later
    cases later
  · have same := Except.ok.inj (run.symm.trans complete)
    exact isNoEnd isEnd (congrArg Progress.state same)

/-- A stream is read if and only if its tokens form a template. -/
theorem expressions_eq_ok_iff {stream : TokenStream}
    (areSound : ∀ token ∈ stream.toList, token.IsSound) (isFinish : stream.finish.kind = .finish) :
    (∃ read, expressions stream = .ok read) ↔ IsTemplate stream.body := by
  have ⟨bodySound, finishSound⟩ := List.forall_mem_append.mp areSound
  constructor
  · rintro ⟨read, accepted⟩
    rw [expressions] at accepted
    cases run : stream.body.foldlM step ⟨[], .outside⟩ with
    | error fault =>
        rw [run] at accepted
        cases accepted
    | ok reached =>
        rw [run] at accepted
        have hasRead := hasRead_of_run bodySound run
        by_cases isOutside : reached.state = .outside
        · obtain ⟨outer, inner, split, isTemplate, readInner⟩ := hasRead
          rw [isOutside] at readInner
          cases readInner
          rw [List.append_nil] at split
          exact split ▸ isTemplate
        · have finished : finish reached stream.finish = .ok read := accepted
          rw [finish_of_ne_outside isOutside] at finished
          obtain ⟨next, stepped, -⟩ := exists_of_map_eq_ok finished
          have settles := step_settles (finishSound _ List.mem_cons_self) hasRead
          rw [stepped] at settles
          have noFinish := hasRead_kind_ne_finish settles
          exact absurd isFinish (noFinish _ (List.mem_append_right _ List.mem_cons_self))
  · intro isTemplate
    obtain ⟨read, run⟩ := reaches_of_isTemplate isTemplate bodySound []
    refine ⟨read, ?_⟩
    rw [expressions, run]
    rfl

end Parser

namespace Template

/-- Tokens are accepted if their expressions can be read. -/
theorem parseTokens_eq_ok_iff {stream : TokenStream} {source : Option Text} {raw : Text} :
    (∃ template, parseTokens stream source raw = .ok template) ↔
      ∃ read, Parser.expressions stream = .ok read := by
  rw [parseTokens]
  cases result : Parser.expressions stream with
  | ok read => exact ⟨fun _ => ⟨read, rfl⟩, fun _ => ⟨_, rfl⟩⟩
  | error fault => cases fault <;> simp

/-- Of sound tokens that end with a finish, the parser reads exactly the accepted sequences as
templates. Otherwise it reports the first token that no accepted sequence has behind the tokens in
front of it. -/
theorem parseTokens_decides {front : List Token} {last : Token} (isFinish : last.kind = .finish)
    (areSound : ∀ token ∈ front ++ [last], token.IsSound) (source : Option Text) (raw : Text) :
    ∃ stream, TokenStream.ofList? (front ++ [last]) = some stream ∧
      ((∃ template, parseTokens stream source raw = .ok template) ↔
        IsAccepted (front ++ [last])) ∧
      (¬IsAccepted (front ++ [last]) → ∃ before token behind cause,
        front ++ [last] = before ++ token :: behind ∧ IsViable before ∧
          ¬IsViable (before ++ [token]) ∧
          parseTokens stream source raw = .error (.malformed ⟨⟨cause, token.span⟩, source⟩)) := by
  obtain ⟨stream, found⟩ := TokenStream.exists_ofList? front isFinish
  obtain ⟨⟨rest, split⟩, finishKind, noFinish⟩ := TokenStream.ofList?_eq_some_iff.mp found
  have whole : front ++ [last] = stream.toList ++ rest := by simp [split, TokenStream.toList]
  have streamSound : ∀ token ∈ stream.toList, token.IsSound :=
    fun token member => areSound token (whole ▸ List.mem_append_left rest member)
  have decides := Parser.expressions_eq_ok_iff streamSound finishKind
  rw [isAccepted_iff found, ← decides]
  refine ⟨stream, found, parseTokens_eq_ok_iff, ?_⟩
  intro isRefused
  cases failed : Parser.expressions stream with
  | ok read => exact absurd ⟨read, failed⟩ isRefused
  | error fault =>
      obtain ⟨before, token, behind, reached, cause, splitStream, beforeSound, isSound, run,
        refused, rfl, place⟩ := Parser.exists_offending_of_expressions streamSound failed
      have hasRead := Parser.hasRead_of_run beforeSound run
      have isNoEnd : token.kind = .finish → reached.state ≠ .outside := by
        intro isEnd
        rcases place with inBody | ⟨-, isInside⟩
        · exact absurd isEnd (noFinish token inBody)
        · exact isInside
      refine ⟨before, token, behind ++ rest, cause, ?_, Parser.isViable_of_hasRead hasRead,
        Parser.not_isViable_of_refused beforeSound isSound run refused isNoEnd, ?_⟩
      · rw [whole, splitStream, List.append_assoc, List.cons_append]
      · rw [parseTokens, failed]

/-- The first finish stands inside an expression; the closing brace behind it is never read. -/
theorem parseTokens_decides_early_finish :
    let brace : Token := ⟨.openBrace, none, ⟨0, 1, 1, 1⟩⟩
    let name : Token := ⟨.name, some "x", ⟨7, 3, 0, 5⟩⟩
    let early : Token := ⟨.finish, none, ⟨2, 2, 1, 3⟩⟩
    let close : Token := ⟨.closeBrace, some "\x7d", ⟨2, 3, 1, 3⟩⟩
    let tokens := [brace, name, early, close] ++ [early]
    (∀ token ∈ tokens, token.IsSound) ∧ ¬IsAccepted tokens ∧
      parseTokens ⟨[brace, name], early⟩ none [] =
        .error (.malformed ⟨⟨.unfinishedVariable .finish, early.span⟩, none⟩) ∧
      ∃ before token behind, tokens = before ++ token :: behind ∧ token.span = early.span ∧
        IsViable before ∧ ¬IsViable (before ++ [token]) := by
  intro brace name early close tokens
  have areSound : ∀ token ∈ tokens, token.IsSound := by
    have braceSound : brace.IsSound := ⟨nofun, nofun, nofun⟩
    have nameSound : name.IsSound := ⟨nofun, fun _ => ⟨"x", by decide, rfl⟩, nofun⟩
    have earlySound : early.IsSound := ⟨nofun, nofun, nofun⟩
    have closeSound : close.IsSound := ⟨nofun, nofun, nofun⟩
    simp [tokens, braceSound, nameSound, earlySound, closeSound]
  have refused : parseTokens ⟨[brace, name], early⟩ none [] =
      .error (.malformed ⟨⟨.unfinishedVariable .finish, early.span⟩, none⟩) := by decide
  obtain ⟨stream, found, decides, reports⟩ := parseTokens_decides rfl areSound none []
  obtain rfl : ⟨[brace, name], early⟩ = stream := Option.some.inj found
  have isRefused : ¬IsAccepted tokens := by
    intro isAccepted
    obtain ⟨template, accepted⟩ := decides.mpr isAccepted
    rw [refused] at accepted
    cases accepted
  obtain ⟨before, token, behind, cause, split, isViable, isNotViable, reported⟩ :=
    reports isRefused
  rw [refused, Except.error.injEq, ParseError.malformed.injEq, SyntaxError.mk.injEq,
    SyntaxFault.mk.injEq] at reported
  exact ⟨areSound, isRefused, refused, before, token, behind, split, reported.1.2.symm, isViable,
    isNotViable⟩

end Template

end UriTemplate
