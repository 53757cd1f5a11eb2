import UriTemplate.Proofs.Syntax.OffendingToken
import UriTemplate.Proofs.Syntax.TokenOrder

namespace UriTemplate

/-- A fault marks characters of the text, or the end of a text that breaks off behind a dot. -/
inductive SyntaxFault.IsPlaced (source : Text) : SyntaxFault → Prop
  | within {cause : SyntaxCause} {before marked behind : Text}
      (split : before ++ (marked ++ behind) = source) (nonempty : marked ≠ []) :
      IsPlaced source ⟨cause, Span.covering (Position.start.after before) marked⟩
  | behind {before taken : Text} (split : before ++ taken = source)
      (endsInDot : taken.getLast? = some (CodePoint.ofChar '.')) :
      IsPlaced source ⟨.strayDot taken, Span.single (Position.start.after source)⟩

/-! A reading that stops short stops in front of a character, or behind a dot. -/

namespace Lexeme

/-- A malformed triplet stands in the text. -/
theorem NameRun.rest_ne_nil {run : NameRun} (malformed : run.isMalformed = true) :
    run.rest ≠ [] := by
  intro isEmpty
  simp [isMalformed, isEmpty] at malformed

/-- Without a name character nothing is taken. -/
theorem nameRun_taken_eq_nil {text : Text} (noCharacter : (nameRun text).count = 0) :
    (nameRun text).taken = [] := by
  revert noCharacter
  fun_cases nameRun text <;> simp [NameRun.behind]

/-- A name that breaks off is followed by something, or it ends with a stray dot. -/
theorem nameTail_of_cause {taken text : Text} {cause : SyntaxCause}
    (short : (nameTail taken text).cause = some cause) :
    (nameTail taken text).rest ≠ [] ∨ cause = .strayDot (nameTail taken text).taken ∧
      (nameTail taken text).taken.getLast? = some (CodePoint.ofChar '.') := by
  revert short
  fun_induction nameTail taken text with
  | case1 => simp
  | case2 taken rest run malformed reached => exact fun _ => .inl (NameRun.rest_ne_nil malformed)
  | case3 taken rest run wellFormed noCharacter reached =>
      intro short
      have endsInDot : reached = taken ++ [CodePoint.ofChar '.'] := by
        simp [reached, run, nameRun_taken_eq_nil noCharacter]
      exact .inr ⟨(Option.some.inj short).symm, by rw [endsInDot, List.getLast?_concat]⟩
  | case4 taken rest run wellFormed hasCharacter reached inductionHypothesis =>
      exact inductionHypothesis
  | case5 => simp

/-- Where no name can be read, something follows, or the name ends with a stray dot. -/
theorem name_of_cause {text : Text} {cause : SyntaxCause} (nonempty : text ≠ [])
    (short : (name text).cause = some cause) :
    (name text).rest ≠ [] ∨ cause = .strayDot (name text).taken ∧
      (name text).taken.getLast? = some (CodePoint.ofChar '.') := by
  revert short
  fun_cases name text with
  | case1 run malformed => exact fun _ => .inl (NameRun.rest_ne_nil malformed)
  | case2 => exact fun _ => .inl nonempty
  | case3 run wellFormed hasCharacter => exact nameTail_of_cause

end Lexeme

/-- Text that cannot be cut is marked at one of its characters, unless it breaks off at its end. -/
theorem Cut.passed_of_next {place : Place} {first : CodePoint} {rest : Text} {fault : LexFault}
    (refused : next place first rest = .error fault) :
    (∃ marked behind, fault.passed ++ marked :: behind = first :: rest) ∨
      fault.passed = first :: rest ∧ fault.cause = .strayDot (first :: rest) ∧
        (first :: rest).getLast? = some (CodePoint.ofChar '.') := by
  have atFirst {cause : SyntaxCause} (refused : refuse cause = .error fault) :
      ∃ marked behind, fault.passed ++ marked :: behind = first :: rest := by
    cases refused
    exact ⟨first, rest, rfl⟩
  revert refused
  fun_cases next place first rest with
  | case2 | case9 | case10 | case11 => exact fun refused => .inl (atFirst refused)
  | case8 =>
      intro refused
      unfold name at refused
      split at refused
      · rename_i cause short
        cases refused
        have whole := Lexeme.name_append (first :: rest)
        by_cases isWhole : (Lexeme.name (first :: rest)).rest = []
        · obtain ⟨rfl, endsInDot⟩ := (Lexeme.name_of_cause (List.cons_ne_nil first rest)
            short).resolve_left (not_not.mpr isWhole)
          rw [isWhole, List.append_nil] at whole
          rw [whole] at endsInDot ⊢
          exact .inr ⟨rfl, rfl, endsInDot⟩
        · obtain ⟨marked, behind, split⟩ := List.exists_cons_of_ne_nil isWhole
          exact .inl ⟨marked, behind, by rw [← split, whole]⟩
      · cases refused
  | _ =>
      intro accepted
      cases accepted

/-- Inside an expression the span of its opening brace marks a brace of the text. -/
inductive LexMode.IsPlaced (source : Text) : LexMode → Prop
  | literal : IsPlaced source .literal
  | expression {place : Place} {before behind : Text}
      (split : before ++ ([Expression.openBrace] ++ behind) = source) :
      IsPlaced source (.expression place
        (Span.covering (Position.start.after before) [Expression.openBrace]))

namespace Lexer

/-- Behind any part of a text, the fault that ends the cutting is placed in the whole text. -/
theorem isPlaced_of_tokensFrom {source before text : Text} {mode : LexMode} {position : Position}
    {fault : SyntaxFault} (refused : tokensFrom mode position text = .error fault)
    (reached : position = Position.start.after before) (split : before ++ text = source)
    (isPlaced : mode.IsPlaced source) : fault.IsPlaced source := by
  revert before fault
  fun_induction tokensFrom mode position text
  case case1 =>
    intro before fault accepted
    cases accepted
  case case2 place openBrace =>
    intro before fault refused reached split
    cases refused
    cases isPlaced with
    | expression split => exact .within split (List.cons_ne_nil _ _)
  case case3 position rest token inductionHypothesis =>
    intro before fault refused reached split
    subst reached
    have next := Position.after_concat Position.start before Expression.openBrace
    exact inductionHypothesis (.expression split) (eq_error_of_map refused) next.symm
      ((List.append_assoc _ _ _).trans split)
  case case4 position first rest isLiteral taken inductionHypothesis =>
    intro before fault refused reached split
    subst reached
    refine inductionHypothesis .literal (eq_error_of_map refused)
      (Position.after_append _ before taken).symm ?_
    simpa [taken] using split
  case case5 position first rest place openBrace cutFault next =>
    intro before fault refused reached split
    subst reached
    cases refused
    rw [← Position.after_append]
    rcases Cut.passed_of_next next with ⟨marked, behind, splitText⟩ | ⟨isWhole, isStray, endsInDot⟩
    · have whole : before ++ cutFault.passed ++ ([marked] ++ behind) = source := by
        rw [← split, ← splitText, List.append_assoc, List.singleton_append]
      rw [Span.single_eq_covering _ marked]
      exact .within whole (List.cons_ne_nil marked [])
    · rw [isWhole, isStray, split]
      exact .behind split endsInDot
  case case6 position first rest place openBrace cut next mode inductionHypothesis =>
    intro before fault refused reached split
    subst reached
    have modeIsPlaced : mode.IsPlaced source := by
      cases isPlaced with
      | expression splitBrace =>
          unfold mode
          split
          · exact .literal
          · exact .expression splitBrace
    refine inductionHypothesis modeIsPlaced (eq_error_of_map refused)
      (Position.after_append _ before cut.taken).symm ?_
    rw [List.append_assoc, (Cut.isSplit_next next).append]
    exact split

/-- A fault that ends the cutting is placed in the text. -/
theorem isPlaced_of_stream {source : Text} {fault : SyntaxFault}
    (refused : Lexer.stream source = .error fault) : fault.IsPlaced source :=
  isPlaced_of_tokensFrom (eq_error_of_map refused) (Position.after_nil _).symm
    (List.nil_append source) .literal

/-- A token of the body marks the text that it stands on. -/
theorem exists_marked_of_mem_body {source : Text} {stream : TokenStream}
    (cut : Lexer.stream source = .ok stream) {token : Token} (member : token ∈ stream.body) :
    token.IsSound ∧ ∃ before marked behind, before ++ (marked ++ behind) = source ∧ marked ≠ [] ∧
      token.span = Span.covering (Position.start.after before) marked := by
  obtain ⟨tokens, found, rfl⟩ := exists_of_map_eq_ok cut
  obtain ⟨pieces, rfl, rfl, areProper⟩ := tile_of_tokensFrom found
  obtain ⟨⟨kind, taken⟩, isPiece, before, behind, split, rfl⟩ :=
    Piece.exists_of_mem_laid [] member
  have isProper := areProper _ isPiece
  exact ⟨isProper.isSound _, before, taken, behind, split, isProper.ne_nil, rfl⟩

/-- All tokens of a text are sound. -/
theorem isSound_of_mem_stream {source : Text} {stream : TokenStream}
    (cut : Lexer.stream source = .ok stream) : ∀ token ∈ stream.toList, token.IsSound := by
  intro token member
  rcases List.mem_append.mp member with inBody | isLast
  · exact (exists_marked_of_mem_body cut inBody).1
  · rw [List.mem_singleton.mp isLast, finish_of_stream cut]
    exact ⟨nofun, nofun, nofun⟩

end Lexer

/-! The tokens of a text close every expression, so the parser never stops at the finish. -/

namespace TokenGrammar

/-- The last token of an open expression keeps it open. -/
theorem IsSpec.exists_last {spec : List Token} (isSpec : IsSpec spec) :
    ∃ last ∈ spec.getLast?, last.kind.isInside = true := by
  cases isSpec with
  | plain isName => exact ⟨_, rfl, isName ▸ rfl⟩
  | exploded isName isStar => exact ⟨_, rfl, isStar ▸ rfl⟩
  | cut isName isColon isNumber => exact ⟨_, rfl, isNumber ▸ rfl⟩

/-- The tokens in front of a variable end inside braces. -/
theorem IsLead.exists_last {lead : List Token} (isLead : IsLead lead) :
    ∃ last ∈ lead.getLast?, last.kind.isInside = true := by
  cases isLead with
  | opened opens => exact ⟨_, rfl, opens ▸ rfl⟩
  | operated opens isOperator => exact ⟨_, rfl, isOperator ▸ rfl⟩
  | listed isLead isSpec isComma => exact ⟨_, List.getLast?_concat, isComma ▸ rfl⟩

end TokenGrammar

/-- An open expression has a last token, and it is inside braces. -/
theorem ParserState.HasRead.exists_last {state : ParserState} {inner : List Token}
    (read : state.HasRead inner) (isInside : state ≠ .outside) :
    ∃ last ∈ inner.getLast?, last.kind.isInside = true := by
  cases read with
  | outside => exact absurd rfl isInside
  | opened opens => exact ⟨_, rfl, opens ▸ rfl⟩
  | listing isLead => exact isLead.exists_last
  | continuing isLead => exact isLead.exists_last
  | named isLead isName => exact ⟨_, List.getLast?_concat, isName ▸ rfl⟩
  | @sizing draft lead name colon _ isLead isName nonempty isColon =>
      refine ⟨colon, ?_, isColon ▸ rfl⟩
      rw [List.getLast?_append_cons]
      rfl
  | specified isLead isSpec =>
      obtain ⟨last, isLast, opens⟩ := isSpec.exists_last
      exact ⟨last, by rw [List.getLast?_append, isLast]; rfl, opens⟩

namespace Parser

/-- The parser stands outside expressions when it has read all tokens of a text. -/
theorem outside_of_reaches {source : Text} {stream : TokenStream} {reached : Progress}
    (cut : Lexer.stream source = .ok stream) (run : Reaches ⟨[], .outside⟩ stream.body reached) :
    reached.state = .outside := by
  have ⟨bodySound, _⟩ := List.forall_mem_append.mp (Lexer.isSound_of_mem_stream cut)
  obtain ⟨outer, inner, split, -, read⟩ := hasRead_of_run bodySound run
  by_contra isInside
  obtain ⟨last, isLast, opens⟩ := read.exists_last isInside
  have precedes := TokenStream.precedes_of_isChain (Lexer.isChain_of_stream cut)
  have isLastOfBody : stream.body.getLast? = some last := by
    rw [split, List.getLast?_append, isLast]
    rfl
  rw [isLastOfBody, Lexer.finish_of_stream cut] at precedes
  have closes : last.kind = .literal ∨ last.kind = .closeBrace := precedes
  rcases closes with isLiteral | isBrace
  · exact absurd opens (isLiteral ▸ Bool.false_ne_true)
  · exact absurd opens (isBrace ▸ Bool.false_ne_true)

/-- The parser reports tokens that stand on text. -/
theorem isPlaced_of_expressions {source : Text} {stream : TokenStream} {fault : ParserFault}
    (cut : Lexer.stream source = .ok stream) (failed : expressions stream = .error fault) :
    ∃ found, fault = .unexpected found ∧ found.IsPlaced source := by
  obtain ⟨before, token, behind, reached, cause, -, -, -, run, -, rfl, place⟩ :=
    exists_offending_of_expressions (Lexer.isSound_of_mem_stream cut) failed
  have inBody : token ∈ stream.body := by
    rcases place with inBody | ⟨rfl, isInside⟩
    · exact inBody
    · exact absurd (outside_of_reaches cut run) isInside
  obtain ⟨-, front, marked, rest, split, nonempty, sameSpan⟩ :=
    Lexer.exists_marked_of_mem_body cut inBody
  exact ⟨_, rfl, sameSpan ▸ .within split nonempty⟩

end Parser

namespace Template

/-- A text that is no template is reported as malformed, together with the text and a place in
it. -/
theorem isPlaced_of_parse {source : Text} {error : ParseError}
    (refused : parse source = .error error) :
    ∃ fault : SyntaxFault, error = .malformed ⟨fault, some source⟩ ∧ fault.IsPlaced source := by
  rw [parse] at refused
  cases cut : Lexer.stream source with
  | error fault =>
      rw [cut] at refused
      cases refused
      exact ⟨fault, rfl, Lexer.isPlaced_of_stream cut⟩
  | ok stream =>
      simp only [cut, parseTokens] at refused
      cases failed : Parser.expressions stream with
      | ok expressions =>
          rw [failed] at refused
          cases refused
      | error fault =>
          obtain ⟨found, rfl, isPlaced⟩ := Parser.isPlaced_of_expressions cut failed
          rw [failed] at refused
          cases refused
          exact ⟨found, rfl, isPlaced⟩

end Template

/-- A placed fault starts in the text or at its end, and is numbered there. -/
theorem SyntaxFault.IsPlaced.isNumbered {source : Text} {fault : SyntaxFault}
    (isPlaced : fault.IsPlaced source) :
    fault.span.start ≤ source.length ∧ fault.span.IsNumberedIn source := by
  cases isPlaced with
  | @within cause before marked behind split nonempty =>
      subst split
      refine ⟨?_, Span.isNumberedIn_covering before marked (marked ++ behind)⟩
      rw [Span.start_covering, List.length_append]
      exact Nat.le_add_right _ _
  | behind split endsInDot =>
      have isNumbered := Span.isNumberedIn_covering source [CodePoint.ofChar '.'] []
      rw [List.append_nil, ← Span.single_eq_covering] at isNumbered
      refine ⟨?_, isNumbered⟩
      rw [Span.single_eq_covering _ (CodePoint.ofChar '.'), Span.start_covering]

namespace Template

/-- The report of a malformed text names the text and a place in it by offset, line and column. It
shows the line of that place, with a caret below the character there. -/
theorem parse_fault_located {source : Text} {error : ParseError}
    (refused : parse source = .error error) :
    ∃ fault : SyntaxFault, error = .malformed ⟨fault, some source⟩ ∧
      fault.span.start ≤ source.length ∧ fault.span.IsNumberedIn source ∧
      (SyntaxError.diagnostic ⟨fault, some source⟩).format = .ok (Text.join "\n"
        (["TemplateSyntaxError: " ++ fault.cause.message, "  --> " ++ fault.span.written,
          "   | " ++ source.lineAround fault.span.start,
          "   | " ++ List.replicate (source.lineBefore fault.span.start).length
            (CodePoint.ofChar ' ') ++ "^"] ++
          Diagnostic.suggestionLines (SyntaxError.diagnostic ⟨fault, some source⟩))) ∧
      ∀ marked, source[fault.span.start]? = some marked → marked ≠ CodePoint.ofChar '\n' →
        (source.lineAround fault.span.start)[(source.lineBefore fault.span.start).length]? =
          some marked := by
  obtain ⟨fault, rfl, isPlaced⟩ := isPlaced_of_parse refused
  have ⟨inRange, isNumbered⟩ := isPlaced.isNumbered
  exact ⟨fault, rfl, inRange, isNumbered, Diagnostic.format_of_isNumberedIn isNumbered,
    fun marked isThere isNoLineFeed => Text.getElem?_lineAround isThere isNoLineFeed⟩

theorem parse_fault_located_second_line :
    let source := Text.ofString "a\nb\x7bc d\x7d\ne"
    let fault : SyntaxFault := ⟨.blank, ⟨5, 6, 2, 4⟩⟩
    parse source = .error (.malformed ⟨fault, some source⟩) ∧
      fault.span.IsNumberedIn source ∧
      (SyntaxError.diagnostic ⟨fault, some source⟩).format = .ok (Text.join "\n"
        ["TemplateSyntaxError: Whitespace is not allowed inside an expression",
          "  --> Line 2:4 (pos 5-6)", "   | b\x7bc d\x7d", "   |    ^"]) := by
  intro source fault
  have refused : parse source = .error (.malformed ⟨fault, some source⟩) := by decide +kernel
  obtain ⟨other, same, -, isNumbered, shown, -⟩ := parse_fault_located refused
  obtain rfl : fault = other := (SyntaxError.mk.inj (ParseError.malformed.inj same)).1
  refine ⟨refused, isNumbered, ?_⟩
  rw [shown]
  decide +kernel

/-- A fault marks at least one character of the text, unless the text breaks off behind a dot of a
name: then the mark is the character that would come next. -/
theorem parse_fault_marks_text {source : Text} {error : ParseError}
    (refused : parse source = .error error) :
    ∃ fault : SyntaxFault, error = .malformed ⟨fault, some source⟩ ∧
      fault.span.start < fault.span.stop ∧
      (fault.span.stop ≤ source.length ∧
          (source.slice fault.span.start fault.span.stop).length =
            fault.span.stop - fault.span.start ∨
        ∃ before taken, before ++ taken = source ∧
          taken.getLast? = some (CodePoint.ofChar '.') ∧ fault.cause = .strayDot taken ∧
          fault.span.start = source.length ∧ fault.span.stop = source.length + 1) := by
  obtain ⟨fault, rfl, isPlaced⟩ := isPlaced_of_parse refused
  refine ⟨fault, rfl, ?_⟩
  cases isPlaced with
  | @within cause before marked behind split nonempty =>
      have marksSome : 0 < marked.length := List.length_pos_iff.mpr nonempty
      have whole : before.length + marked.length ≤ source.length := by
        rw [← split, ← List.append_assoc, List.length_append, List.length_append]
        exact Nat.le_add_right _ _
      simp only [Span.start_covering, Span.stop_covering]
      refine ⟨Nat.lt_add_of_pos_right marksSome, .inl ⟨whole, ?_⟩⟩
      rw [← split, Text.slice_append, Nat.add_sub_cancel_left]
  | @behind before taken split endsInDot =>
      rw [Span.single_eq_covering _ (CodePoint.ofChar '.'), Span.start_covering,
        Span.stop_covering]
      exact ⟨Nat.lt_succ_self _, .inr ⟨before, taken, split, endsInDot, rfl, rfl, rfl⟩⟩

theorem parse_fault_marks_text_plain :
    let source := Text.ofString "\x7ba..b\x7d"
    let fault : SyntaxFault := ⟨.strayDot "a.", ⟨3, 4, 1, 4⟩⟩
    parse source = .error (.malformed ⟨fault, some source⟩) ∧ fault.span.stop ≤ source.length ∧
      source.slice fault.span.start fault.span.stop = "." := by
  intro source fault
  have refused : parse source = .error (.malformed ⟨fault, some source⟩) := by decide +kernel
  obtain ⟨other, same, -, marksText | ⟨before, taken, -, -, -, startsBehind, -⟩⟩ :=
    parse_fault_marks_text refused
  all_goals obtain rfl : fault = other := (SyntaxError.mk.inj (ParseError.malformed.inj same)).1
  · exact ⟨refused, marksText.1, by decide +kernel⟩
  · exact absurd startsBehind (by decide +kernel)

/-- The dot is the last character, and the mark lies behind it. -/
theorem parse_fault_behind_text :
    ∃ fault : SyntaxFault, parse "\x7ba." = .error (.malformed ⟨fault, some "\x7ba."⟩) ∧
      (Text.ofString "\x7ba.").length < fault.span.stop :=
  ⟨⟨.strayDot "a.", ⟨3, 4, 1, 4⟩⟩, by decide +kernel, by decide +kernel⟩

end Template

end UriTemplate
