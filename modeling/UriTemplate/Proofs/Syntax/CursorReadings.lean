import UriTemplate.Proofs.Syntax.Name
import UriTemplate.Proofs.Syntax.Numbering
import UriTemplate.Syntax.Cursor

namespace UriTemplate

namespace Text

/-- The longest run of code points with a property stands between two offsets. -/
structure IsLongestRun (property : CodePoint → Prop) (text : Text) (start stop : Nat) : Prop where
  holds : ∀ codePoint ∈ text.slice start stop, property codePoint
  longest : ∀ further ≤ text.length,
    (∀ codePoint ∈ text.slice start further, property codePoint) → further ≤ stop

/-- A name stands between two offsets, and nothing behind it lengthens it. -/
structure IsWholeName (text : Text) (start stop : Nat) : Prop where
  isName : Grammar.IsName (text.slice start stop)
  stops : Lexeme.StopsName (text.drop stop)

/-- A slice behind a first part is taken from the rest. -/
theorem slice_length_add (before ahead : Text) (count : Nat) :
    slice (before ++ ahead) before.length (before.length + count) = ahead.take count := by
  rw [slice, List.take_length_add_append, List.drop_left]

/-- What is sliced off and what lies behind it make up the text from an offset on. -/
theorem slice_append_drop {text : Text} {start stop : Nat} (nonempty : text.slice start stop ≠ []) :
    text.slice start stop ++ text.drop stop = text.drop start := by
  have inFront : start ≤ (text.take stop).length := by
    by_contra isBehind
    exact nonempty (List.drop_eq_nil_of_le (Nat.le_of_not_le isBehind))
  rw [slice, ← List.drop_append_of_le_length inFront, List.take_append_drop]

/-- What passes a test in front of the cursor is a longest run. -/
theorem isLongestRun_takeWhile (test : CodePoint → Bool) (before ahead : Text) :
    IsLongestRun (fun codePoint => test codePoint = true) (before ++ ahead) before.length
      (before.length + (ahead.takeWhile test).length) where
  holds codePoint member := by
    rw [slice_length_add, ← List.prefix_iff_eq_take.mp (List.takeWhile_prefix test)] at member
    exact List.mem_takeWhile_imp member
  longest further inRange passes := by
    by_cases isInFront : further ≤ before.length
    · exact Nat.le_add_right_of_le isInFront
    · -- All of the further range is ahead and passes, so it is a first part of the run.
      obtain ⟨count, rfl⟩ := Nat.exists_eq_add_of_le (Nat.le_of_not_le isInFront)
      rw [List.length_append] at inRange
      rw [slice_length_add] at passes
      have run : (ahead.take count ++ ahead.drop count).takeWhile test =
          ahead.take count ++ (ahead.drop count).takeWhile test :=
        List.takeWhile_append_of_pos passes
      rw [List.take_append_drop] at run
      have counted : (ahead.take count).length = count :=
        List.length_take_of_le (Nat.le_of_add_le_add_left inRange)
      rw [run, List.length_append, counted]
      omega

end Text

/-- What a step of a cursor gives when it moves from one offset of a source to another. A run of
name characters is refused only in front of a percent sign that begins no triplet, and a name only
where no whole name stands. -/
def CursorStep.Gives (source : Text) (start stop : Nat)
    (outcome : Except SyntaxFault CursorResult) : CursorStep → Prop
  | .peek distance => outcome = .ok (.ofCodePoint? source[start + distance]?) ∧ stop = start
  | .advance =>
      outcome = .ok (.ofCodePoint? source[start]?) ∧ stop = min (start + 1) source.length
  | .literal =>
      outcome = .ok (.text (source.slice start stop)) ∧
        source.IsLongestRun (· ≠ Expression.openBrace) start stop
  | .nameRun =>
      ∃ characters : List Text, characters.flatten = source.slice start stop ∧
        (∀ character ∈ characters, Grammar.IsVarchar character) ∧
        (∀ character, Grammar.IsVarchar character → ¬ character <+: source.drop stop) ∧
        if source[stop]? = some (CodePoint.ofChar '%') then ∃ fault, outcome = .error fault
        else outcome = .ok (.count characters.length)
  | .name =>
      (∀ result, outcome = .ok result →
        result = .text (source.slice start stop) ∧ source.IsWholeName start stop) ∧
      ((∃ further, source.IsWholeName start further) → ∃ result, outcome = .ok result)
  | .number =>
      outcome = .ok (.text (source.slice start stop)) ∧
        source.IsLongestRun (fun codePoint => codePoint.isDigit = true) start stop

namespace Cursor

/-- The line and the column of a cursor are those of its offset in the source, and the text from
that offset on is ahead. -/
structure IsConsistent (cursor : Cursor) (source : Text) : Prop where
  inRange : cursor.position.offset ≤ source.length
  line : cursor.position.line =
    1 + (source.take cursor.position.offset).count (CodePoint.ofChar '\n')
  column : cursor.position.column = 1 + (source.lineBefore cursor.position.offset).length
  ahead : cursor.ahead = source.drop cursor.position.offset

/-- The cursors of a run: the one that it starts with, and the one that each step leaves. -/
def visited (cursor : Cursor) (steps : List CursorStep) : List Cursor :=
  cursor :: (cursor.performAll steps).map Prod.snd

/-- The cursor has moved over the first part of a source. -/
structure StandsBehind (cursor : Cursor) (before source : Text) : Prop where
  position : cursor.position = Position.start.after before
  split : before ++ cursor.ahead = source

/-- At the start a cursor has moved over nothing. -/
theorem standsBehind_atStart (source : Text) : (atStart source).StandsBehind [] source :=
  ⟨rfl, rfl⟩

/-- The offset grows by what is taken. -/
theorem offset_passing (cursor : Cursor) (taken rest : Text) :
    (cursor.passing taken rest).position.offset = cursor.position.offset + taken.length :=
  Position.offset_after _ _

/-- Reading name characters takes the run of them. -/
theorem snd_readNameRun (cursor : Cursor) :
    cursor.readNameRun.2 = cursor.passing (Lexeme.nameRun cursor.ahead).taken
      (Lexeme.nameRun cursor.ahead).rest := by
  rw [readNameRun]
  split <;> rfl

theorem snd_readName (cursor : Cursor) :
    cursor.readName.2 = cursor.passing (Lexeme.name cursor.ahead).taken
      (Lexeme.name cursor.ahead).rest := by
  rw [readName]
  split <;> rfl

/-- Every step moves the cursor over a first part of the text ahead, also when it fails. -/
theorem exists_passing_perform (cursor : Cursor) (step : CursorStep) :
    ∃ taken rest, taken ++ rest = cursor.ahead ∧
      (cursor.perform step).2 = cursor.passing taken rest := by
  cases step with
  | peek distance => exact ⟨[], cursor.ahead, rfl, rfl⟩
  | advance =>
      simp only [perform, advance]
      split
      · exact ⟨[], cursor.ahead, rfl, rfl⟩
      · rename_i first rest isAhead
        exact ⟨[first], rest, isAhead.symm, rfl⟩
  | literal => exact ⟨_, _, List.takeWhile_append_dropWhile, rfl⟩
  | nameRun => exact ⟨_, _, Lexeme.nameRun_append cursor.ahead, cursor.snd_readNameRun⟩
  | name => exact ⟨_, _, Lexeme.name_append cursor.ahead, cursor.snd_readName⟩
  | number => exact ⟨_, _, List.takeWhile_append_dropWhile, rfl⟩

namespace StandsBehind

variable {cursor : Cursor} {before source : Text}

/-- The offset is the length of what was taken. -/
theorem offset_eq (behind : cursor.StandsBehind before source) :
    cursor.position.offset = before.length := by
  rw [behind.position, Position.offset_after]
  exact Nat.zero_add _

/-- A cursor behind a first part agrees with the source. -/
theorem isConsistent (behind : cursor.StandsBehind before source) :
    cursor.IsConsistent source := by
  have numbered : (Span.single cursor.position).IsNumberedIn source := by
    have isNumbered := Span.isNumberedIn_covering before [default] cursor.ahead
    rwa [← Span.single_eq_covering, ← behind.position, behind.split] at isNumbered
  refine ⟨?_, numbered.line, numbered.column, ?_⟩
  · rw [behind.offset_eq, ← behind.split, List.length_append]
    exact Nat.le_add_right _ _
  · rw [behind.offset_eq, ← behind.split, List.drop_left]

/-- Taking more moves the first part on. -/
theorem passing (behind : cursor.StandsBehind before source) {taken rest : Text}
    (split : taken ++ rest = cursor.ahead) :
    (cursor.passing taken rest).StandsBehind (before ++ taken) source where
  position := by rw [Cursor.passing, behind.position, Position.after_append]
  split := by rw [Cursor.passing, List.append_assoc, split, behind.split]

/-- No step moves a cursor back or beyond the source. -/
theorem perform (behind : cursor.StandsBehind before source) (step : CursorStep) :
    ∃ taken, (cursor.perform step).2.StandsBehind (before ++ taken) source := by
  obtain ⟨taken, rest, split, moved⟩ := cursor.exists_passing_perform step
  exact ⟨taken, moved ▸ behind.passing split⟩

/-! What a step gives, in terms of the source and the offsets between which the cursor moves. -/

/-- What was taken is the slice between the offsets. -/
theorem slice_passing (behind : cursor.StandsBehind before source) {taken rest : Text}
    (split : taken ++ rest = cursor.ahead) :
    source.slice cursor.position.offset (cursor.passing taken rest).position.offset = taken := by
  rw [offset_passing, behind.offset_eq, ← behind.split, ← split]
  exact Text.slice_append before taken rest

/-- The rest of the source is ahead of the cursor. -/
theorem drop_offset (behind : cursor.StandsBehind before source) :
    source.drop cursor.position.offset = cursor.ahead :=
  behind.isConsistent.ahead.symm

/-- Looking ahead sees the source. -/
theorem getElem?_offset_add (behind : cursor.StandsBehind before source) (distance : Nat) :
    source[cursor.position.offset + distance]? = cursor.ahead[distance]? := by
  rw [← behind.drop_offset, List.getElem?_drop]

/-- What is read is a slice of the source. -/
theorem slice_readWhile (behind : cursor.StandsBehind before source) (test : CodePoint → Bool) :
    (cursor.readWhile test).1 =
      source.slice cursor.position.offset (cursor.readWhile test).2.position.offset :=
  (behind.slice_passing List.takeWhile_append_dropWhile).symm

/-- Reading while a test passes reads the longest run. -/
theorem isLongestRun_readWhile (behind : cursor.StandsBehind before source)
    (test : CodePoint → Bool) :
    source.IsLongestRun (fun codePoint => test codePoint = true) cursor.position.offset
      (cursor.readWhile test).2.position.offset := by
  rw [readWhile, offset_passing, behind.offset_eq, ← behind.split]
  exact Text.isLongestRun_takeWhile test before cursor.ahead

theorem gives_peek (behind : cursor.StandsBehind before source) (distance : Nat) :
    (CursorStep.peek distance).Gives source cursor.position.offset
      (cursor.perform (.peek distance)).2.position.offset
      (cursor.perform (.peek distance)).1 := by
  refine ⟨?_, rfl⟩
  rw [behind.getElem?_offset_add]
  rfl

theorem gives_advance (behind : cursor.StandsBehind before source) :
    CursorStep.advance.Gives source cursor.position.offset
      (cursor.perform .advance).2.position.offset (cursor.perform .advance).1 := by
  have here := behind.getElem?_offset_add 0
  have length : source.length = cursor.position.offset + cursor.ahead.length := by
    rw [behind.offset_eq, ← behind.split, List.length_append]
  rw [Nat.add_zero] at here
  simp only [CursorStep.Gives, here, length, Cursor.perform, advance]
  split
  · rename_i isEmpty
    simp [isEmpty]
  · rename_i first rest isAhead
    simp [isAhead, offset_passing]

theorem gives_literal (behind : cursor.StandsBehind before source) :
    CursorStep.literal.Gives source cursor.position.offset
      (cursor.perform .literal).2.position.offset (cursor.perform .literal).1 := by
  have sameTest : (fun codePoint => Lexeme.isLiteral codePoint = true) =
      (· ≠ Expression.openBrace) := by
    funext codePoint
    simp [Lexeme.isLiteral]
  refine ⟨congrArg (Except.ok ∘ CursorResult.text) (behind.slice_readWhile _), ?_⟩
  exact sameTest ▸ behind.isLongestRun_readWhile Lexeme.isLiteral

theorem gives_number (behind : cursor.StandsBehind before source) :
    CursorStep.number.Gives source cursor.position.offset
      (cursor.perform .number).2.position.offset (cursor.perform .number).1 :=
  ⟨congrArg (Except.ok ∘ CursorResult.text) (behind.slice_readWhile _),
    behind.isLongestRun_readWhile CodePoint.isDigit⟩

theorem gives_nameRun (behind : cursor.StandsBehind before source) :
    CursorStep.nameRun.Gives source cursor.position.offset
      (cursor.perform .nameRun).2.position.offset (cursor.perform .nameRun).1 := by
  have split := Lexeme.nameRun_append cursor.ahead
  have moved := behind.passing split
  obtain ⟨characters, isMadeOf⟩ := Lexeme.exists_isMadeOf_nameRun cursor.ahead
  have next := moved.getElem?_offset_add 0
  rw [Nat.add_zero, Cursor.passing, ← List.head?_eq_getElem?] at next
  simp only [CursorStep.Gives, Cursor.perform, snd_readNameRun]
  refine ⟨characters, ?_, isMadeOf.areVarchars, ?_, ?_⟩
  · rw [behind.slice_passing split, isMadeOf.taken]
  · intro character isVarchar
    rw [moved.drop_offset]
    exact Lexeme.not_isPrefix_nameRun_rest isVarchar
  · rw [Cursor.passing, next, readNameRun]
    simp only [Lexeme.NameRun.isMalformed, decide_eq_true_eq]
    split
    · exact ⟨_, rfl⟩
    · rw [← isMadeOf.count]
      rfl

theorem gives_name (behind : cursor.StandsBehind before source) :
    CursorStep.name.Gives source cursor.position.offset
      (cursor.perform .name).2.position.offset (cursor.perform .name).1 := by
  have split := Lexeme.name_append cursor.ahead
  have moved := behind.passing split
  have sliced := behind.slice_passing split
  simp only [CursorStep.Gives, Cursor.perform, snd_readName]
  rw [readName]
  cases complete : (Lexeme.name cursor.ahead).cause with
  | some cause =>
      constructor
      · intro result accepted
        cases accepted
      · rintro ⟨further, whole⟩
        -- A whole name would have been read without a fault.
        have isAhead := Text.slice_append_drop whole.isName.ne_nil
        have reading := Lexeme.name_append_of_isName whole.isName whole.stops
        rw [isAhead, behind.drop_offset] at reading
        rw [reading] at complete
        cases complete
  | none =>
      refine ⟨fun result accepted => ?_, fun _ => ⟨_, rfl⟩⟩
      cases accepted
      refine ⟨congrArg CursorResult.text sliced.symm, ?_, ?_⟩
      · rw [sliced]
        exact Lexeme.isName_of_name complete
      · rw [moved.drop_offset]
        exact Lexeme.stopsName_name complete

/-- Every step gives what it is said to give. -/
theorem gives (behind : cursor.StandsBehind before source) (step : CursorStep) :
    step.Gives source cursor.position.offset (cursor.perform step).2.position.offset
      (cursor.perform step).1 := by
  cases step with
  | peek distance => exact behind.gives_peek distance
  | advance => exact behind.gives_advance
  | literal => exact behind.gives_literal
  | nameRun => exact behind.gives_nameRun
  | name => exact behind.gives_name
  | number => exact behind.gives_number

/-! Steps follow each other, also behind one that failed. -/

/-- The part of the source that a run has moved over only grows. -/
theorem of_mem_visited (behind : cursor.StandsBehind before source) {steps : List CursorStep}
    {reached : Cursor} (member : reached ∈ cursor.visited steps) :
    ∃ taken, reached.StandsBehind (before ++ taken) source := by
  induction steps generalizing cursor before with
  | nil =>
      rw [List.mem_singleton.mp member]
      exact ⟨[], (List.append_nil before).symm ▸ behind⟩
  | cons step rest inductionHypothesis =>
      rcases List.mem_cons.mp member with rfl | later
      · exact ⟨[], (List.append_nil before).symm ▸ behind⟩
      · obtain ⟨taken, next⟩ := behind.perform step
        obtain ⟨further, reachedBehind⟩ := inductionHypothesis next later
        exact ⟨taken ++ further, List.append_assoc before taken further ▸ reachedBehind⟩

/-- Offsets do not decrease on the way. -/
theorem pairwise_visited (behind : cursor.StandsBehind before source) (steps : List CursorStep) :
    (cursor.visited steps).Pairwise fun earlier later =>
      earlier.position.offset ≤ later.position.offset := by
  induction steps generalizing cursor before with
  | nil => exact List.pairwise_singleton _ _
  | cons step rest inductionHypothesis =>
      obtain ⟨taken, next⟩ := behind.perform step
      refine List.pairwise_cons.mpr ⟨fun later member => ?_, inductionHypothesis next⟩
      obtain ⟨further, reached⟩ := next.of_mem_visited member
      rw [behind.offset_eq, reached.offset_eq, List.append_assoc, List.length_append]
      exact Nat.le_add_right _ _

/-- Each step gives what stands between the cursor that it finds and the one that it leaves. -/
theorem exists_gives (behind : cursor.StandsBehind before source) {steps : List CursorStep}
    {index : Nat} {step : CursorStep} (isStep : steps[index]? = some step) :
    ∃ found outcome left, (cursor.visited steps)[index]? = some found ∧
      (cursor.performAll steps)[index]? = some (outcome, left) ∧
      step.Gives source found.position.offset left.position.offset outcome := by
  induction steps generalizing cursor before index with
  | nil => cases isStep
  | cons first rest inductionHypothesis =>
      cases index with
      | zero =>
          obtain rfl : first = step := Option.some.inj isStep
          exact ⟨cursor, _, _, rfl, rfl, behind.gives first⟩
      | succ index =>
          obtain ⟨taken, next⟩ := behind.perform first
          exact inductionHypothesis next isStep

end StandsBehind

/-- Every cursor of a run from the start of a source is consistent with the source, none stands in
front of an earlier one, and every step gives what stands between the cursors around it. -/
theorem readings_consistent (source : Text) (steps : List CursorStep) :
    (∀ cursor ∈ (atStart source).visited steps, cursor.IsConsistent source) ∧
      ((atStart source).visited steps).Pairwise (fun earlier later =>
        earlier.position.offset ≤ later.position.offset) ∧
      ∀ (index : Nat) (step : CursorStep), steps[index]? = some step →
        ∃ found outcome left, ((atStart source).visited steps)[index]? = some found ∧
          ((atStart source).performAll steps)[index]? = some (outcome, left) ∧
          step.Gives source found.position.offset left.position.offset outcome := by
  have behind := standsBehind_atStart source
  refine ⟨fun cursor member => ?_, behind.pairwise_visited steps, fun index step isStep => ?_⟩
  · obtain ⟨taken, reached⟩ := behind.of_mem_visited member
    exact reached.isConsistent
  · exact behind.exists_gives isStep

/-- The name is refused at a malformed triplet behind its dot. The percent sign is passed over, and
the number behind it is read on the second line. -/
theorem readings_consistent_behind_fault :
    let source := Text.ofString "a\n\x7bb.%4"
    let steps : List CursorStep := [.literal, .advance, .name, .advance, .number]
    let refused : Cursor := ⟨⟨5, 2, 4⟩, "%4"⟩
    let last : Cursor := ⟨⟨7, 2, 6⟩, []⟩
    ((atStart source).performAll steps).map (fun performed => performed.1.toBool) =
        [true, true, false, true, true] ∧
      refused ∈ (atStart source).visited steps ∧ refused.IsConsistent source ∧
      steps[4]? = some .number ∧
      ∃ outcome, ((atStart source).performAll steps)[4]? = some (outcome, last) ∧
        CursorStep.number.Gives source 6 7 outcome := by
  intro source steps refused last
  obtain ⟨areConsistent, -, gives⟩ := readings_consistent source steps
  have member : refused ∈ (atStart source).visited steps := by decide +kernel
  refine ⟨by decide +kernel, member, areConsistent refused member, rfl, ?_⟩
  obtain ⟨found, outcome, left, isFound, isOutcome, given⟩ := gives 4 .number rfl
  obtain rfl : found = ⟨⟨6, 2, 5⟩, "4"⟩ :=
    Option.some.inj (isFound.symm.trans (by decide +kernel))
  have isLast : (((atStart source).performAll steps).map Prod.snd)[4]? = some last := by
    decide +kernel
  rw [List.getElem?_map, isOutcome] at isLast
  obtain rfl : left = last := Option.some.inj isLast
  exact ⟨outcome, isOutcome, given⟩

end Cursor

end UriTemplate
