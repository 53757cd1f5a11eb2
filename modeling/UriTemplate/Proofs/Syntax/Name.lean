import UriTemplate.Proofs.Syntax.Grammar
import UriTemplate.Syntax.Lexeme

namespace UriTemplate.Lexeme

open Grammar

/-- A text that cannot lengthen a name in front of it. -/
def StopsName (text : Text) : Prop :=
  ∀ first ∈ text.head?, startsName first = false ∧ first ≠ CodePoint.ofChar '.'

/-- A character that is neither a dot nor part of names ends a name. -/
theorem stopsName_cons {first : CodePoint} {rest : Text} (isOther : startsName first = false)
    (isNoDot : first ≠ CodePoint.ofChar '.') : StopsName (first :: rest) := by
  intro other isHead
  cases isHead
  exact ⟨isOther, isNoDot⟩

/-! A name in front of a text that stops it is taken as a whole. -/

/-- A character of a name goes in front of the run. -/
theorem nameRun_append_of_isVarchar {character : Text} (rest : Text)
    (isVarchar : IsVarchar character) :
    nameRun (character ++ rest) = (nameRun rest).behind character := by
  have single {codePoint : CodePoint} (isVarchar : codePoint.isVarchar = true) :
      nameRun (codePoint :: rest) = (nameRun rest).behind [codePoint] := by
    rw [nameRun.eq_def]
    split <;> simp_all
  cases isVarchar with
  | letter isLetter => exact single (by simp [CodePoint.isVarchar, isLetter])
  | digit isDigit => exact single (by simp [CodePoint.isVarchar, isDigit])
  | underscore => exact single (by decide)
  | @triplet high low highIsHex lowIsHex =>
      have isTriplet : PercentEncoding.isTriplet (CodePoint.ofChar '%') high low = true := by
        simp [PercentEncoding.isTriplet_iff, highIsHex, lowIsHex]
      have isNoVarchar : (CodePoint.ofChar '%').isVarchar = false := by decide
      simp [nameRun, isNoVarchar, isTriplet]

/-- Any other character ends the run at once. -/
theorem nameRun_of_not_startsName {first : CodePoint} {rest : Text}
    (isOther : startsName first = false) : nameRun (first :: rest) = ⟨0, [], first :: rest⟩ := by
  simp only [startsName, Bool.or_eq_false_iff, decide_eq_false_iff_not] at isOther
  rw [nameRun.eq_def]
  split <;> simp_all [PercentEncoding.isTriplet_iff]

/-- What ends a name has no run of name characters. -/
theorem nameRun_of_stopsName {rest : Text} (stops : StopsName rest) :
    nameRun rest = ⟨0, [], rest⟩ := by
  cases rest with
  | nil => rfl
  | cons first rest => exact nameRun_of_not_startsName (stops first rfl).1

/-- A percent sign would go on with the name, so no malformed triplet follows. -/
theorem isMalformed_of_stopsName {rest : Text} (stops : StopsName rest) :
    NameRun.isMalformed ⟨0, [], rest⟩ = false := by
  cases rest with
  | nil => rfl
  | cons first rest =>
      have isNoPercent : first ≠ CodePoint.ofChar '%' := by
        rintro rfl
        exact absurd (stops _ rfl).1 (by decide)
      simpa [NameRun.isMalformed] using isNoPercent

/-- What ends a name leaves the name as it was taken. -/
theorem nameTail_of_stopsName {taken rest : Text} (stops : StopsName rest) :
    nameTail taken rest = ⟨taken, rest, none⟩ := by
  cases rest with
  | nil => rw [nameTail]
  | cons first rest => rw [nameTail, if_neg (stops first rfl).2]

/-- The run that begins a tail ends properly, and what goes on behind it takes the whole tail. -/
theorem nameTail_append_of_isNameTail {tail rest : Text} (isTail : IsNameTail tail)
    (stops : StopsName rest) :
    (nameRun (tail ++ rest)).isMalformed = false ∧
      ∀ taken, nameTail (taken ++ (nameRun (tail ++ rest)).taken) (nameRun (tail ++ rest)).rest =
        ⟨taken ++ tail, rest, none⟩ := by
  induction isTail with
  | done =>
      rw [List.nil_append, nameRun_of_stopsName stops]
      refine ⟨isMalformed_of_stopsName stops, fun taken => ?_⟩
      rw [nameTail_of_stopsName stops, List.append_nil]
  | @adjoined character tail isVarchar isTail inductionHypothesis =>
      rw [List.append_assoc, nameRun_append_of_isVarchar _ isVarchar]
      refine ⟨inductionHypothesis.1, fun taken => ?_⟩
      have continued := inductionHypothesis.2 (taken ++ character)
      simpa only [NameRun.behind, List.append_assoc] using continued
  | @dotted character tail isVarchar isTail inductionHypothesis =>
      -- The run is empty; the dot is taken by the next step together with the run behind it.
      have dotStops : startsName (CodePoint.ofChar '.') = false := by decide
      have run : nameRun (character ++ (tail ++ rest)) =
          (nameRun (tail ++ rest)).behind character :=
        nameRun_append_of_isVarchar _ isVarchar
      rw [List.cons_append, List.cons_append, List.append_assoc,
        nameRun_of_not_startsName dotStops]
      have dotIsNoPercent : CodePoint.ofChar '.' ≠ CodePoint.ofChar '%' := by decide
      refine ⟨by simp [NameRun.isMalformed, dotIsNoPercent], fun taken => ?_⟩
      have wellFormed : ((nameRun (tail ++ rest)).behind character).isMalformed = false :=
        inductionHypothesis.1
      have continued := inductionHypothesis.2 (taken ++ CodePoint.ofChar '.' :: character)
      rw [List.append_nil, nameTail, if_pos rfl]
      simp only [run, wellFormed]
      simpa [NameRun.behind] using continued

/-- A name is read whole, and nothing behind it. -/
theorem name_append_of_isName {name rest : Text} (isName : IsName name) (stops : StopsName rest) :
    Lexeme.name (name ++ rest) = ⟨name, rest, none⟩ := by
  cases isName with
  | @starting character tail isVarchar isTail =>
      have ⟨wellFormed, continued⟩ := nameTail_append_of_isNameTail isTail stops
      rw [List.append_assoc, Lexeme.name, nameRun_append_of_isVarchar _ isVarchar]
      have sameRest : ((nameRun (tail ++ rest)).behind character).isMalformed = false := wellFormed
      simp only [sameRest]
      exact continued character

/-! What is taken is a name. -/

/-- A run in front of a tail is a tail again. -/
theorem isNameTail_nameRun_append (text : Text) {tail : Text} (isTail : IsNameTail tail) :
    IsNameTail ((nameRun text).taken ++ tail) := by
  fun_induction nameRun text with
  | case1 => exact isTail
  | case2 first second third rest isVarchar inductionHypothesis =>
      rw [NameRun.behind, List.append_assoc]
      exact .adjoined (.of_isVarchar isVarchar) inductionHypothesis
  | case3 first second third rest isNoVarchar isTriplet inductionHypothesis =>
      obtain ⟨rfl, highIsHex, lowIsHex⟩ := PercentEncoding.isTriplet_iff.mp isTriplet
      rw [NameRun.behind, List.append_assoc]
      exact .adjoined (.triplet highIsHex lowIsHex) inductionHypothesis
  | case4 => exact isTail
  | case5 first rest short isVarchar inductionHypothesis =>
      rw [NameRun.behind, List.append_assoc]
      exact .adjoined (.of_isVarchar isVarchar) inductionHypothesis
  | case6 => exact isTail

/-- A run that is not empty is a name with any tail behind it. -/
theorem isName_nameRun_append {text tail : Text} (hasCharacter : (nameRun text).count ≠ 0)
    (isTail : IsNameTail tail) : IsName ((nameRun text).taken ++ tail) := by
  revert hasCharacter
  fun_cases nameRun text with
  | case1 => simp
  | case2 first second third rest isVarchar =>
      intro
      rw [NameRun.behind, List.append_assoc]
      exact .starting (.of_isVarchar isVarchar) (isNameTail_nameRun_append _ isTail)
  | case3 first second third rest isNoVarchar isTriplet =>
      intro
      obtain ⟨rfl, highIsHex, lowIsHex⟩ := PercentEncoding.isTriplet_iff.mp isTriplet
      rw [NameRun.behind, List.append_assoc]
      exact .starting (.triplet highIsHex lowIsHex) (isNameTail_nameRun_append _ isTail)
  | case4 => simp
  | case5 first rest short isVarchar =>
      intro
      rw [NameRun.behind, List.append_assoc]
      exact .starting (.of_isVarchar isVarchar) (isNameTail_nameRun_append _ isTail)
  | case6 => simp

/-- What goes on behind a run is a tail, unless the reading stops short. -/
theorem exists_isNameTail_of_nameTail {taken text : Text}
    (complete : (nameTail taken text).cause = none) :
    ∃ tail, (nameTail taken text).taken = taken ++ tail ∧ IsNameTail tail := by
  revert complete
  fun_induction nameTail taken text with
  | case1 taken => exact fun _ => ⟨[], by simp, .done⟩
  | case2 => simp
  | case3 => simp
  | case4 taken rest run wellFormed hasCharacter reached inductionHypothesis =>
      intro complete
      obtain ⟨tail, sameTaken, isTail⟩ := inductionHypothesis complete
      refine ⟨CodePoint.ofChar '.' :: run.taken ++ tail, ?_, ?_⟩
      · rw [sameTaken]
        simp [reached]
      · exact .of_isName (isName_nameRun_append hasCharacter isTail)
  | case5 taken => exact fun _ => ⟨[], by simp, .done⟩

/-- What is read without a fault is a name. -/
theorem isName_of_name {text : Text} (complete : (Lexeme.name text).cause = none) :
    IsName (Lexeme.name text).taken := by
  revert complete
  fun_cases Lexeme.name text with
  | case1 => simp
  | case2 => simp
  | case3 run wellFormed hasCharacter =>
      intro complete
      obtain ⟨tail, sameTaken, isTail⟩ := exists_isNameTail_of_nameTail complete
      rw [sameTaken]
      exact isName_nameRun_append hasCharacter isTail

/-! A reading stops where nothing goes on with it. -/

/-- A second run begins where the first one ended, and finds nothing. -/
theorem nameRun_nameRun_rest (text : Text) :
    nameRun (nameRun text).rest = ⟨0, [], (nameRun text).rest⟩ := by
  fun_induction nameRun text with
  | case1 => rfl
  | case2 first second third rest isVarchar inductionHypothesis => exact inductionHypothesis
  | case3 first second third rest isNoVarchar isTriplet inductionHypothesis =>
      exact inductionHypothesis
  | case4 first second third rest isNoVarchar isNoTriplet =>
      simp [nameRun, isNoVarchar, isNoTriplet]
  | case5 first rest short isVarchar inductionHypothesis => exact inductionHypothesis
  | case6 first rest short isNoVarchar =>
      rw [nameRun.eq_def]
      split <;> simp_all

/-- No name character stands behind a run, whole triplets included. -/
theorem not_isPrefix_nameRun_rest {text character : Text} (isVarchar : IsVarchar character) :
    ¬ character <+: (nameRun text).rest := by
  rintro ⟨rest, same⟩
  have found := nameRun_nameRun_rest text
  rw [← same, nameRun_append_of_isVarchar rest isVarchar] at found
  exact Nat.succ_ne_zero _ (congrArg NameRun.count found)

/-- What stands behind a run that ends properly does not start a name. -/
theorem startsName_head?_nameRun_rest {text : Text}
    (wellFormed : (nameRun text).isMalformed = false) :
    ∀ next ∈ (nameRun text).rest.head?, startsName next = false := by
  intro next isNext
  obtain ⟨behind, split⟩ := List.head?_eq_some_iff.mp isNext
  have isNoPercent : next ≠ CodePoint.ofChar '%' := by
    simpa [NameRun.isMalformed, split] using wellFormed
  have isNoVarchar : next.isVarchar = false := Bool.eq_false_iff.mpr fun isVarchar =>
    not_isPrefix_nameRun_rest (.of_isVarchar isVarchar) ⟨behind, split.symm⟩
  simp [startsName, isNoVarchar, isNoPercent]

/-- A name is read as far as it goes. -/
theorem stopsName_nameTail {taken text : Text}
    (stops : ∀ next ∈ text.head?, startsName next = false)
    (complete : (nameTail taken text).cause = none) : StopsName (nameTail taken text).rest := by
  fun_induction nameTail taken text with
  | case1 =>
      intro next isNext
      cases isNext
  | case2 => cases complete
  | case3 => cases complete
  | case4 taken rest run wellFormed hasCharacter reached inductionHypothesis =>
      exact inductionHypothesis
        (startsName_head?_nameRun_rest (Bool.eq_false_iff.mpr wellFormed)) complete
  | case5 taken dot rest isNoDot => exact stopsName_cons (stops dot rfl) isNoDot

/-- A name that is read without a fault is read up to where it stops. -/
theorem stopsName_name {text : Text} (complete : (Lexeme.name text).cause = none) :
    StopsName (Lexeme.name text).rest := by
  revert complete
  fun_cases Lexeme.name text with
  | case1 => simp
  | case2 => simp
  | case3 run wellFormed hasCharacter =>
      exact stopsName_nameTail
        (startsName_head?_nameRun_rest (Bool.eq_false_iff.mpr wellFormed))

/-! A run counts the name characters that it takes. -/

/-- The name characters of a run, each of them with its text. -/
structure NameRun.IsMadeOf (run : NameRun) (characters : List Text) : Prop where
  count : run.count = characters.length
  taken : run.taken = characters.flatten
  areVarchars : ∀ character ∈ characters, IsVarchar character

/-- An empty run is made of nothing. -/
theorem NameRun.isMadeOf_nil (rest : Text) : NameRun.IsMadeOf ⟨0, [], rest⟩ [] :=
  ⟨rfl, rfl, List.forall_mem_nil _⟩

/-- A further character is counted in front. -/
theorem NameRun.IsMadeOf.behind {run : NameRun} {characters : List Text} {character : Text}
    (isMadeOf : run.IsMadeOf characters) (isVarchar : IsVarchar character) :
    (run.behind character).IsMadeOf (character :: characters) :=
  ⟨congrArg (· + 1) isMadeOf.count, congrArg (character ++ ·) isMadeOf.taken,
    List.forall_mem_cons.mpr ⟨isVarchar, isMadeOf.areVarchars⟩⟩

/-- Every run is made of name characters. -/
theorem exists_isMadeOf_nameRun (text : Text) :
    ∃ characters, (nameRun text).IsMadeOf characters := by
  fun_induction nameRun text with
  | case1 => exact ⟨[], NameRun.isMadeOf_nil _⟩
  | case2 first second third rest isVarchar inductionHypothesis =>
      obtain ⟨characters, isMadeOf⟩ := inductionHypothesis
      exact ⟨_, isMadeOf.behind (.of_isVarchar isVarchar)⟩
  | case3 first second third rest isNoVarchar isTriplet inductionHypothesis =>
      obtain ⟨characters, isMadeOf⟩ := inductionHypothesis
      obtain ⟨rfl, highIsHex, lowIsHex⟩ := PercentEncoding.isTriplet_iff.mp isTriplet
      exact ⟨_, isMadeOf.behind (.triplet highIsHex lowIsHex)⟩
  | case4 => exact ⟨[], NameRun.isMadeOf_nil _⟩
  | case5 first rest short isVarchar inductionHypothesis =>
      obtain ⟨characters, isMadeOf⟩ := inductionHypothesis
      exact ⟨_, isMadeOf.behind (.of_isVarchar isVarchar)⟩
  | case6 => exact ⟨[], NameRun.isMadeOf_nil _⟩

end UriTemplate.Lexeme
