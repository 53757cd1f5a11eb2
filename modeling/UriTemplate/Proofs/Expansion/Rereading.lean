import UriTemplate.Proofs.Bindings.Listed
import UriTemplate.Proofs.Expansion.OperatorTable
import UriTemplate.Template
import Mathlib.Data.List.Nodup

namespace UriTemplate

namespace Expansion

/-- The variables without those that read a stream again. -/
def firstReads (isStream : Text → Bool) (seen : List Text) : List Variable → List Variable
  | [] => []
  | reference :: rest =>
      let others := firstReads isStream (seen ++ [reference.name]) rest
      if isStream reference.name && seen.contains reference.name then others
      else reference :: others

/-- The expressions without the variables that read a stream again. -/
def firstReadsFrom (isStream : Text → Bool) (seen : List Text) :
    List Expression → List Expression
  | [] => []
  | expression :: rest =>
      { expression with references := firstReads isStream seen expression.references } ::
        firstReadsFrom isStream (seen ++ expression.references.map Variable.name) rest

/-- Every occurrence of a name in some expressions. -/
def occurrences (expressions : List Expression) : List Text :=
  expressions.flatMap fun expression => expression.references.map Variable.name

variable {bindings lists : Bindings} {isStream : Text → Bool} {seen : List Text}

/-- A variable stays unless it reads a stream again. -/
theorem firstReads_cons (isStream : Text → Bool) (seen : List Text) (reference : Variable)
    (rest : List Variable) :
    firstReads isStream seen (reference :: rest) =
      if isStream reference.name = true ∧ reference.name ∈ seen then
        firstReads isStream (seen ++ [reference.name]) rest
      else reference :: firstReads isStream (seen ++ [reference.name]) rest := by
  rw [firstReads]
  simp only [Bool.and_eq_true, List.contains_iff_mem]

/-- Where the stream is empty nothing is expanded; everywhere else the same values are read. -/
theorem follows_resolve (follows : bindings.Follows lists isStream seen)
    (references : List Variable) :
    (∀ operator isFirst, variableTexts operator isFirst (resolve bindings references).1 =
      variableTexts operator isFirst
        (resolve lists (firstReads isStream seen references)).1) ∧
    (resolve bindings references).2.Follows
      (resolve lists (firstReads isStream seen references)).2 isStream
      (seen ++ references.map Variable.name) := by
  -- Every read changes both bindings, so the induction carries how the one follows the other.
  induction references generalizing bindings lists seen with
  | nil =>
      rw [List.map_nil, List.append_nil]
      exact ⟨fun _ _ => rfl, follows⟩
  | cons reference rest inductionHypothesis =>
      rw [firstReads_cons, List.map_cons,
        List.append_cons seen reference.name (rest.map Variable.name)]
      by_cases again : isStream reference.name = true ∧ reference.name ∈ seen
      · obtain ⟨isUndefined, left⟩ := follows.read_again again.2 again.1
        obtain ⟨sameTexts, behind⟩ := inductionHypothesis left
        rw [if_pos again]
        refine ⟨fun operator isFirst => ?_, behind⟩
        rw [resolve, variableTexts, if_pos isUndefined]
        exact sameTexts operator isFirst
      · obtain ⟨sameValue, left⟩ := follows.read fun streams isSeen => again ⟨streams, isSeen⟩
        obtain ⟨sameTexts, behind⟩ := inductionHypothesis left
        rw [if_neg again]
        refine ⟨fun operator isFirst => ?_, behind⟩
        simp only [resolve, variableTexts, sameValue, sameTexts]

/-- From any point on, lists stand for streams once the variables that read again are left out. -/
theorem templateFrom_firstReads (follows : bindings.Follows lists isStream seen) (raw : Text)
    (previous : Nat) (expressions : List Expression) :
    templateFrom raw previous bindings expressions =
      templateFrom raw previous lists (firstReadsFrom isStream seen expressions) := by
  induction expressions generalizing bindings lists seen previous with
  | nil => rfl
  | cons expression rest inductionHypothesis =>
      obtain ⟨sameTexts, behind⟩ := follows_resolve follows expression.references
      rw [firstReadsFrom, templateFrom, templateFrom, inductionHypothesis behind]
      simp only [expressionText, sameTexts]
      rfl

/-! Nothing is left out where no stream is read again. -/

/-- If no stream is read twice, all variables stay. -/
theorem firstReads_of_once {references : List Variable} (once : ∀ name, isStream name = true →
      (seen ++ references.map Variable.name).count name ≤ 1) :
    firstReads isStream seen references = references := by
  induction references generalizing seen with
  | nil => rfl
  | cons reference rest inductionHypothesis =>
      rw [List.map_cons, List.append_cons] at once
      have isFirst : ¬(isStream reference.name = true ∧ reference.name ∈ seen) := by
        rintro ⟨streams, isSeen⟩
        have before := List.one_le_count_iff.mpr isSeen
        have atMost := once reference.name streams
        rw [List.count_append, List.count_append, List.count_singleton_self] at atMost
        omega
      rw [firstReads_cons, if_neg isFirst, inductionHypothesis once]

/-- If no stream is read twice, all expressions stay as they are. -/
theorem firstReadsFrom_of_once {expressions : List Expression}
    (once : ∀ name, isStream name = true →
      (seen ++ occurrences expressions).count name ≤ 1) :
    firstReadsFrom isStream seen expressions = expressions := by
  induction expressions generalizing seen with
  | nil => rfl
  | cons expression rest inductionHypothesis =>
      rw [occurrences, List.flatMap_cons, ← List.append_assoc] at once
      have onceHere : ∀ name, isStream name = true →
          (seen ++ expression.references.map Variable.name).count name ≤ 1 := by
        intro name streams
        exact Nat.le_trans ((List.sublist_append_left _ _).count_le name) (once name streams)
      rw [firstReadsFrom, firstReads_of_once onceHere, inductionHypothesis once]

/-! Whatever is left out is missed in the expansion. -/

/-- Variables are only left out. -/
theorem firstReads_sublist (isStream : Text → Bool) (seen : List Text)
    (references : List Variable) : (firstReads isStream seen references).Sublist references := by
  induction references generalizing seen with
  | nil => exact List.Sublist.refl []
  | cons reference rest inductionHypothesis =>
      rw [firstReads_cons]
      split
      · exact (inductionHypothesis _).cons _
      · exact (inductionHypothesis _).cons_cons _

/-- Occurrences are only left out. -/
theorem occurrences_firstReadsFrom_sublist (isStream : Text → Bool) (seen : List Text)
    (expressions : List Expression) :
    (occurrences (firstReadsFrom isStream seen expressions)).Sublist (occurrences expressions) := by
  induction expressions generalizing seen with
  | nil => exact List.Sublist.refl []
  | cons expression rest inductionHypothesis =>
      exact ((firstReads_sublist _ _ _).map _).append (inductionHypothesis _)

/-- A stream is read at most once. -/
theorem count_firstReads_le (isStream : Text → Bool) (seen : List Text)
    (references : List Variable) {name : Text} (streams : isStream name = true) :
    ((firstReads isStream seen references).map Variable.name).count name ≤
      if name ∈ seen then 0 else 1 := by
  induction references generalizing seen with
  | nil => exact Nat.zero_le _
  | cons reference rest inductionHypothesis =>
      have others := inductionHypothesis (seen ++ [reference.name])
      simp only [List.mem_append, List.mem_singleton] at others
      rw [firstReads_cons]
      by_cases same : name = reference.name
      · subst same
        rw [if_pos (Or.inr rfl)] at others
        by_cases isSeen : reference.name ∈ seen
        · rw [if_pos ⟨streams, isSeen⟩, if_pos isSeen]
          exact others
        · rw [if_neg fun again => isSeen again.2, if_neg isSeen, List.map_cons,
            List.count_cons_self]
          omega
      · simp only [same, or_false] at others
        split
        · exact others
        · rw [List.map_cons, List.count_cons_of_ne (Ne.symm same)]
          exact others

/-- A stream occurs at most once among the first reads. -/
theorem count_occurrences_firstReadsFrom_le (isStream : Text → Bool) (seen : List Text)
    (expressions : List Expression) {name : Text} (streams : isStream name = true) :
    (occurrences (firstReadsFrom isStream seen expressions)).count name ≤
      if name ∈ seen then 0 else 1 := by
  induction expressions generalizing seen with
  | nil => exact Nat.zero_le _
  | cons expression rest inductionHypothesis =>
      let names := expression.references.map Variable.name
      have here := count_firstReads_le isStream seen expression.references streams
      have others := inductionHypothesis (seen ++ names)
      have nowhere : name ∉ names →
          ((firstReads isStream seen expression.references).map Variable.name).count name = 0 := by
        intro absent
        apply List.count_eq_zero_of_not_mem
        exact fun member => absent (((firstReads_sublist _ _ _).map _).subset member)
      rw [firstReadsFrom, occurrences, List.flatMap_cons, List.count_append]
      change _ + (occurrences (firstReadsFrom isStream (seen ++ names) rest)).count name ≤ _
      simp only [List.mem_append] at others
      by_cases isSeen : name ∈ seen
      · rw [if_pos isSeen] at here ⊢
        rw [if_pos (.inl isSeen)] at others
        exact Nat.add_le_add here others
      · by_cases isHere : name ∈ names
        · rw [if_neg isSeen] at here ⊢
          rw [if_pos (.inr isHere)] at others
          exact Nat.add_le_add here others
        · rw [if_neg (not_or.mpr ⟨isSeen, isHere⟩)] at others
          rw [if_neg isSeen, nowhere isHere, Nat.zero_add]
          exact others

/-- Counting this character tells how often the list of it is expanded. -/
def mark : CodePoint := CodePoint.ofChar 'a'

def markedList : Value := .sequence .list [.text [mark]]

/-- The marked list shows its mark under every operator. -/
theorem mark_mem_variableText (operator : Operator) (reference : Variable) :
    mark ∈ variableText operator reference markedList := by
  have encoded : item operator (.text [mark]) = [mark] := by
    cases operator <;> decide
  have single (separator text : Text) : separated separator [text] = text := by
    rw [separated, Text.join_eq_flatMap]
    exact List.append_nil text
  have isItem : mark ∈ explodedItem operator reference.name (.text [mark]) := by
    rw [explodedItem, labelled, encoded]
    split
    · exact List.mem_append_right _ (List.mem_singleton.mpr rfl)
    · exact List.mem_singleton.mpr rfl
  have items : Value.definedItems [.text [mark]] = [.text [mark]] := rfl
  rw [markedList, variableText, items, List.map_singleton, List.map_singleton, single, single,
    encoded]
  split
  · exact isItem
  · exact List.mem_append_right _ (List.mem_singleton.mpr rfl)

/-- No opening and no separator holds the mark. -/
theorem count_mark_between (operator : Operator) (isFirst : Bool) :
    (if isFirst then operator.opening else operator.separator).count mark = 0 := by
  cases operator <;> cases isFirst <;> decide

/-- How often the character is in what the variables expand to. -/
def marks (bindings : Bindings) (operator : Operator) : List Variable → Nat
  | [] => 0
  | reference :: rest =>
      let value := bindings.value reference.name
      (if value.isUndefined then 0 else (variableText operator reference value).count mark) +
        marks bindings operator rest

/-- The mark comes from the variables only. -/
theorem count_variableTexts (bindings : Bindings) (operator : Operator) (isFirst : Bool)
    (references : List Variable) :
    (variableTexts operator isFirst
      (references.map fun reference => (reference, bindings.value reference.name))).count mark =
      marks bindings operator references := by
  induction references generalizing isFirst with
  | nil => rfl
  | cons reference rest inductionHypothesis =>
      rw [marks, List.map_cons, variableTexts]
      split
      · rw [inductionHypothesis, Nat.zero_add]
      · rw [List.count_append, List.count_append, count_mark_between, inductionHypothesis,
          Nat.zero_add]

/-- Each variable that reads the stream again would add the character once more. -/
theorem marks_firstReads (bindings : Bindings) (operator : Operator)
    (marked : ∀ name, isStream name = true → bindings.value name = markedList)
    (seen : List Text) (references : List Variable) :
    marks bindings operator (firstReads isStream seen references) + references.length ≤
      marks bindings operator references + (firstReads isStream seen references).length := by
  induction references generalizing seen with
  | nil => exact Nat.le_refl _
  | cons reference rest inductionHypothesis =>
      have others := inductionHypothesis (seen ++ [reference.name])
      rw [firstReads_cons]
      split
      · next again =>
          have isMarked := marked reference.name again.1
          have isThere : 1 ≤ (variableText operator reference markedList).count mark :=
            List.one_le_count_iff.mpr (mark_mem_variableText operator reference)
          have isDefined : ¬markedList.isUndefined = true := by decide
          rw [List.length_cons, marks, isMarked, if_neg isDefined]
          omega
      · rw [marks, marks, List.length_cons, List.length_cons]
        omega

/-- Every occurrence of a marked list that is left out costs a mark. -/
theorem marks_templateFrom_firstReadsFrom (streamless : bindings.Streamless)
    (marked : ∀ name, isStream name = true → bindings.value name = markedList)
    (seen : List Text) (raw : Text) (previous : Nat) (expressions : List Expression) :
    (templateFrom raw previous bindings (firstReadsFrom isStream seen expressions)).count mark +
        (occurrences expressions).length ≤
      (templateFrom raw previous bindings expressions).count mark +
        (occurrences (firstReadsFrom isStream seen expressions)).length := by
  induction expressions generalizing seen previous with
  | nil => exact Nat.le_refl _
  | cons expression rest inductionHypothesis =>
      have here := marks_firstReads bindings expression.operator marked seen expression.references
      have others := inductionHypothesis (seen ++ expression.references.map Variable.name)
        expression.stop
      simp only [firstReadsFrom, templateFrom, occurrences, List.flatMap_cons, expressionText,
        resolve_of_streamless streamless, List.count_append, count_variableTexts,
        List.length_append, List.length_map, Expression.start, Expression.stop] at others ⊢
      omega

/-- A template in which no stream is read again. -/
def withFirstReads (template : Template) (isStream : Text → Bool) : Template :=
  { template with expressions := firstReadsFrom isStream [] template.expressions }

/-- Streams give what lists give to the first occurrence of each name. -/
theorem template_withFirstReads (template : Template) (plain : bindings.YieldPlain) :
    Expansion.template template bindings =
      Expansion.template (withFirstReads template bindings.isStream) bindings.listed :=
  templateFrom_firstReads (.start plain) template.raw 0 template.expressions

/-- If no stream is read twice, streams give what lists give. -/
theorem template_listed_of_once {template : Template} (plain : bindings.YieldPlain)
    (once : ∀ name, bindings.isStream name = true →
      (occurrences template.expressions).count name ≤ 1) :
    Expansion.template template bindings = Expansion.template template bindings.listed := by
  rw [template_withFirstReads template plain, withFirstReads, firstReadsFrom_of_once once]

/-- If a name occurs twice, a stream of one item under that name tells the difference. -/
theorem nodup_occurrences_of_listed {template : Template}
    (same : ∀ bindings : Bindings, bindings.YieldPlain →
      Expansion.template template bindings = Expansion.template template bindings.listed) :
    (occurrences template.expressions).Nodup := by
  rw [List.nodup_iff_count_le_one]
  intro name
  let bindings : Bindings := [(name, .stream [.text [mark]])]
  have plain : bindings.YieldPlain := by
    intro binding member
    rw [List.mem_singleton.mp member]
    rfl
  have streamless : bindings.listed.Streamless := by
    intro binding member
    rw [List.mem_singleton.mp member]
    rfl
  have marked : ∀ other, bindings.isStream other = true →
      bindings.listed.value other = markedList := by
    intro other streams
    rw [Bindings.value_listed]
    rw [Bindings.isStream] at streams
    cases isFound : bindings.lookup other with
    | none =>
        rw [Bindings.value, isFound] at streams
        cases streams
    | some value =>
        obtain ⟨before, behind, whole, _⟩ := List.lookup_eq_some_iff.mp isFound
        have member : (other, value) ∈ bindings := by simp [whole]
        obtain ⟨_, rfl⟩ := Prod.mk.inj (List.mem_singleton.mp member)
        rw [Bindings.value, isFound]
        rfl
  have isBound : bindings.isStream name = true := by
    rw [Bindings.isStream, Bindings.value]
    simp [bindings, Value.isStream]
  have expanded : Expansion.template (withFirstReads template bindings.isStream)
      bindings.listed = Expansion.template template bindings.listed :=
    (template_withFirstReads template plain).symm.trans (same bindings plain)
  have counted := marks_templateFrom_firstReadsFrom streamless marked [] template.raw 0
    template.expressions
  change (Expansion.template (withFirstReads template bindings.isStream)
    bindings.listed).count mark + _ ≤ (Expansion.template template bindings.listed).count mark + _
    at counted
  rw [expanded] at counted
  have isPart := occurrences_firstReadsFrom_sublist bindings.isStream [] template.expressions
  have isWhole := isPart.eq_of_length_le (by omega)
  rw [← isWhole]
  exact count_occurrences_firstReadsFrom_le bindings.isStream [] template.expressions isBound

end Expansion

/-- A template expands as if only the first occurrence of a name were written that is bound to a
stream, and a list stood for the stream. So a list can stand for every stream that is read once,
and for every stream whatever if no name occurs twice, but only then. Nothing is said of one stream
under several names, as bindings do not share their streams. -/
theorem Template.expand_streams (template : Template) :
    (∀ bindings : Bindings, bindings.YieldPlain → ∀ strict,
      template.expand bindings strict =
        (Expansion.withFirstReads template bindings.isStream).expand bindings.listed strict) ∧
    (∀ bindings : Bindings, bindings.YieldPlain →
      (∀ name, bindings.isStream name = true →
        (Expansion.occurrences template.expressions).count name ≤ 1) →
      ∀ strict, template.expand bindings strict = template.expand bindings.listed strict) ∧
    ((∀ bindings : Bindings, bindings.YieldPlain → ∀ strict,
        template.expand bindings strict = template.expand bindings.listed strict) ↔
      (Expansion.occurrences template.expressions).Nodup) := by
  have sameResult {first second : Text} (same : first = second) (strict : Bool) :
      (if strict then UriReference.validate first else .ok first) =
        if strict then UriReference.validate second else .ok second := by
    rw [same]
  have ofOnce : ∀ bindings : Bindings, bindings.YieldPlain →
      (∀ name, bindings.isStream name = true →
        (Expansion.occurrences template.expressions).count name ≤ 1) →
      ∀ strict, template.expand bindings strict = template.expand bindings.listed strict :=
    fun _ plain once strict => sameResult (Expansion.template_listed_of_once plain once) strict
  refine ⟨fun bindings plain strict => ?_, ofOnce, fun same => ?_, fun nodup bindings plain => ?_⟩
  · exact sameResult (Expansion.template_withFirstReads template plain) strict
  · apply Expansion.nodup_occurrences_of_listed
    exact fun bindings plain => Except.ok.inj (same bindings plain false)
  · exact ofOnce bindings plain fun name _ => List.nodup_iff_count_le_one.mp nodup name

theorem Template.expand_streams_once :
    let a : Text := "a"
    let g : Text := "g"
    let template : Template := ⟨"\x7ba\x7d\x7b?g*,a\x7d",
      [⟨.simple, [⟨a, .none, by decide⟩], some ⟨0, 3, 1, 1⟩⟩,
        ⟨.query, [⟨g, .explode, by decide⟩, ⟨a, .none, by decide⟩], some ⟨3, 10, 1, 4⟩⟩]⟩
    let bindings : Bindings := [(a, .integer 7), (g, .stream [.text "x", .text "y"])]
    Template.parse template.raw = .ok template ∧ bindings.YieldPlain ∧
      (∀ name, bindings.isStream name = true →
        (Expansion.occurrences template.expressions).count name ≤ 1) ∧
      template.expand bindings false = template.expand bindings.listed false ∧
      template.expand bindings false = .ok "7?g=x&g=y&a=7" := by
  intro a g template bindings
  have read : Template.parse template.raw = .ok template := by decide +kernel
  have plain : bindings.YieldPlain := by decide
  have once : ∀ name, bindings.isStream name = true →
      (Expansion.occurrences template.expressions).count name ≤ 1 := by
    intro name streams
    by_cases isBound : name = a
    · subst isBound
      cases streams
    · change List.count name [a, g, a] ≤ 1
      rw [List.count_cons_of_ne (Ne.symm isBound), List.count_cons,
        List.count_cons_of_ne (Ne.symm isBound), List.count_nil]
      split <;> decide
  have expanded : Expansion.template template bindings = "7?g=x&g=y&a=7" := by decide +kernel
  exact ⟨read, plain, once, (Template.expand_streams template).2.1 bindings plain once false,
    congrArg Except.ok expanded⟩

/-- The second occurrence of a name finds its stream empty, and a list would still be full. -/
theorem Template.expand_streams_twice :
    let template : Template := ⟨"\x7bg\x7d\x7bg\x7d",
      [⟨.simple, [⟨"g", .none, by decide⟩], some ⟨0, 3, 1, 1⟩⟩,
        ⟨.simple, [⟨"g", .none, by decide⟩], some ⟨3, 6, 1, 4⟩⟩]⟩
    let bindings : Bindings := [("g", .stream [.text "a", .text "b"])]
    Template.parse template.raw = .ok template ∧ bindings.YieldPlain ∧
      template.expand bindings false = .ok "a,b" ∧
      template.expand bindings.listed false = .ok "a,ba,b" := by
  intro template bindings
  have once : Expansion.template template bindings = "a,b" := by decide +kernel
  have twice : Expansion.template template bindings.listed = "a,ba,b" := by decide +kernel
  exact ⟨by decide +kernel, by decide, congrArg Except.ok once, congrArg Except.ok twice⟩

end UriTemplate
