import UriTemplate.Proofs.Cache.Effect

namespace UriTemplate

/-- The actions that set an option of the cache. -/
def CacheAction.SetsOption : CacheAction → Prop
  | .setMaxSize _ => True
  | .setTtl _ => True
  | .setCountsStatistics _ => True
  | _ => False

namespace CacheState

variable {state : CacheState}

/-- A parse does not touch the options. -/
theorem options_parse (state : CacheState) (value : Value) :
    (state.parse value).2.cache.options = state.cache.options := by
  cases value with
  | text key =>
      have afterLookup := state.cache.options_get key state.supply.now
      cases answer : state.lookup key with
      | some parsed =>
          rw [parse_of_hit answer]
          exact afterLookup
      | none =>
          rw [parse_of_miss answer, parseMissing]
          split
          · rw [TemplateCache.options_count, TemplateCache.options_put]
            exact afterLookup
          · rw [TemplateCache.options_count]
            exact afterLookup
  | _ => rfl

theorem options_putText (state : CacheState) (key template : Text) (parseTime : Int) :
    (state.put key template parseTime).2.cache.options = state.cache.options := by
  rw [put]
  split
  · exact TemplateCache.options_put _ _ _ _ _
  · rfl

/-- Only setting an option changes the options. -/
theorem options_perform {action : CacheAction} (single : action.IsSingle)
    (unset : ¬action.SetsOption) :
    (state.perform action).state.cache.options = state.cache.options := by
  cases action with
  | parse value =>
      rw [perform, attempted_state]
      exact state.options_parse value
  | get key => exact state.cache.options_get key _
  | put key template parseTime =>
      rw [perform, attempted_state]
      exact state.options_putText key template parseTime
  | putParsed key parsed parseTime => exact state.cache.options_put key parsed parseTime _
  | invalidate key => cases key <;> rfl
  | contains key => rfl
  | resetStatistics => rfl
  | advance duration => rfl
  | disabled => exact single.elim
  | _ => exact absurd trivial unset

/-- Only setting the limit changes it. -/
theorem maxSize_perform {action : CacheAction} (single : action.IsSingle)
    (unset : ∀ maxSize, action ≠ .setMaxSize maxSize) :
    (state.perform action).state.cache.maxSize = state.cache.maxSize := by
  by_cases sets : action.SetsOption
  · cases action with
    | setMaxSize maxSize => exact absurd rfl (unset maxSize)
    | setTtl => rfl
    | setCountsStatistics => rfl
    | _ => exact sets.elim
  · exact congrArg Prod.fst (options_perform single sets)

/-- Only setting the time to live changes it. -/
theorem ttl_perform {action : CacheAction} (single : action.IsSingle)
    (unset : ∀ ttl, action ≠ .setTtl ttl) :
    (state.perform action).state.cache.ttl = state.cache.ttl := by
  by_cases sets : action.SetsOption
  · cases action with
    | setMaxSize => rfl
    | setTtl ttl => exact absurd rfl (unset ttl)
    | setCountsStatistics => rfl
    | _ => exact sets.elim
  · exact congrArg (fun options => options.2.1) (options_perform single sets)

/-- Only switching the statistics off ends the counting. -/
theorem countsStatistics_perform {action : CacheAction} (single : action.IsSingle)
    (counts : state.cache.countsStatistics = true)
    (unset : action ≠ .setCountsStatistics false) :
    (state.perform action).state.cache.countsStatistics = true := by
  by_cases sets : action.SetsOption
  · cases action with
    | setMaxSize => exact counts
    | setTtl => exact counts
    | setCountsStatistics countsStatistics =>
        cases countsStatistics with
        | true => rfl
        | false => exact absurd rfl unset
    | _ => exact sets.elim
  · have same : (state.perform action).state.cache.options = state.cache.options :=
      options_perform single sets
    exact (congrArg (fun options => options.2.2) same).trans counts

/-- Where nobody sets the limit, it is the old one or, inside a block, zero. -/
theorem maxSize_moments : (∀ (action : CacheAction) (state : CacheState),
      (∀ maxSize, .setMaxSize maxSize ∉ action.singles) →
        (state.perform action).state.cache.maxSize = state.cache.maxSize ∧
        ∀ moment ∈ state.moments action,
          moment.state.cache.maxSize = state.cache.maxSize ∨ moment.state.cache.maxSize = 0) ∧
    ∀ (actions : List CacheAction) (state : CacheState) (propagates : Bool),
      (∀ maxSize, .setMaxSize maxSize ∉ CacheAction.allSingles actions) →
        (state.performAll propagates actions).state.cache.maxSize = state.cache.maxSize ∧
        ∀ moment ∈ state.allMoments propagates actions,
          moment.state.cache.maxSize = state.cache.maxSize ∨
            moment.state.cache.maxSize = 0 := by
  apply CacheAction.induction
  case single =>
    intro action single state unset
    rw [CacheAction.singles_of_isSingle single] at unset
    rw [moments_of_isSingle state single]
    refine ⟨maxSize_perform single fun maxSize same => ?_, ?_⟩
    · exact unset maxSize (List.mem_singleton.mpr same.symm)
    · intro moment member
      rw [List.mem_singleton.mp member]
      exact .inl rfl
  case block =>
    intro propagates actions inside state unset
    obtain ⟨kept, limits⟩ := inside (state.setMaxSize 0) propagates unset
    rw [perform_disabled_state, moments]
    refine ⟨rfl, ?_⟩
    intro moment member
    rw [List.cons_append, List.mem_cons, List.mem_append, List.mem_singleton] at member
    rcases member with rfl | isInside | rfl
    · exact .inl rfl
    · exact .inr ((limits moment isInside).elim id id)
    · exact .inr kept
  case nil =>
    intro state propagates unset
    exact ⟨rfl, fun _ member => absurd member List.not_mem_nil⟩
  case cons =>
    intro action rest first others state propagates unset
    simp only [CacheAction.allSingles, List.mem_append, not_or] at unset
    obtain ⟨kept, limits⟩ := first state fun maxSize => (unset maxSize).1
    obtain ⟨keptLater, limitsLater⟩ :=
      others (state.perform action).state propagates fun maxSize => (unset maxSize).2
    rw [kept] at keptLater limitsLater
    rw [performAll_cons_state, allMoments]
    split
    · rw [List.append_nil]
      exact ⟨kept, limits⟩
    · refine ⟨keptLater, ?_⟩
      intro moment member
      exact (List.mem_append.mp member).elim (limits moment) (limitsLater moment)

/-- A time to live that is never set stays as it was. -/
theorem ttl_eq_of_leadsTo {start : CacheState} {past : List CacheMoment}
    (leads : start.LeadsTo past state)
    (unset : ∀ moment ∈ past, ∀ ttl, moment.action ≠ .setTtl ttl) :
    state.cache.ttl = start.cache.ttl := by
  induction leads with
  | nothing => rfl
  | acting leads single inductionHypothesis =>
      rw [ttl_perform single (unset ⟨_, _⟩ (List.mem_append_right _ (List.mem_singleton.mpr rfl)))]
      exact inductionHypothesis fun moment isEarlier =>
        unset moment (List.mem_append_left _ isEarlier)

/-- Where nobody sets the time to live, it is the old one. -/
theorem ttl_moments {actions : List CacheAction}
    (unset : ∀ ttl, .setTtl ttl ∉ CacheAction.allSingles actions) (start : CacheState)
    (propagates : Bool) : ∀ moment ∈ start.allMoments propagates actions,
      moment.state.cache.ttl = start.cache.ttl := by
  intro moment member
  obtain ⟨earlier, isBefore, leads, _⟩ := leadsTo_of_mem member
  apply ttl_eq_of_leadsTo leads
  intro other isEarlier ttl sets
  rcases action_of_mem_moments.2 actions start propagates other (isBefore.subset isEarlier) with
    isWritten | ⟨maxSize, setsMaxSize⟩
  · exact unset ttl (sets ▸ isWritten)
  · rw [sets] at setsMaxSize
    cases setsMaxSize

end CacheState

end UriTemplate
