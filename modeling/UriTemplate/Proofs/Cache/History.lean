import UriTemplate.Cache.Action

namespace UriTemplate

namespace CacheAction

/-- Every action but a block acts at once. -/
def IsSingle : CacheAction → Prop
  | .disabled _ _ => False
  | _ => True

mutual

/-- The single actions that are written out, inside the blocks as outside them. -/
def singles : CacheAction → List CacheAction
  | .disabled _ actions => allSingles actions
  | action => [action]

def allSingles : List CacheAction → List CacheAction
  | [] => []
  | action :: rest => action.singles ++ allSingles rest

end

/-- What holds of the single actions, and of a block if it holds of what the block contains, holds
of all actions and of all lists of actions. -/
theorem induction {P : CacheAction → Prop} {Q : List CacheAction → Prop}
    (single : ∀ action, action.IsSingle → P action)
    (block : ∀ propagates actions, Q actions → P (.disabled propagates actions))
    (nil : Q []) (cons : ∀ action rest, P action → Q rest → Q (action :: rest)) :
    (∀ action, P action) ∧ ∀ actions, Q actions := by
  have each : ∀ action, P action :=
    @CacheAction.rec P Q (fun _ => single _ trivial) (fun _ => single _ trivial)
      (fun _ _ _ => single _ trivial) (fun _ _ _ => single _ trivial) (fun _ => single _ trivial)
      (fun _ => single _ trivial) (single _ trivial) (fun _ => single _ trivial)
      (fun _ => single _ trivial) (fun _ => single _ trivial) (fun _ => single _ trivial)
      block nil cons
  refine ⟨each, fun actions => ?_⟩
  induction actions with
  | nil => exact nil
  | cons action rest inductionHypothesis => exact cons action rest (each action) inductionHypothesis

/-- A single action consists of itself. -/
theorem singles_of_isSingle {action : CacheAction} (single : action.IsSingle) :
    action.singles = [action] := by
  cases action with
  | disabled => exact single.elim
  | _ => rfl

end CacheAction

/-- A single action and the state in which it is performed. -/
structure CacheMoment where
  state : CacheState
  action : CacheAction

def CacheMoment.after (moment : CacheMoment) : CacheState :=
  (moment.state.perform moment.action).state

namespace CacheState

mutual

/-- A block sets the limit to zero before its actions and gives the old limit back behind them. -/
def moments (state : CacheState) : CacheAction → List CacheMoment
  | .disabled propagates actions =>
      let inside := state.setMaxSize 0
      ⟨state, .setMaxSize 0⟩ :: inside.allMoments propagates actions ++
        [⟨(inside.performAll propagates actions).state, .setMaxSize state.cache.maxSize⟩]
  | action => [⟨state, action⟩]

/-- Behind an error that is let out nothing more is performed. -/
def allMoments (state : CacheState) (propagates : Bool) : List CacheAction → List CacheMoment
  | [] => []
  | action :: rest =>
      let run := state.perform action
      state.moments action ++
        if run.error.isSome && propagates then [] else run.state.allMoments propagates rest

end

/-- The state behind some moments, the first of which is in the start state. -/
def behind (start : CacheState) (past : List CacheMoment) : CacheState :=
  past.foldl (fun _ moment => moment.after) start

/-- A start leads to a state by single actions, each in the state that the ones before it left. -/
inductive LeadsTo (start : CacheState) : List CacheMoment → CacheState → Prop
  | nothing : LeadsTo start [] start
  | acting {past : List CacheMoment} {state : CacheState} {action : CacheAction} :
      LeadsTo start past state → action.IsSingle →
        LeadsTo start (past ++ [⟨state, action⟩]) (state.perform action).state

variable {start state : CacheState} {past : List CacheMoment}

/-- Behind a history stands the state that its last moment left. -/
theorem behind_concat (start : CacheState) (past : List CacheMoment) (moment : CacheMoment) :
    start.behind (past ++ [moment]) = moment.after := by
  simp only [behind, List.foldl_append, List.foldl_cons, List.foldl_nil]

/-- A history leads to one state only. -/
theorem LeadsTo.eq_behind (leads : start.LeadsTo past state) : state = start.behind past := by
  cases leads with
  | nothing => rfl
  | acting => exact (behind_concat _ _ ⟨_, _⟩).symm

/-- Histories can be put one behind the other. -/
theorem LeadsTo.append {more : List CacheMoment} {final : CacheState}
    (leads : start.LeadsTo past state) (leadsOn : state.LeadsTo more final) :
    start.LeadsTo (past ++ more) final := by
  induction leadsOn with
  | nothing => rwa [List.append_nil]
  | acting _ single inductionHypothesis =>
      rw [← List.append_assoc]
      exact inductionHypothesis.acting single

/-- A single action leads on from any state. -/
theorem leadsTo_single (state : CacheState) {action : CacheAction} (single : action.IsSingle) :
    state.LeadsTo [⟨state, action⟩] (state.perform action).state :=
  LeadsTo.nothing.acting single

/-- A single action is one moment. -/
theorem moments_of_isSingle (state : CacheState) {action : CacheAction}
    (single : action.IsSingle) : state.moments action = [⟨state, action⟩] := by
  cases action with
  | disabled => exact single.elim
  | _ => rfl

/-- A block leaves what its actions leave, with the old limit. -/
theorem perform_disabled_state (state : CacheState) (propagates : Bool)
    (actions : List CacheAction) :
    (state.perform (.disabled propagates actions)).state =
      (((state.setMaxSize 0).performAll propagates actions).state).setMaxSize
        state.cache.maxSize := by
  rw [perform]
  split <;> rfl

/-- The other actions follow the first, unless its failure leaves the block. -/
theorem performAll_cons_state (state : CacheState) (propagates : Bool) (action : CacheAction)
    (rest : List CacheAction) :
    (state.performAll propagates (action :: rest)).state =
      if (state.perform action).error.isSome && propagates then (state.perform action).state
      else ((state.perform action).state.performAll propagates rest).state := by
  rw [performAll]
  cases (state.perform action).error with
  | none => rfl
  | some => cases propagates <;> rfl

/-- The moments of a run lead to the state it ends in. -/
theorem leadsTo_moments : (∀ (action : CacheAction) (state : CacheState),
      state.LeadsTo (state.moments action) (state.perform action).state) ∧
    ∀ (actions : List CacheAction) (state : CacheState) (propagates : Bool),
      state.LeadsTo (state.allMoments propagates actions)
        (state.performAll propagates actions).state := by
  apply CacheAction.induction
  case single =>
    intro action single state
    rw [moments_of_isSingle state single]
    exact leadsTo_single state single
  case block =>
    intro propagates actions inside state
    have entering : state.LeadsTo [⟨state, .setMaxSize 0⟩] (state.setMaxSize 0) :=
      leadsTo_single state trivial
    rw [perform_disabled_state, moments]
    exact (entering.append (inside (state.setMaxSize 0) propagates)).acting trivial
  case nil =>
    exact fun _ _ => .nothing
  case cons =>
    intro action rest first others state propagates
    rw [performAll_cons_state, allMoments]
    split
    · rw [List.append_nil]
      exact first state
    · exact (first state).append (others _ propagates)

/-- All moments of a run lead to its final state. -/
theorem behind_allMoments (start : CacheState) (propagates : Bool) (actions : List CacheAction) :
    start.behind (start.allMoments propagates actions) =
      (start.performAll propagates actions).state :=
  (leadsTo_moments.2 actions start propagates).eq_behind.symm

/-- What is performed is written out, or it is a block that sets the limit. -/
theorem action_of_mem_moments : (∀ (action : CacheAction) (state : CacheState),
      ∀ moment ∈ state.moments action,
        moment.action ∈ action.singles ∨ ∃ maxSize, moment.action = .setMaxSize maxSize) ∧
    ∀ (actions : List CacheAction) (state : CacheState) (propagates : Bool),
      ∀ moment ∈ state.allMoments propagates actions,
        moment.action ∈ CacheAction.allSingles actions ∨
          ∃ maxSize, moment.action = .setMaxSize maxSize := by
  apply CacheAction.induction
  case single =>
    intro action single state moment member
    rw [moments_of_isSingle state single, List.mem_singleton] at member
    rw [CacheAction.singles_of_isSingle single, member]
    exact .inl (List.mem_singleton.mpr rfl)
  case block =>
    intro propagates actions inside state moment member
    rw [moments, List.cons_append, List.mem_cons, List.mem_append, List.mem_singleton] at member
    rcases member with rfl | isInside | rfl
    · exact .inr ⟨_, rfl⟩
    · exact inside _ propagates moment isInside
    · exact .inr ⟨_, rfl⟩
  case nil =>
    exact fun _ _ _ member => absurd member List.not_mem_nil
  case cons =>
    intro action rest first others state propagates moment member
    rw [allMoments, List.mem_append] at member
    rw [CacheAction.allSingles, List.mem_append, or_assoc]
    rcases member with isFirst | isLater
    · exact (first state moment isFirst).imp_right .inr
    · split at isLater
      · cases isLater
      · exact .inr (others _ propagates moment isLater)

/-- A history can be cut at every point. -/
theorem LeadsTo.split {more : List CacheMoment} (leads : start.LeadsTo (past ++ more) state) :
    start.LeadsTo past (start.behind past) ∧ (start.behind past).LeadsTo more state := by
  generalize isWhole : past ++ more = whole at leads
  induction leads generalizing more with
  | nothing =>
      obtain ⟨rfl, rfl⟩ := List.append_eq_nil_iff.mp isWhole
      exact ⟨.nothing, .nothing⟩
  | acting leads single inductionHypothesis =>
      rcases List.eq_nil_or_concat more with rfl | ⟨others, last, rfl⟩
      · rw [List.append_nil] at isWhole
        rw [isWhole, behind_concat]
        exact ⟨leads.acting single, .nothing⟩
      · rw [List.concat_eq_append, ← List.append_assoc] at isWhole
        obtain ⟨isEarlier, sameMoment⟩ := List.append_inj' isWhole rfl
        obtain rfl := List.singleton_inj.mp sameMoment
        obtain ⟨before, behind⟩ := inductionHypothesis isEarlier
        rw [List.concat_eq_append]
        exact ⟨before, behind.acting single⟩

/-- Every point of a run is led to by the moments before it. -/
theorem leadsTo_behind {propagates : Bool} {actions : List CacheAction}
    (isBefore : past <+: start.allMoments propagates actions) :
    start.LeadsTo past (start.behind past) := by
  have leads := leadsTo_moments.2 actions start propagates
  obtain ⟨later, isWhole⟩ := isBefore
  rw [← isWhole] at leads
  exact leads.split.1

/-- The last moment of a history is a single action behind the others. -/
theorem LeadsTo.of_concat {moment : CacheMoment} (leads : start.LeadsTo (past ++ [moment]) state) :
    start.LeadsTo past moment.state ∧ moment.action.IsSingle ∧ state = moment.after := by
  generalize isWhole : past ++ [moment] = whole at leads
  cases leads with
  | nothing => exact absurd isWhole (List.append_ne_nil_of_right_ne_nil _ (List.cons_ne_nil _ _))
  | acting leads single =>
      obtain ⟨rfl, sameMoment⟩ := List.append_inj' isWhole rfl
      obtain rfl := List.singleton_inj.mp sameMoment
      exact ⟨leads, single, rfl⟩

/-- Every moment of a run is in a state that the moments before it lead to. -/
theorem leadsTo_of_mem {propagates : Bool} {actions : List CacheAction} {moment : CacheMoment}
    (member : moment ∈ start.allMoments propagates actions) :
    ∃ earlier, earlier <+: start.allMoments propagates actions ∧
      start.LeadsTo earlier moment.state ∧ moment.action.IsSingle := by
  obtain ⟨earlier, later, isWhole⟩ := List.append_of_mem member
  have isBefore : earlier ++ [moment] <+: start.allMoments propagates actions := by
    rw [isWhole]
    exact ⟨later, by rw [List.append_assoc, List.singleton_append]⟩
  obtain ⟨leads, single, _⟩ := (leadsTo_behind isBefore).of_concat
  exact ⟨earlier, (List.prefix_append _ _).trans isBefore, leads, single⟩

end CacheState

end UriTemplate
