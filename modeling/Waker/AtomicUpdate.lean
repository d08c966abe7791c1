import Mathlib.Data.List.Nodup
import Mathlib.Order.Basic
import Waker.StepSystem

namespace AtomicUpdate

/-!
# Concurrent updates of an atomic cell

Any number of calls of `fetch_update` work on one cell: each loads a value and
then repeats weak compare-exchanges until one succeeds or the update function
refuses.  The values that the cell takes are its modification order.  All
accesses are relaxed: a load or a failed exchange sees some value of this order,
not always the last one, while an exchange that succeeds replaces the last one.
-/

variable {Call Input Value : Type*}

/-- An update that has taken effect. -/
structure Update (Call Input Value : Type*) where
  call : Call
  input : Input
  previous : Value
  stored : Value
  deriving Repr, DecidableEq

/-- Where a call stands, and the result with which it has returned. -/
inductive Phase (Input Value : Type*) where
  | idle
  | called (input : Input)
  | attempting (input : Input) (seen : Value)
  | returned (input : Input) (result : Except Value Value)

/-- The cell with all its updates in modification order, and the calls. -/
structure State (Call Input Value : Type*) where
  initial : Value
  updates : List (Update Call Input Value)
  phase : Call → Phase Input Value

/-- What a call can do next. -/
inductive Step (Call Input Value : Type*) where
  | call (call : Call) (input : Input)
  | load (call : Call) (seen : Value)
  | exchange (call : Call)
  | miss (call : Call) (seen : Value)
  | refuse (call : Call)

/-- The value that a cell holds after some updates. -/
def latest : Value → List (Update Call Input Value) → Value
  | value, [] => value
  | _, update :: rest => latest update.stored rest

/-- Every update replaces the value before it by what the function makes of it. -/
def Chained
    (update? : Input → Value → Option Value) :
    Value → List (Update Call Input Value) → Prop
  | _, [] => True
  | value, update :: rest =>
      update.previous = value ∧
      update? update.input value = some update.stored ∧
      Chained update? update.stored rest

namespace State

/-- No call has begun. -/
def start (initial : Value) : State Call Input Value where
  initial := initial
  updates := []
  phase := fun _ => .idle

/-- The modification order of the cell. -/
def values (state : State Call Input Value) : List Value :=
  state.initial :: state.updates.map Update.stored

/-- The value of the cell. -/
def current (state : State Call Input Value) : Value :=
  latest state.initial state.updates

variable [DecidableEq Call]

/-- Only one call moves. -/
def setPhase
    (state : State Call Input Value)
    (call : Call)
    (phase : Phase Input Value) : State Call Input Value :=
  { state with phase := Function.update state.phase call phase }

/-- The exchange of a call takes effect, and the call returns. -/
def commit
    (state : State Call Input Value)
    (update : Update Call Input Value) : State Call Input Value :=
  { state with
    updates := state.updates ++ [update]
    phase := Function.update state.phase update.call
      (.returned update.input (.ok update.previous)) }

variable (state : State Call Input Value)

@[simp] theorem phase_setPhase_self
    (call : Call)
    (phase : Phase Input Value) :
    (state.setPhase call phase).phase call = phase :=
  Function.update_self ..

@[simp] theorem phase_setPhase_of_ne
    {call other : Call}
    (different : other ≠ call)
    (phase : Phase Input Value) :
    (state.setPhase call phase).phase other = state.phase other :=
  Function.update_of_ne different ..

@[simp] theorem updates_commit
    (update : Update Call Input Value) :
    (state.commit update).updates = state.updates ++ [update] :=
  rfl

@[simp] theorem phase_commit_self
    (update : Update Call Input Value) :
    (state.commit update).phase update.call =
      .returned update.input (.ok update.previous) :=
  Function.update_self ..

@[simp] theorem phase_commit_of_ne
    {update : Update Call Input Value}
    {other : Call}
    (different : other ≠ update.call) :
    (state.commit update).phase other = state.phase other :=
  Function.update_of_ne different ..

end State

section

variable [DecidableEq Call] [DecidableEq Value]

/-- Take a step of a call that stands where the step begins. -/
def step?
    (update? : Input → Value → Option Value)
    (state : State Call Input Value) :
    Step Call Input Value → Option (State Call Input Value)
  | .call call input =>
      match state.phase call with
      | .idle => some (state.setPhase call (.called input))
      | _ => none
  | .load call seen =>
      match state.phase call with
      | .called input =>
          if seen ∈ state.values then
            some (state.setPhase call (.attempting input seen))
          else
            none
      | _ => none
  | .exchange call =>
      match state.phase call with
      | .attempting input seen =>
          match update? input seen with
          | some stored =>
              if seen = state.current then
                some (state.commit ⟨call, input, seen, stored⟩)
              else
                none
          | none => none
      | _ => none
  | .miss call seen =>
      match state.phase call with
      | .attempting input expected =>
          if (update? input expected).isSome ∧ seen ∈ state.values then
            some (state.setPhase call (.attempting input seen))
          else
            none
      | _ => none
  | .refuse call =>
      match state.phase call with
      | .attempting input seen =>
          match update? input seen with
          | some _ => none
          | none =>
              some (state.setPhase call (.returned input (.error seen)))
      | _ => none

end

/-- The call has returned the value that its update has replaced. -/
def Phase.Updated : Phase Input Value → Prop
  | .returned _ (.ok _) => True
  | _ => False

/-- The call has not updated the cell, and has returned only if it was refused. -/
def Phase.Passive
    (update? : Input → Value → Option Value) : Phase Input Value → Prop
  | .returned _ (.ok _) => False
  | .returned input (.error seen) => update? input seen = none
  | _ => True

/--
The updates are chained, no call updates the cell twice, a call has updated it
exactly when it has returned the value that it replaced, and a call that has
returned without an update was refused.
-/
structure Coherent
    (update? : Input → Value → Option Value)
    (state : State Call Input Value) : Prop where
  chained : Chained update? state.initial state.updates
  once : (state.updates.map Update.call).Nodup
  returned :
    ∀ update,
      update ∈ state.updates →
      state.phase update.call =
        .returned update.input (.ok update.previous)
  recorded :
    ∀ call input previous,
      state.phase call = .returned input (.ok previous) →
      ∃ update,
        update ∈ state.updates ∧ update.call = call ∧
          update.input = input ∧ update.previous = previous
  refused :
    ∀ call input seen,
      state.phase call = .returned input (.error seen) →
      update? input seen = none

@[simp] theorem latest_append
    (value : Value)
    (updates : List (Update Call Input Value))
    (update : Update Call Input Value) :
    latest value (updates ++ [update]) = update.stored := by
  induction updates generalizing value with
  | nil =>
      rfl
  | cons first rest inductionHypothesis =>
      exact inductionHypothesis first.stored

variable {update? : Input → Value → Option Value}

/-- At first nothing has been updated. -/
theorem coherent_start
    (initial : Value) :
    Coherent update? (.start initial : State Call Input Value) where
  chained := trivial
  once := List.nodup_nil
  returned := by simp [State.start]
  recorded := by simp [State.start]
  refused := by simp [State.start]

/-- An update is chained to the updates before it. -/
theorem chained_append_iff
    {value : Value}
    {updates : List (Update Call Input Value)}
    {update : Update Call Input Value} :
    Chained update? value (updates ++ [update]) ↔
      Chained update? value updates ∧
      update.previous = latest value updates ∧
      update? update.input update.previous = some update.stored := by
  induction updates generalizing value with
  | nil =>
      simp only [List.nil_append, Chained, latest, and_true, true_and]
      exact and_congr_right fun same => by rw [same]
  | cons first rest inductionHypothesis =>
      simp only [List.cons_append, Chained, latest, inductionHypothesis,
        and_assoc]

/-- An update stores what the function makes of the value that it replaces. -/
theorem Chained.stored_eq
    {value : Value}
    {updates : List (Update Call Input Value)}
    (chained : Chained update? value updates)
    {update : Update Call Input Value}
    (member : update ∈ updates) :
    update? update.input update.previous = some update.stored := by
  induction updates generalizing value with
  | nil =>
      cases member
  | cons first rest inductionHypothesis =>
      obtain ⟨same, stored, later⟩ := chained
      rcases List.mem_cons.mp member with rfl | inRest
      · rw [same]
        exact stored
      · exact inductionHypothesis later inRest

/--
Where the function only makes larger values of the values stored before, each
update stores more than all updates before it.
-/
theorem Chained.increasing
    {Rank : Type*}
    [Preorder Rank]
    (rank : Value → Rank)
    {value : Value}
    {updates : List (Update Call Input Value)}
    (chained : Chained update? value updates)
    (bounded : Value → Prop)
    (initially : bounded value)
    (stored : ∀ update, update ∈ updates → bounded update.stored)
    (grows :
      ∀ input previous next,
        bounded previous →
        update? input previous = some next →
        rank previous < rank next) :
    (∀ update, update ∈ updates → rank value < rank update.stored) ∧
      updates.Pairwise fun earlier later =>
        rank earlier.stored < rank later.stored := by
  induction updates generalizing value with
  | nil =>
      simp
  | cons first rest inductionHypothesis =>
      obtain ⟨-, made, later⟩ := chained
      rw [List.forall_mem_cons] at stored
      obtain ⟨above, ordered⟩ :=
        inductionHypothesis later stored.1 stored.2
      have larger := grows first.input value first.stored initially made
      refine ⟨List.forall_mem_cons.mpr ⟨larger, ?_⟩, .cons above ordered⟩
      exact fun update member => lt_trans larger (above update member)

section

variable [DecidableEq Call]
variable {state next : State Call Input Value}

/-- A call that has not updated the cell may move. -/
theorem Coherent.setPhase
    (coherent : Coherent update? state)
    {call : Call}
    {phase : Phase Input Value}
    (before : ¬ (state.phase call).Updated)
    (after : phase.Passive update?) :
    Coherent update? (state.setPhase call phase) where
  chained := coherent.chained
  once := coherent.once
  returned := by
    intro update member
    have there := coherent.returned update member
    have other : update.call ≠ call := by
      rintro rfl
      rw [there] at before
      exact before trivial
    exact (state.phase_setPhase_of_ne other phase).trans there
  recorded := by
    intro other input previous there
    by_cases same : other = call
    · subst same
      rw [State.phase_setPhase_self] at there
      rw [there] at after
      exact after.elim
    · rw [state.phase_setPhase_of_ne same] at there
      exact coherent.recorded other input previous there
  refused := by
    intro other input seen there
    by_cases same : other = call
    · subst same
      rw [State.phase_setPhase_self] at there
      rw [there] at after
      exact after
    · rw [state.phase_setPhase_of_ne same] at there
      exact coherent.refused other input seen there

/-- A call that has not updated the cell may update it. -/
theorem Coherent.commit
    (coherent : Coherent update? state)
    {update : Update Call Input Value}
    (before : ¬ (state.phase update.call).Updated)
    (replaced : update.previous = state.current)
    (made : update? update.input update.previous = some update.stored) :
    Coherent update? (state.commit update) where
  chained :=
    chained_append_iff.mpr ⟨coherent.chained, replaced, made⟩
  once := by
    rw [State.updates_commit, List.map_append, List.nodup_append]
    refine ⟨coherent.once, List.nodup_singleton _, ?_⟩
    intro first member second isLast same
    obtain ⟨earlier, inUpdates, rfl⟩ := List.mem_map.mp member
    rw [List.map_singleton, List.mem_singleton] at isLast
    have there := coherent.returned earlier inUpdates
    rw [same, isLast] at there
    rw [there] at before
    exact before trivial
  returned := by
    intro other member
    rcases List.mem_append.mp member with earlier | isLast
    · have there := coherent.returned other earlier
      have different : other.call ≠ update.call := by
        intro same
        rw [same] at there
        rw [there] at before
        exact before trivial
      exact (state.phase_commit_of_ne different).trans there
    · rw [List.mem_singleton] at isLast
      subst isLast
      exact state.phase_commit_self other
  recorded := by
    intro call input previous there
    by_cases same : call = update.call
    · subst same
      rw [State.phase_commit_self] at there
      cases there
      exact ⟨update, by simp, rfl, rfl, rfl⟩
    · rw [state.phase_commit_of_ne same] at there
      obtain ⟨earlier, member, details⟩ :=
        coherent.recorded call input previous there
      exact ⟨earlier, by simp [member], details⟩
  refused := by
    intro call input seen there
    by_cases same : call = update.call
    · subst same
      rw [State.phase_commit_self] at there
      cases there
    · rw [state.phase_commit_of_ne same] at there
      exact coherent.refused call input seen there

variable [DecidableEq Value]

/--
A step moves a call that has not returned, without an update, or it is the
update of a call that has seen the value of the cell.
-/
theorem step_cases
    {step : Step Call Input Value}
    (taken : step? update? state step = some next) :
    (∃ call phase,
      ¬ (state.phase call).Updated ∧ phase.Passive update? ∧
        next = state.setPhase call phase) ∨
    ∃ update,
      ¬ (state.phase update.call).Updated ∧
        update.previous = state.current ∧
        update? update.input update.previous = some update.stored ∧
        next = state.commit update := by
  cases step with
  | call call input =>
      simp only [step?] at taken
      split at taken <;> cases taken
      rename_i phase
      exact .inl ⟨call, .called input, by simp [phase, Phase.Updated], trivial, rfl⟩
  | load call seen =>
      simp only [step?] at taken
      split at taken
      · rename_i input phase
        split at taken <;> cases taken
        exact .inl ⟨call, .attempting input seen,
          by simp [phase, Phase.Updated], trivial, rfl⟩
      · cases taken
  | exchange call =>
      simp only [step?] at taken
      split at taken
      · rename_i input seen phase
        split at taken
        · rename_i stored made
          split at taken <;> cases taken
          rename_i same
          exact .inr ⟨⟨call, input, seen, stored⟩,
            by simp [phase, Phase.Updated], same, made, rfl⟩
        · cases taken
      · cases taken
  | miss call seen =>
      simp only [step?] at taken
      split at taken
      · rename_i input expected phase
        split at taken <;> cases taken
        exact .inl ⟨call, .attempting input seen,
          by simp [phase, Phase.Updated], trivial, rfl⟩
      · cases taken
  | refuse call =>
      simp only [step?] at taken
      split at taken
      · rename_i input seen phase
        split at taken <;> cases taken
        rename_i refused
        exact .inl ⟨call, .returned input (.error seen),
          by simp [phase, Phase.Updated], refused, rfl⟩
      · cases taken

/-- Every step keeps the state coherent. -/
theorem Coherent.step
    (coherent : Coherent update? state)
    {step : Step Call Input Value}
    (taken : step? update? state step = some next) :
    Coherent update? next := by
  rcases step_cases taken with
    ⟨call, phase, before, after, rfl⟩ |
    ⟨update, before, replaced, made, rfl⟩
  · exact coherent.setPhase before after
  · exact coherent.commit before replaced made

/-- No step changes the initial value. -/
theorem initial_step
    {step : Step Call Input Value}
    (taken : step? update? state step = some next) :
    next.initial = state.initial := by
  rcases step_cases taken with
    ⟨call, phase, -, -, rfl⟩ | ⟨update, -, -, -, rfl⟩
  · rfl
  · rfl

/-- Every run leads to a coherent state of the same cell. -/
theorem coherent_of_run
    {initial : Value}
    {steps : List (Step Call Input Value)}
    (reached :
      StepSystem.run? (step? update?) (.start initial) steps = some state) :
    Coherent update? state ∧ state.initial = initial := by
  have always :
      StepSystem.Always (step? update?)
        (fun state : State Call Input Value =>
          Coherent update? state ∧ state.initial = initial)
        (.start initial) steps :=
    StepSystem.always_of_invariant
      (fun state _ next known taken =>
        ⟨known.1.step taken, (initial_step taken).trans known.2⟩)
      (fun _ known => known) ⟨coherent_start initial, rfl⟩ steps
  exact always.last reached

end

end AtomicUpdate
