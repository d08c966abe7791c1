import Mathlib.Data.Nat.Init

namespace PollingLoop

/-!
# Polling loops

A loop runs its body until this is done, and pauses after every other run.  The
body gets the fuel that is left, for loops of its own.  A loop whose body does
not go on behind a deadline, and whose pauses last a while, ends after a number
of iterations that depends on the deadline only.
-/

/-- How one run of the body ends. -/
inductive Outcome (State Result : Type*) where
  | again (state : State)
  | done (result : Result)

variable {State Result : Type*}

/-- The loop over a body with a pause after every iteration but the last. -/
def loop
    (body : Nat → State → Option (Outcome State Result))
    (pause : State → State) : Nat → State → Option Result
  | 0, _ => none
  | fuel + 1, state =>
      match body fuel state with
      | none => none
      | some (.done result) => some result
      | some (.again after) => loop body pause fuel (pause after)

/-- With enough fuel the body ends in this way. -/
def Settles
    (body : Nat → State → Option (Outcome State Result))
    (state : State)
    (outcome : Outcome State Result) : Prop :=
  ∃ enough, ∀ fuel, enough ≤ fuel → body fuel state = some outcome

/-- The loop ends with a result after some iterations. -/
inductive Iterates
    (body : Nat → State → Option (Outcome State Result))
    (pause : State → State) : Nat → State → Result → Prop where
  | last
      {state : State}
      {result : Result}
      (settles : Settles body state (.done result)) :
      Iterates body pause 1 state result
  | next
      {iterations : Nat}
      {state after : State}
      {result : Result}
      (settles : Settles body state (.again after))
      (later : Iterates body pause iterations (pause after) result) :
      Iterates body pause (iterations + 1) state result

/--
The body of a loop with a deadline: it always ends, goes on only if it has read
the clock before the deadline, and the clock moves on during a pause.
-/
structure Paced
    (body : Nat → State → Option (Outcome State Result))
    (pause : State → State)
    (inv : State → Prop)
    (clock : State → Nat)
    (interval deadline : Nat) : Prop where
  settles :
    ∀ state,
      inv state →
      ∃ outcome, Settles body state outcome
  keeps :
    ∀ state after,
      inv state →
      Settles body state (.again after) →
      inv (pause after)
  forward :
    ∀ state after,
      inv state →
      Settles body state (.again after) →
      clock state ≤ clock after
  early :
    ∀ state after,
      inv state →
      Settles body state (.again after) →
      clock after < deadline
  passes : ∀ state, clock state + interval ≤ clock (pause state)

variable {body : Nat → State → Option (Outcome State Result)}
variable {pause : State → State}
variable {state : State}

/-- After its iterations the loop returns. -/
theorem Iterates.returns
    {iterations : Nat}
    {result : Result}
    (iterates : Iterates body pause iterations state result) :
    ∃ enough, ∀ fuel, enough ≤ fuel → loop body pause fuel state = some result := by
  induction iterates with
  | last settles =>
      obtain ⟨enough, ends⟩ := settles
      refine ⟨enough + 1, fun fuel more => ?_⟩
      obtain ⟨fuel, rfl⟩ :=
        Nat.exists_eq_add_one.mpr (Nat.zero_lt_of_lt more)
      rw [loop, ends fuel (Nat.le_of_succ_le_succ more)]
  | next settles later inductionHypothesis =>
      obtain ⟨enough, ends⟩ := settles
      obtain ⟨enoughLater, returns⟩ := inductionHypothesis
      refine ⟨max enough enoughLater + 1, fun fuel more => ?_⟩
      obtain ⟨fuel, rfl⟩ :=
        Nat.exists_eq_add_one.mpr (Nat.zero_lt_of_lt more)
      have both := Nat.max_le.mp (Nat.le_of_succ_le_succ more)
      rw [loop, ends fuel both.1]
      exact returns fuel both.2

/-- More fuel does not change what a loop returns. -/
theorem loop_mono
    (stable :
      ∀ fuel more state outcome,
        fuel ≤ more →
        body fuel state = some outcome →
        body more state = some outcome)
    {fuel more : Nat}
    (enough : fuel ≤ more)
    {result : Result}
    (returned : loop body pause fuel state = some result) :
    loop body pause more state = some result := by
  induction fuel generalizing more state with
  | zero =>
      cases returned
  | succ fuel inductionHypothesis =>
      obtain ⟨more, rfl⟩ :=
        Nat.exists_eq_add_one.mpr (Nat.zero_lt_of_lt enough)
      have less := Nat.le_of_succ_le_succ enough
      rw [loop] at returned
      split at returned
      · cases returned
      · rename_i ends
        rw [loop, stable fuel more state _ less ends]
        exact returned
      · rename_i after ends
        rw [loop, stable fuel more state _ less ends]
        exact inductionHypothesis less returned

section Deadline

variable {inv : State → Prop}
variable {clock : State → Nat}
variable {interval deadline : Nat}

/-- If the deadline is some pauses away, the loop ends one iteration later. -/
theorem Paced.iterates_of_reached
    (paced : Paced body pause inv clock interval deadline)
    (holds : inv state)
    {left : Nat}
    (reached : deadline ≤ clock state + left * interval) :
    ∃ iterations result,
      Iterates body pause iterations state result ∧ iterations ≤ left + 1 := by
  induction left generalizing state with
  | zero =>
      obtain ⟨outcome, settles⟩ := paced.settles state holds
      cases outcome with
      | done result =>
          exact ⟨1, result, .last settles, Nat.le_refl 1⟩
      | again after =>
          have forward := paced.forward state after holds settles
          have early := paced.early state after holds settles
          omega
  | succ left inductionHypothesis =>
      obtain ⟨outcome, settles⟩ := paced.settles state holds
      cases outcome with
      | done result =>
          exact ⟨1, result, .last settles, by omega⟩
      | again after =>
          have forward := paced.forward state after holds settles
          have passes := paced.passes after
          rw [Nat.succ_mul] at reached
          obtain ⟨iterations, result, iterates, few⟩ :=
            inductionHypothesis (paced.keeps state after holds settles)
              (by omega)
          exact ⟨iterations + 1, result, .next settles iterates,
            Nat.succ_le_succ few⟩

/--
The loop ends after one iteration for each interval until the deadline, rounded
up, and one more.
-/
theorem Paced.iterates
    (paced : Paced body pause inv clock interval deadline)
    (positive : 0 < interval)
    (holds : inv state) :
    ∃ iterations result,
      Iterates body pause iterations state result ∧
        iterations ≤
          (deadline - clock state + interval - 1) / interval + 1 := by
  refine paced.iterates_of_reached holds ?_
  have rounded :=
    Nat.div_add_mod' (deadline - clock state + interval - 1) interval
  have remainder :=
    Nat.mod_lt (deadline - clock state + interval - 1) positive
  omega

/--
The loop ends no later than the deadline, or the clock reading at its begin, and
the time of one pause and one run of the body.
-/
theorem Iterates.inTime
    (finished : Result → Nat)
    {pausing running : Nat}
    {iterations : Nat}
    {result : Result}
    (iterates : Iterates body pause iterations state result)
    (paced : Paced body pause inv clock interval deadline)
    (holds : inv state)
    (pauses : ∀ state, clock (pause state) ≤ clock state + pausing)
    (runs :
      ∀ state result,
        inv state →
        Settles body state (.done result) →
        finished result ≤ clock state + running)
    (started : clock state ≤ deadline + pausing) :
    finished result ≤ deadline + pausing + running := by
  induction iterates with
  | last settles =>
      exact Nat.le_trans (runs _ _ holds settles)
        (Nat.add_le_add_right started running)
  | @next _ _ after _ settles later inductionHypothesis =>
      have early := paced.early _ after holds settles
      have paused := pauses after
      exact inductionHypothesis (paced.keeps _ after holds settles) (by omega)

end Deadline

/-- A loop whose every iteration lowers a measure returns. -/
theorem exists_loop_of_measure
    (step : State → Outcome State Result)
    (pause : State → State)
    (measure : State → Nat)
    (lowers :
      ∀ state after,
        step state = .again after →
        measure (pause after) < measure state)
    (state : State) :
    ∃ result,
      ∀ fuel,
        measure state < fuel →
        loop (fun _ state => some (step state)) pause fuel state =
          some result := by
  induction size : measure state using Nat.strong_induction_on
    generalizing state with
  | _ _ inductionHypothesis =>
      cases ends : step state with
      | done result =>
          refine ⟨result, fun fuel more => ?_⟩
          obtain ⟨fuel, rfl⟩ :=
            Nat.exists_eq_add_one.mpr (Nat.zero_lt_of_lt more)
          simp only [loop, ends]
      | again after =>
          have lower := lowers state after ends
          rw [size] at lower
          obtain ⟨result, returns⟩ :=
            inductionHypothesis _ lower (pause after) rfl
          refine ⟨result, fun fuel more => ?_⟩
          obtain ⟨fuel, rfl⟩ :=
            Nat.exists_eq_add_one.mpr (Nat.zero_lt_of_lt more)
          simp only [loop, ends]
          exact returns fuel (by omega)

end PollingLoop
