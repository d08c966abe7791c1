import Mathlib.Algebra.Ring.Nat
import Waker.RequestRecord

namespace RequestServer

/-!
# Waiting for a request server

A call waits behind at most as many requests as fit into the queue and the one
in hand.  It is answered once the server has served these and its own request,
whatever else happens in the meantime.
-/

variable {Call Effort Request Reply Memory : Type*}
variable {serve? : Effort → Request → Memory → Option (Reply × Memory)}
variable {capacity : Nat}
variable {initial : Memory}

section

variable [DecidableEq Call]
variable {state next : State Call Request Reply Memory}

/-- Nothing that was accepted is forgotten. -/
theorem accepted_grows
    {label : Step Call Effort Request}
    (taken : step? serve? capacity state label = some next) :
    state.accepted <+: next.accepted := by
  cases moves_of_step taken with
  | sent sending running room =>
      exact List.prefix_append ..
  | _ =>
      exact List.prefix_refl _

/-- A server that has stopped does not run again. -/
theorem running_of_step
    {label : Step Call Effort Request}
    (taken : step? serve? capacity state label = some next)
    (running : next.running = true) :
    state.running = true := by
  cases moves_of_step taken with
  | stopped was =>
      exact was
  | _ =>
      exact running

/-- A step serves the requests that it says, and only with them the memory. -/
theorem served_of_step
    {label : Step Call Effort Request}
    (taken : step? serve? capacity state label = some next) :
    ∃ more,
      next.served = state.served ++ more ∧
        more.length = [label].countP Step.serves ∧
        ServedFrom serve? state.memory more next.memory := by
  cases moves_of_step taken with
  | @served effort job reply memory current serves =>
      exact ⟨[⟨job, reply⟩], rfl, rfl, ServedFrom.concat .nil effort serves⟩
  | _ =>
      exact ⟨[], (List.append_nil _).symm, rfl, .nil⟩

end

/-- Two runs of services, one after the other. -/
theorem ServedFrom.append
    {first second : List (Served Call Request Reply)}
    {between after : Memory}
    (earlier : ServedFrom serve? initial first between)
    (later : ServedFrom serve? between second after) :
    ServedFrom serve? initial (first ++ second) after := by
  induction later with
  | nil =>
      rw [List.append_nil]
      exact earlier
  | concat _ effort serves inductionHypothesis =>
      rw [← List.append_assoc]
      exact .concat inductionHypothesis effort serves

/-- The first of many services left the memory like this. -/
theorem ServedFrom.take
    {served first second : List (Served Call Request Reply)}
    {after : Memory}
    (computed : ServedFrom serve? initial served after)
    (split : served = first ++ second) :
    ∃ between, ServedFrom serve? initial first between := by
  induction computed generalizing second with
  | nil =>
      obtain ⟨rfl, -⟩ := List.nil_eq_append_iff.mp split
      exact ⟨initial, .nil⟩
  | concat earlier effort serves inductionHypothesis =>
      rcases List.eq_nil_or_concat second with rfl | ⟨front, last, rfl⟩
      · rw [List.append_nil] at split
        subst split
        exact ⟨_, .concat earlier effort serves⟩
      · rw [List.concat_eq_append, ← List.append_assoc] at split
        exact inductionHypothesis (List.append_inj_left' split rfl)

/-- Services of bounded length end in time. -/
theorem ServedFrom.clock_le
    {clock : Memory → Nat}
    {cost : Request → Nat}
    (paced :
      ∀ effort request before reply after,
        serve? effort request before = some (reply, after) →
        clock after ≤ clock before + cost request)
    {served : List (Served Call Request Reply)}
    {after : Memory}
    (computed : ServedFrom serve? initial served after) :
    clock after ≤
      clock initial +
        (served.map fun entry => cost entry.job.request).sum := by
  induction computed with
  | nil =>
      exact Nat.le_refl _
  | @concat served between after job reply _ effort serves
      inductionHypothesis =>
      have last := paced effort job.request between reply after serves
      rw [List.map_append, List.sum_append, List.map_singleton,
        List.sum_singleton, ← Nat.add_assoc]
      exact Nat.le_trans last (Nat.add_le_add_right inductionHypothesis _)

/-- What a run adds to the record. -/
structure Extends
    (serve? : Effort → Request → Memory → Option (Reply × Memory))
    (state final : State Call Request Reply Memory)
    (services : Nat) : Prop where
  accepted : state.accepted <+: final.accepted
  running : final.running = true → state.running = true
  served :
    ∃ more,
      final.served = state.served ++ more ∧
        more.length = services ∧
        ServedFrom serve? state.memory more final.memory

section

variable [DecidableEq Call]
variable {state next final : State Call Request Reply Memory}
variable {call : Call}
variable {request : Request}

/-- The record only grows in a run, by one entry for each service. -/
theorem extends_of_run
    {steps : List (Step Call Effort Request)}
    (reached :
      StepSystem.run? (step? serve? capacity) state steps = some final) :
    Extends serve? state final (steps.countP Step.serves) := by
  induction steps generalizing state with
  | nil =>
      cases reached
      exact ⟨List.prefix_refl _, id, [], (List.append_nil _).symm, rfl, .nil⟩
  | cons label rest inductionHypothesis =>
      simp only [StepSystem.run?] at reached
      split at reached
      · cases reached
      · rename_i next taken
        have later := inductionHypothesis reached
        obtain ⟨first, firstServed, firstMany, firstFrom⟩ :=
          served_of_step taken
        obtain ⟨more, served, many, moreFrom⟩ := later.served
        refine ⟨(accepted_grows taken).trans later.accepted,
          fun running => running_of_step taken (later.running running),
          first ++ more, ?_, ?_, firstFrom.append moreFrom⟩
        · rw [served, firstServed, List.append_assoc]
        · rw [List.length_append, firstMany, many, ← List.countP_append,
            List.singleton_append]

/-- A run keeps the record in order. -/
theorem Coherent.run
    (coherent : Coherent serve? capacity initial state)
    {steps : List (Step Call Effort Request)}
    (reached :
      StepSystem.run? (step? serve? capacity) state steps = some final) :
    Coherent serve? capacity initial final :=
  (StepSystem.always_of_invariant
    (fun _ _ _ coherent taken => coherent.step taken)
    (fun _ coherent => coherent)
    coherent
    steps).last reached

/-- A step does not turn a waiting call to another request. -/
theorem Coherent.follows_step
    (coherent : Coherent serve? capacity initial state)
    {label : Step Call Effort Request}
    (follows : (state.phase call).Follows request)
    (taken : step? serve? capacity state label = some next) :
    (next.phase call).Follows request := by
  have moved
      {mover : Call}
      {phase : Phase Request Reply}
      (own : mover = call → phase.Follows request) :
      ((state.setPhase mover phase).phase call).Follows request := by
    by_cases same : mover = call
    · subst same
      rw [State.phase_setPhase_self]
      exact own rfl
    · rw [State.phase_setPhase_of_ne state (Ne.symm same)]
      exact follows
  cases moves_of_step taken with
  | called idle =>
      refine moved fun same => ?_
      subst same
      rw [idle] at follows
      cases follows
  | sent sending running room =>
      refine moved fun same => ?_
      subst same
      rw [sending] at follows
      cases follows
  | refused sending ended =>
      refine moved fun same => ?_
      subst same
      rw [sending] at follows
      cases follows
  | taken free first =>
      exact follows
  | @served effort job reply memory current serves =>
      refine moved fun same => ?_
      subst same
      cases place : state.phase job.call with
      | waiting own =>
          have agrees := coherent.phases job.call
          rw [place] at agrees follows
          have alike :=
            coherent.request_unique agrees.1
              (coherent.current_accepted current)
          exact alike.symm.trans follows
      | _ =>
          rw [place] at follows
          exact follows
  | received answered =>
      refine moved fun same => ?_
      subst same
      rw [answered] at follows
      exact follows
  | dropped waiting ended =>
      refine moved fun same => ?_
      subst same
      rw [waiting] at follows
      exact follows
  | abandoned isOpen =>
      exact moved fun _ => trivial
  | stopped running =>
      exact follows

/-- A run does not turn a waiting call to another request. -/
theorem Coherent.follows_run
    (coherent : Coherent serve? capacity initial state)
    {steps : List (Step Call Effort Request)}
    (follows : (state.phase call).Follows request)
    (reached :
      StepSystem.run? (step? serve? capacity) state steps = some final) :
    (final.phase call).Follows request := by
  induction steps generalizing state with
  | nil =>
      cases reached
      exact follows
  | cons label rest inductionHypothesis =>
      simp only [StepSystem.run?] at reached
      split at reached
      · cases reached
      · rename_i next taken
        exact inductionHypothesis (coherent.step taken)
          (coherent.follows_step follows taken) reached

/--
A waiting call is answered in its turn: after as many services as there are
requests ahead of it and one more, whatever else happens in the meantime.
-/
theorem Coherent.answered_in_turn
    (coherent : Coherent serve? capacity initial state)
    {ahead behind : List (Job Call Request)}
    {steps : List (Step Call Effort Request)}
    (waiting : state.phase call = .waiting request)
    (place : state.pending = ahead ++ ⟨call, request⟩ :: behind)
    (reached :
      StepSystem.run? (step? serve? capacity) state steps = some final)
    (running : final.running = true)
    (turn : ahead.length < steps.countP Step.serves) :
    ∃ earlier reply after,
      earlier.map Served.job = ahead ∧
        ServedFrom serve? state.memory
          (earlier ++ [⟨⟨call, request⟩, reply⟩]) after ∧
        (final.phase call).Has request reply := by
  have extended := extends_of_run reached
  have coherentFinal := coherent.run reached
  obtain ⟨more, served, many, computed⟩ := extended.served
  have front : ahead ++ [⟨call, request⟩] <+: more.map Served.job := by
    have grown := extended.accepted
    rw [← coherent.kept (extended.running running),
      ← coherentFinal.kept running, served, List.map_append,
      List.append_assoc, List.prefix_append_right_inj, place,
      List.append_cons] at grown
    refine List.prefix_of_prefix_length_le
      ((List.prefix_append _ _).trans grown) (List.prefix_append _ _) ?_
    rw [List.length_append, List.length_singleton, List.length_map, many]
    exact turn
  obtain ⟨rest, split⟩ := front
  obtain ⟨upToOwn, later, rfl, jobs, -⟩ := List.map_eq_append_iff.mp split.symm
  obtain ⟨earlier, last, rfl, before, own⟩ := List.map_eq_append_iff.mp jobs
  obtain ⟨entry, rfl, same⟩ := List.map_eq_singleton_iff.mp own
  obtain ⟨job, reply⟩ := entry
  cases same
  obtain ⟨after, soFar⟩ := computed.take rfl
  refine ⟨earlier, reply, after, before, soFar, ?_⟩
  refine coherentFinal.has_of_served
    (coherent.follows_run ?_ reached) ?_
  · rw [waiting]
    rfl
  · rw [served]
    simp

end

end RequestServer
