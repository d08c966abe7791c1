import Mathlib.Data.List.Basic

/-!
# Transducers with a buffer

A transducer reads inputs one by one and emits outputs that depend on its state.
Behind a buffer, the outputs wait until somebody takes all of them at once.
What was taken and what still waits are together the outputs of everything that
was read, however reading and taking were interleaved.
-/

/-- A machine that reads inputs and emits outputs. -/
structure Transducer (State Input Output : Type*) where
  next : State → Input → State
  emit : State → Input → List Output

namespace Transducer

variable {State Input Output : Type*}

/-- The state after a list of inputs. -/
def after
    (machine : Transducer State Input Output)
    (state : State)
    (inputs : List Input) : State :=
  inputs.foldl machine.next state

/-- The outputs for a list of inputs. -/
def output
    (machine : Transducer State Input Output) :
    State → List Input → List Output
  | _, [] => []
  | state, input :: rest =>
      machine.emit state input ++ machine.output (machine.next state input) rest

section Runs

variable (machine : Transducer State Input Output)
variable (state : State)

@[simp] theorem after_nil : machine.after state [] = state :=
  rfl

@[simp] theorem output_nil : machine.output state [] = [] :=
  rfl

/-- Inputs in two portions lead to the same state as all at once. -/
theorem after_append (first second : List Input) :
    machine.after state (first ++ second) =
      machine.after (machine.after state first) second :=
  List.foldl_append

/-- Inputs in two portions cause the same outputs as all at once. -/
theorem output_append (first second : List Input) :
    machine.output state (first ++ second) =
      machine.output state first ++
        machine.output (machine.after state first) second := by
  induction first generalizing state with
  | nil =>
      rfl
  | cons input rest inductionHypothesis =>
      rw [List.cons_append, output, output, inductionHypothesis,
        List.append_assoc]
      rfl

end Runs

/-- Everything that was taken, and what waits, for the inputs read so far. -/
structure Carries
    (machine : Transducer State Input Output)
    (start : State)
    (read : List Input)
    (taken : List (List Output))
    (state : State)
    (buffer : List Output) : Prop where
  state : state = machine.after start read
  outputs : taken.flatten ++ buffer = machine.output start read

namespace Carries

variable {machine : Transducer State Input Output}
variable {start state : State}
variable {read more : List Input}
variable {taken : List (List Output)}
variable {buffer : List Output}

/-- At first nothing was read. -/
theorem initial : Carries machine start [] [] start [] where
  state := rfl
  outputs := rfl

/-- Reading adds to the buffer. -/
theorem feed
    (carries : Carries machine start read taken state buffer)
    (more : List Input) :
    Carries machine start (read ++ more) taken (machine.after state more)
      (buffer ++ machine.output state more) where
  state := by rw [carries.state, after_append]
  outputs := by
    rw [output_append, ← carries.outputs, ← carries.state,
      List.append_assoc]

/-- Taking empties the buffer. -/
theorem take
    (carries : Carries machine start read taken state buffer) :
    Carries machine start read (taken ++ [buffer]) state [] where
  state := carries.state
  outputs := by
    rw [List.append_nil, ← carries.outputs, List.flatten_concat]

end Carries

end Transducer
