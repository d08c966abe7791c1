import Mathlib.Data.List.Basic

namespace Latest

/-!
# Registers written by a fold

A fold over a list of instructions often drives several registers at once.  A
register that every instruction either overwrites or keeps ends with the value
of the last instruction that writes it.  A register to which every instruction
appends ends with all contributions in order.
-/

variable {State Instruction Value : Type*}

/-- The value of the last instruction that writes the register. -/
def latest
    (written : Instruction → Option Value)
    (instructions : List Instruction) : Option Value :=
  instructions.reverse.findSome? written

@[simp] theorem latest_nil
    (written : Instruction → Option Value) :
    latest written [] = none :=
  rfl

@[simp] theorem latest_cons
    (written : Instruction → Option Value)
    (first : Instruction)
    (rest : List Instruction) :
    latest written (first :: rest) =
      (latest written rest).or (written first) := by
  cases write : written first <;>
    simp [latest, write]

/-- The register is written exactly when some instruction writes it. -/
theorem latest_isSome_iff
    {written : Instruction → Option Value}
    {instructions : List Instruction} :
    (latest written instructions).isSome ↔
      ∃ instruction,
        instruction ∈ instructions ∧ (written instruction).isSome := by
  simp [latest]

/-- The latest value is the last one that is written at all. -/
theorem latest_eq_getLast?
    (written : Instruction → Option Value)
    (instructions : List Instruction) :
    latest written instructions =
      (instructions.filterMap written).getLast? := by
  induction instructions with
  | nil =>
      rfl
  | cons first rest inductionHypothesis =>
      rw [latest_cons, inductionHypothesis]
      cases write : written first with
      | none =>
          simp [write]
      | some value =>
          rw [List.filterMap_cons_some write, List.getLast?_cons]
          cases (rest.filterMap written).getLast? <;> rfl

/-- An overwritten register ends with its latest value. -/
theorem foldl_overwrite
    {step : State → Instruction → State}
    (register : State → Option Value)
    (written : Instruction → Option Value)
    (overwrites : ∀ state instruction,
      register (step state instruction) =
        (written instruction).or (register state))
    (instructions : List Instruction)
    (state : State) :
    register (instructions.foldl step state) =
      (latest written instructions).or (register state) := by
  induction instructions generalizing state with
  | nil =>
      simp
  | cons first rest inductionHypothesis =>
      rw [List.foldl_cons, inductionHypothesis, overwrites, latest_cons,
        Option.or_assoc]

/-- A register that only grows ends with all contributions. -/
theorem foldl_extend
    {step : State → Instruction → State}
    (register : State → List Value)
    (added : Instruction → List Value)
    (appends : ∀ state instruction,
      register (step state instruction) =
        register state ++ added instruction)
    (instructions : List Instruction)
    (state : State) :
    register (instructions.foldl step state) =
      register state ++ instructions.flatMap added := by
  induction instructions generalizing state with
  | nil =>
      simp
  | cons first rest inductionHypothesis =>
      rw [List.foldl_cons, inductionHypothesis, appends,
        List.flatMap_cons, List.append_assoc]

end Latest
