import Mathlib.Logic.Basic

namespace StepSystem

/-!
# Labelled step systems

A step function takes a state and a label to the next state, or refuses the
label.  A property is checked in every state along a list of labels, and a
condition at every step that is taken.
-/

variable {State Label : Type*}
variable {step? : State → Label → Option State}
variable {inv safe : State → Prop}
variable {condition : State → Label → Prop}
variable {state : State}

/-- Take all steps of a list of labels. -/
def run?
    (step? : State → Label → Option State) :
    State → List Label → Option State
  | state, [] => some state
  | state, label :: rest =>
      match step? state label with
      | none => none
      | some next => run? step? next rest

/-- The property holds in every state along the labels. -/
def Always
    (step? : State → Label → Option State)
    (safe : State → Prop) :
    State → List Label → Prop
  | state, [] => safe state
  | state, label :: rest =>
      safe state ∧
      ∀ next,
        step? state label = some next →
        Always step? safe next rest

/-- Every step that is taken meets the condition in the state before it. -/
def Meets
    (step? : State → Label → Option State)
    (condition : State → Label → Prop) :
    State → List Label → Prop
  | _, [] => True
  | state, label :: rest =>
      ∀ next,
        step? state label = some next →
        condition state label ∧
        Meets step? condition next rest

/-- Take a step while an observer notes what it sees of it. -/
def observing
    {Seen : Type*}
    (step? : State → Label → Option State)
    (observe : State → Label → Seen → Seen) :
    State × Seen → Label → Option (State × Seen) :=
  fun (state, seen) label =>
    (step? state label).map fun next => (next, observe state label seen)

/-- An observer neither prevents a step nor changes its outcome. -/
theorem observing_eq_some_iff
    {Seen : Type*}
    {observe : State → Label → Seen → Seen}
    {seen : Seen}
    {label : Label}
    {after : State × Seen} :
    observing step? observe (state, seen) label = some after ↔
      step? state label = some after.1 ∧
      after.2 = observe state label seen := by
  simp only [observing, Option.map_eq_some_iff]
  constructor
  · rintro ⟨next, taken, rfl⟩
    exact ⟨taken, rfl⟩
  · rintro ⟨taken, seenAfter⟩
    exact ⟨after.1, taken, Prod.ext rfl seenAfter.symm⟩

/-- The property holds in the first state. -/
theorem Always.head
    {labels : List Label}
    (always : Always step? safe state labels) :
    safe state := by
  cases labels with
  | nil =>
      exact always
  | cons label rest =>
      exact always.1

/-- The property holds in the last state of a run. -/
theorem Always.last
    {labels : List Label}
    {final : State}
    (always : Always step? safe state labels)
    (returned : run? step? state labels = some final) :
    safe final := by
  induction labels generalizing state with
  | nil =>
      cases returned
      exact always
  | cons label rest inductionHypothesis =>
      simp only [run?] at returned
      split at returned
      · cases returned
      · rename_i next taken
        exact inductionHypothesis (always.2 next taken) returned

/-- An invariant that every step preserves holds along all labels. -/
theorem always_of_invariant
    (preserved : ∀ state label next,
      inv state →
      step? state label = some next →
      inv next)
    (implied : ∀ state, inv state → safe state)
    (initially : inv state)
    (labels : List Label) :
    Always step? safe state labels := by
  induction labels generalizing state with
  | nil =>
      exact implied state initially
  | cons label rest inductionHypothesis =>
      exact ⟨implied state initially, fun next taken =>
        inductionHypothesis (preserved state label next initially taken)⟩

/-- An invariant that every admitted step preserves holds where all are. -/
theorem always_of_meets
    (preserved : ∀ state label next,
      inv state →
      condition state label →
      step? state label = some next →
      inv next)
    (implied : ∀ state, inv state → safe state)
    (initially : inv state)
    {labels : List Label}
    (meets : Meets step? condition state labels) :
    Always step? safe state labels := by
  induction labels generalizing state with
  | nil =>
      exact implied state initially
  | cons label rest inductionHypothesis =>
      refine ⟨implied state initially, fun next taken => ?_⟩
      obtain ⟨admitted, later⟩ := meets next taken
      exact inductionHypothesis
        (preserved state label next initially admitted taken) later

/--
If in addition every step that is not admitted breaks the property, the
property holds along exactly the labels whose steps are all admitted.
-/
theorem always_iff_meets
    (preserved : ∀ state label next,
      inv state →
      condition state label →
      step? state label = some next →
      inv next)
    (implied : ∀ state, inv state → safe state)
    (necessary : ∀ state label next,
      inv state →
      step? state label = some next →
      safe next →
      condition state label)
    (initially : inv state)
    (labels : List Label) :
    Always step? safe state labels ↔
      Meets step? condition state labels := by
  constructor
  · intro always
    induction labels generalizing state with
    | nil =>
        trivial
    | cons label rest inductionHypothesis =>
        intro next taken
        have later := always.2 next taken
        have admitted :=
          necessary state label next initially taken later.head
        exact ⟨admitted,
          inductionHypothesis
            (preserved state label next initially admitted taken) later⟩
  · exact always_of_meets preserved implied initially

/-- The condition is met where a run takes its last step. -/
theorem Meets.last
    {labels : List Label}
    {label : Label}
    {final after : State}
    (meets : Meets step? condition state (labels ++ [label]))
    (reached : run? step? state labels = some final)
    (taken : step? final label = some after) :
    condition final label := by
  induction labels generalizing state with
  | nil =>
      cases reached
      exact (meets after taken).1
  | cons first rest inductionHypothesis =>
      simp only [run?] at reached
      split at reached
      · cases reached
      · rename_i next stepped
        exact inductionHypothesis (meets next stepped).2 reached

/-- Two conditions that agree wherever the invariant holds admit the same. -/
theorem meets_iff_meets
    {other : State → Label → Prop}
    (preserved : ∀ state label next,
      inv state →
      step? state label = some next →
      inv next)
    (agree : ∀ state label next,
      inv state →
      step? state label = some next →
      (condition state label ↔ other state label))
    (initially : inv state)
    (labels : List Label) :
    Meets step? condition state labels ↔ Meets step? other state labels := by
  induction labels generalizing state with
  | nil =>
      rfl
  | cons label rest inductionHypothesis =>
      refine forall_congr' fun next => forall_congr' fun taken => ?_
      exact and_congr (agree state label next initially taken)
        (inductionHypothesis (preserved state label next initially taken))

/-- A condition that implies another wherever it keeps the invariant. -/
theorem Meets.imp
    {other : State → Label → Prop}
    (preserved : ∀ state label next,
      inv state →
      condition state label →
      step? state label = some next →
      inv next)
    (implies : ∀ state label,
      inv state →
      condition state label →
      other state label)
    (initially : inv state)
    {labels : List Label}
    (meets : Meets step? condition state labels) :
    Meets step? other state labels := by
  induction labels generalizing state with
  | nil =>
      trivial
  | cons label rest inductionHypothesis =>
      intro next taken
      obtain ⟨admitted, later⟩ := meets next taken
      exact ⟨implies state label initially admitted,
        inductionHypothesis
          (preserved state label next initially admitted taken) later⟩

end StepSystem
