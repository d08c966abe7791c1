import Mathlib.Logic.Basic

namespace AbortableTask

/-!
# Tasks that can be aborted

The operations that a runtime provides for tasks, and what it promises about
them.  A task runs between the points at which it waits.  Where it waits, it is
taken up again once it is woken; a task that was aborted ends there instead,
while one that runs goes on until it waits next.
-/

variable {Point : Type}

/-- Where a task is. -/
inductive Place (Point : Type) where
  | suspended (point : Point)
  | running (point : Point)
  | finished
  deriving Repr, DecidableEq

/-- What a task does at a point. -/
inductive Turn (Point : Type) where
  | goOn (point : Point)
  | wait (point : Point)
  | finish
  deriving Repr, DecidableEq

/-- What there is to know about a task: where it is and if it was aborted. -/
structure SpawnedTask (Point : Type) where
  place : Place Point
  aborted : Bool
  deriving Repr, DecidableEq

/-- Where a turn leads. -/
def Turn.place : Turn Point → Place Point
  | .goOn point => .running point
  | .wait point => .suspended point
  | .finish => .finished

namespace SpawnedTask

/-- A task that has not run yet. -/
def spawned (point : Point) : SpawnedTask Point where
  place := .suspended point
  aborted := false

/-- Ask a task to end where it waits next. -/
def abort (task : SpawnedTask Point) : SpawnedTask Point :=
  { task with aborted := true }

/-- The task is over. -/
def isFinished (task : SpawnedTask Point) : Bool :=
  match task.place with
  | .finished => true
  | _ => false

/-- Take up a task that waits, or let one that runs take a turn. -/
def step?
    (woken : Point → Bool)
    (turn : Point → Turn Point)
    (task : SpawnedTask Point) : Option (SpawnedTask Point) :=
  match task.place with
  | .suspended point =>
      if task.aborted then
        some { task with place := .finished }
      else if woken point then
        some { task with place := .running point }
      else
        none
  | .running point => some { task with place := (turn point).place }
  | .finished => none

variable {woken : Point → Bool}
variable {turn : Point → Turn Point}
variable {task next : SpawnedTask Point}

/-- What a step of a task can be. -/
theorem step?_eq_some_iff :
    task.step? woken turn = some next ↔
      (∃ point,
        task.place = .suspended point ∧
        task.aborted = true ∧
        next = { task with place := .finished }) ∨
      (∃ point,
        task.place = .suspended point ∧
        task.aborted = false ∧
        woken point = true ∧
        next = { task with place := .running point }) ∨
      (∃ point,
        task.place = .running point ∧
        next = { task with place := (turn point).place }) := by
  obtain ⟨place, aborted⟩ := task
  cases place with
  | suspended point =>
      cases aborted with
      | true =>
          simp [step?, @eq_comm _ _ next]
      | false =>
          cases wakes : woken point with
          | true =>
              simp [step?, wakes, @eq_comm _ _ next]
          | false =>
              simp [step?, wakes]
  | running point =>
      simp [step?, @eq_comm _ _ next]
  | finished =>
      simp [step?]

/-- A step never forgets that the task was aborted. -/
theorem aborted_of_step
    (taken : task.step? woken turn = some next) :
    next.aborted = task.aborted := by
  rcases step?_eq_some_iff.mp taken with
    ⟨_, _, _, rfl⟩ | ⟨_, _, _, _, rfl⟩ | ⟨_, _, rfl⟩ <;> rfl

/-- A task that takes a step is not over. -/
theorem not_isFinished_of_step
    (taken : task.step? woken turn = some next) :
    task.isFinished = false := by
  rcases step?_eq_some_iff.mp taken with
    ⟨_, place, _⟩ | ⟨_, place, _⟩ | ⟨_, place, _⟩ <;>
    simp [isFinished, place]

/-- A task is stuck only where it waits for something that has not happened. -/
theorem exists_step
    (turn : Point → Turn Point)
    (unfinished : task.isFinished = false)
    (awake : ∀ point,
      task.place = .suspended point →
      task.aborted = true ∨ woken point = true) :
    ∃ next, task.step? woken turn = some next := by
  cases place : task.place with
  | suspended point =>
      rcases awake point place with aborted | wakes
      · exact ⟨_, step?_eq_some_iff.mpr (.inl ⟨point, place, aborted, rfl⟩)⟩
      · cases aborted : task.aborted with
        | true =>
            exact ⟨_,
              step?_eq_some_iff.mpr (.inl ⟨point, place, aborted, rfl⟩)⟩
        | false =>
            exact ⟨_, step?_eq_some_iff.mpr
              (.inr (.inl ⟨point, place, aborted, wakes, rfl⟩))⟩
  | running point =>
      exact ⟨_, step?_eq_some_iff.mpr (.inr (.inr ⟨point, place, rfl⟩))⟩
  | finished =>
      simp [isFinished, place] at unfinished

end SpawnedTask

/-- The tasks of a runtime. -/
class Tasks (Task : Type → Type) where
  spawn {Point : Type} : Point → Task Point
  abort {Point : Type} : Task Point → Task Point
  /-- Take up a task that waits, or let one that runs take a turn. -/
  poll? {Point : Type} :
    (Point → Bool) → (Point → Turn Point) → Task Point → Option (Task Point)
  contents {Point : Type} : Task Point → SpawnedTask Point

/-- What a runtime promises about its tasks. -/
class LawfulTasks (Task : Type → Type) [Tasks Task] : Prop where
  spawn {Point : Type} (point : Point) :
    Tasks.contents (Tasks.spawn point : Task Point) = .spawned point
  abort {Point : Type} (task : Task Point) :
    Tasks.contents (Tasks.abort task) = (Tasks.contents task).abort
  poll_aborted
    {Point : Type}
    (woken : Point → Bool)
    (turn : Point → Turn Point)
    {task : Task Point}
    {point : Point}
    (waits : (Tasks.contents task).place = .suspended point)
    (aborted : (Tasks.contents task).aborted = true) :
    (Tasks.poll? woken turn task).map Tasks.contents =
      some { Tasks.contents task with place := .finished }
  poll_woken
    {Point : Type}
    {woken : Point → Bool}
    (turn : Point → Turn Point)
    {task : Task Point}
    {point : Point}
    (waits : (Tasks.contents task).place = .suspended point)
    (unaborted : (Tasks.contents task).aborted = false)
    (wakes : woken point = true) :
    (Tasks.poll? woken turn task).map Tasks.contents =
      some { Tasks.contents task with place := .running point }
  poll_asleep
    {Point : Type}
    {woken : Point → Bool}
    (turn : Point → Turn Point)
    {task : Task Point}
    {point : Point}
    (waits : (Tasks.contents task).place = .suspended point)
    (unaborted : (Tasks.contents task).aborted = false)
    (sleeps : woken point = false) :
    Tasks.poll? woken turn task = none
  poll_running
    {Point : Type}
    (woken : Point → Bool)
    (turn : Point → Turn Point)
    {task : Task Point}
    {point : Point}
    (runs : (Tasks.contents task).place = .running point) :
    (Tasks.poll? woken turn task).map Tasks.contents =
      some { Tasks.contents task with place := (turn point).place }
  poll_finished
    {Point : Type}
    (woken : Point → Bool)
    (turn : Point → Turn Point)
    {task : Task Point}
    (finished : (Tasks.contents task).place = .finished) :
    Tasks.poll? woken turn task = none

/-- What changes as a runtime promises is itself a task. -/
instance : Tasks SpawnedTask where
  spawn := .spawned
  abort := SpawnedTask.abort
  poll? := SpawnedTask.step?
  contents := id

instance : LawfulTasks SpawnedTask where
  spawn _ := rfl
  abort _ := rfl
  poll_aborted woken turn task point waits aborted := by
    simp_all [Tasks.poll?, Tasks.contents, SpawnedTask.step?]
  poll_woken turn task point waits unaborted wakes := by
    simp_all [Tasks.poll?, Tasks.contents, SpawnedTask.step?]
  poll_asleep turn task point waits unaborted sleeps := by
    simp_all [Tasks.poll?, Tasks.contents, SpawnedTask.step?]
  poll_running woken turn task point runs := by
    simp_all [Tasks.poll?, Tasks.contents, SpawnedTask.step?]
  poll_finished woken turn task finished := by
    simp_all [Tasks.poll?, Tasks.contents, SpawnedTask.step?]

/-- A task that is known is all there is to know about it. -/
@[simp] theorem contents_known (task : SpawnedTask Point) :
    Tasks.contents task = task :=
  rfl

/-- A task that is known is polled by a step. -/
@[simp] theorem poll_known
    (woken : Point → Bool)
    (turn : Point → Turn Point)
    (task : SpawnedTask Point) :
    Tasks.poll? woken turn task = task.step? woken turn :=
  rfl

/-- A task that is known is aborted as such. -/
@[simp] theorem abort_known (task : SpawnedTask Point) :
    Tasks.abort task = task.abort :=
  rfl

/-- A task goes on as what there is to know about it says. -/
theorem contents_poll
    {Task : Type → Type}
    [Tasks Task] [LawfulTasks Task]
    (woken : Point → Bool)
    (turn : Point → Turn Point)
    (task : Task Point) :
    Tasks.poll? woken turn (Tasks.contents task) =
      (Tasks.poll? woken turn task).map Tasks.contents := by
  cases place : (Tasks.contents task).place with
  | suspended point =>
      cases aborted : (Tasks.contents task).aborted with
      | true =>
          rw [LawfulTasks.poll_aborted woken turn place aborted]
          simp [Tasks.poll?, SpawnedTask.step?, place, aborted]
      | false =>
          cases wakes : woken point with
          | true =>
              rw [LawfulTasks.poll_woken turn place aborted wakes]
              simp [Tasks.poll?, SpawnedTask.step?, place, aborted, wakes]
          | false =>
              rw [LawfulTasks.poll_asleep turn place aborted wakes]
              simp [Tasks.poll?, SpawnedTask.step?, place, aborted, wakes]
  | running point =>
      rw [LawfulTasks.poll_running woken turn place]
      simp [Tasks.poll?, SpawnedTask.step?, place]
  | finished =>
      rw [LawfulTasks.poll_finished woken turn place]
      simp [Tasks.poll?, SpawnedTask.step?, place]

end AbortableTask
