import Mathlib.Data.List.Basic

namespace LogSubscriber

/-!
# The subscriber of a process

The operations that a logging library provides, and what it promises about
them.  A process installs at most one subscriber, and an installation that fails
may have installed it nevertheless.  A layer of it hands the records that its
filter lets through to a writer, until that is shut down.
-/

/-- The levels of log records, from the least to the most verbose. -/
inductive LogLevel where
  | error
  | warn
  | info
  | debug
  | trace
  deriving Repr, DecidableEq

/-- The verbosity of a level. -/
def LogLevel.verbosity : LogLevel → Nat
  | .error => 1
  | .warn => 2
  | .info => 3
  | .debug => 4
  | .trace => 5

/-- A log record, as far as filters and outputs tell records apart. -/
structure LogRecord where
  target : List Char
  level : LogLevel
  message : List Char
  deriving DecidableEq

/-- The beginning of a target, and the level up to which it is let through. -/
structure Directive where
  target : List Char
  level : LogLevel
  deriving DecidableEq

/-- The directive is about the record. -/
def Directive.concerns (directive : Directive) (record : LogRecord) : Bool :=
  directive.target.isPrefixOf record.target

/-- The filters by target of a logging library. -/
class TargetFilters (Targets : Type) where
  new : Targets
  withTarget : List Char → LogLevel → Targets → Targets
  enables : Targets → LogRecord → Bool
  directives : Targets → List Directive

/--
What a logging library promises about its filters.  A target has at most one
directive.  Of the directives about a record the most specific one decides, and
without any the record is left out.
-/
class LawfulTargetFilters
    (Targets : Type)
    [TargetFilters Targets] : Prop where
  not_mem_new (directive : Directive) :
    directive ∉ TargetFilters.directives (TargetFilters.new : Targets)
  mem_withTarget
    {target : List Char}
    {level : LogLevel}
    {targets : Targets}
    {directive : Directive} :
    directive ∈
        TargetFilters.directives
          (TargetFilters.withTarget target level targets) ↔
      directive = ⟨target, level⟩ ∨
      directive ∈ TargetFilters.directives targets ∧
        directive.target ≠ target
  enables_iff
    {targets : Targets}
    {record : LogRecord} :
    TargetFilters.enables targets record = true ↔
      ∃ directive ∈ TargetFilters.directives targets,
        directive.concerns record = true ∧
        record.level.verbosity ≤ directive.level.verbosity ∧
        ∀ other ∈ TargetFilters.directives targets,
          other.concerns record = true →
          other.target.length ≤ directive.target.length

/-- A layer of a subscriber. -/
structure LogLayer (Targets Output : Type) where
  output : Output
  filter : Targets

/-- What layers hand to the writer of an output when a record is logged. -/
def reached
    {Targets Output : Type}
    [TargetFilters Targets]
    [DecidableEq Output]
    (record : LogRecord)
    (output : Output)
    (layers : List (LogLayer Targets Output)) : List LogRecord :=
  (layers.filter fun layer =>
    layer.output = output &&
      TargetFilters.enables layer.filter record).map fun _ => record

section Reached

variable {Targets Output : Type}
variable [TargetFilters Targets]
variable [DecidableEq Output]
variable {record : LogRecord}
variable {output : Output}
variable {layers : List (LogLayer Targets Output)}

/-- Only the record is handed to a writer, by a layer that lets it through. -/
theorem of_mem_reached
    {entry : LogRecord}
    (member : entry ∈ reached record output layers) :
    entry = record ∧
    ∃ layer ∈ layers,
      layer.output = output ∧
      TargetFilters.enables layer.filter record = true := by
  obtain ⟨layer, kept, rfl⟩ := List.mem_map.mp member
  obtain ⟨isLayer, passes⟩ := List.mem_filter.mp kept
  rw [Bool.and_eq_true, decide_eq_true_eq] at passes
  exact ⟨rfl, layer, isLayer, passes⟩

/-- Nothing is handed to a writer without a layer. -/
theorem reached_eq_nil
    (noLayer : ∀ layer ∈ layers, layer.output ≠ output) :
    reached record output layers = [] := by
  rw [List.eq_nil_iff_forall_not_mem]
  intro entry member
  obtain ⟨_, layer, isLayer, same, _⟩ := of_mem_reached member
  exact noLayer layer isLayer same

/-- A writer with a single layer gets the record if that lets it through. -/
theorem reached_cons
    {layer : LogLayer Targets Output}
    (noOther : ∀ other ∈ layers, other.output ≠ layer.output) :
    reached record layer.output (layer :: layers) =
      if TargetFilters.enables layer.filter record then [record] else [] := by
  have nothing := @reached_eq_nil _ _ _ _ record layer.output layers noOther
  unfold reached at nothing ⊢
  rw [List.filter_cons]
  cases passes : TargetFilters.enables layer.filter record with
  | true =>
      simpa [passes] using nothing
  | false =>
      simpa [passes] using nothing

end Reached

/-- The logging of a process. -/
class Subscribers (Process : Type) (Targets Output : outParam Type) where
  initial : Process
  tryInit :
    List (LogLayer Targets Output) → Process → Except String Unit × Process
  shutDown : Output → Process → Process
  log : LogRecord → Process → Process
  layers : Process → Option (List (LogLayer Targets Output))
  hasWriter : Process → Output → Bool
  contents : Process → Output → List LogRecord

/-- What a logging library promises. -/
class LawfulSubscribers
    (Process : Type)
    {Targets Output : Type}
    [TargetFilters Targets]
    [DecidableEq Output]
    [Subscribers Process Targets Output] : Prop where
  layers_initial : Subscribers.layers (Subscribers.initial : Process) = none
  hasWriter_initial (output : Output) :
    Subscribers.hasWriter (Subscribers.initial : Process) output = true
  contents_initial (output : Output) :
    Subscribers.contents (Subscribers.initial : Process) output = []
  tryInit_ok
    {added : List (LogLayer Targets Output)}
    {process : Process}
    (installed : (Subscribers.tryInit added process).1 = .ok ()) :
    Subscribers.layers (Subscribers.tryInit added process).2 = some added
  tryInit_error
    {added : List (LogLayer Targets Output)}
    {process : Process}
    {error : String}
    (failed : (Subscribers.tryInit added process).1 = .error error) :
    Subscribers.layers (Subscribers.tryInit added process).2 =
        Subscribers.layers process ∨
      Subscribers.layers (Subscribers.tryInit added process).2 = some added
  hasWriter_tryInit
    (added : List (LogLayer Targets Output))
    (process : Process)
    (output : Output) :
    Subscribers.hasWriter (Subscribers.tryInit added process).2 output =
      Subscribers.hasWriter process output
  contents_tryInit
    (added : List (LogLayer Targets Output))
    (process : Process)
    (output : Output) :
    Subscribers.contents (Subscribers.tryInit added process).2 output =
      Subscribers.contents process output
  layers_shutDown (closed : Output) (process : Process) :
    Subscribers.layers (Subscribers.shutDown closed process) =
      Subscribers.layers process
  hasWriter_shutDown (closed : Output) (process : Process) :
    Subscribers.hasWriter (Subscribers.shutDown closed process) closed = false
  contents_shutDown (closed : Output) (process : Process) (output : Output) :
    Subscribers.contents (Subscribers.shutDown closed process) output =
      Subscribers.contents process output
  layers_log (record : LogRecord) (process : Process) :
    Subscribers.layers (Subscribers.log record process) =
      Subscribers.layers process
  hasWriter_log (record : LogRecord) (process : Process) (output : Output) :
    Subscribers.hasWriter (Subscribers.log record process) output =
      Subscribers.hasWriter process output
  log_open
    (record : LogRecord)
    {process : Process}
    {output : Output}
    (isOpen : Subscribers.hasWriter process output = true) :
    Subscribers.contents (Subscribers.log record process) output =
      Subscribers.contents process output ++
        reached record output ((Subscribers.layers process).getD [])
  log_closed
    (record : LogRecord)
    {process : Process}
    {output : Output}
    (isClosed : Subscribers.hasWriter process output = false) :
    Subscribers.contents (Subscribers.log record process) output =
      Subscribers.contents process output

section Handed

variable {Process Targets Output : Type}
variable [TargetFilters Targets]
variable [DecidableEq Output]
variable [Subscribers Process Targets Output]
variable [LawfulSubscribers Process]

/-- What a writer has been handed, it had before or an open layer hands it. -/
theorem of_mem_contents_log
    {record entry : LogRecord}
    {process : Process}
    {output : Output}
    (member :
      entry ∈
        Subscribers.contents (Subscribers.log record process) output) :
    entry ∈ Subscribers.contents process output ∨
      entry = record ∧
      Subscribers.hasWriter process output = true ∧
      ∃ layers layer,
        Subscribers.layers process = some layers ∧
        layer ∈ layers ∧
        layer.output = output ∧
        TargetFilters.enables layer.filter record = true := by
  cases isOpen : Subscribers.hasWriter process output with
  | false =>
      rw [LawfulSubscribers.log_closed record isOpen] at member
      exact .inl member
  | true =>
      rw [LawfulSubscribers.log_open record isOpen] at member
      refine (List.mem_append.mp member).imp_right fun new => ?_
      obtain ⟨rfl, layer, isLayer, passes⟩ := of_mem_reached new
      cases installed : Subscribers.layers process with
      | none =>
          rw [installed] at isLayer
          cases isLayer
      | some layers =>
          rw [installed] at isLayer
          exact ⟨rfl, rfl, layers, layer, rfl, isLayer, passes⟩

end Handed

/-- Filter directives, at most one for a target. -/
structure DirectiveList where
  directives : List Directive
  distinct : (directives.map Directive.target).Nodup

namespace DirectiveList

/-- Give a target its directive. -/
def withTarget
    (target : List Char)
    (level : LogLevel)
    (targets : DirectiveList) : DirectiveList where
  directives :=
    ⟨target, level⟩ ::
      targets.directives.filter fun directive => directive.target ≠ target
  distinct := by
    rw [List.map_cons, List.nodup_cons]
    constructor
    · intro member
      obtain ⟨directive, kept, same⟩ := List.mem_map.mp member
      have other := (List.mem_filter.mp kept).2
      rw [decide_eq_true_eq] at other
      exact other same
    · exact targets.distinct.sublist (List.filter_sublist.map _)

/-- The most specific directive about a record lets it through. -/
def enables (targets : DirectiveList) (record : LogRecord) : Bool :=
  targets.directives.any fun directive =>
    directive.concerns record &&
      record.level.verbosity ≤ directive.level.verbosity &&
      targets.directives.all fun other =>
        !other.concerns record ||
          other.target.length ≤ directive.target.length

end DirectiveList

instance : TargetFilters DirectiveList where
  new := ⟨[], List.nodup_nil⟩
  withTarget := DirectiveList.withTarget
  enables := DirectiveList.enables
  directives := DirectiveList.directives

instance : LawfulTargetFilters DirectiveList where
  not_mem_new directive member := by cases member
  mem_withTarget := by
    simp [TargetFilters.directives, TargetFilters.withTarget,
      DirectiveList.withTarget]
  enables_iff := by
    simp [TargetFilters.directives, TargetFilters.enables,
      DirectiveList.enables, imp_iff_not_or, and_assoc]

/-- The subscriber that a process has installed and what it has handed over. -/
structure Dispatch (Targets Output : Type) where
  layers : Option (List (LogLayer Targets Output))
  closed : List Output
  handed : List (Output × LogRecord)

section Reference

variable {Targets Output : Type}
variable [TargetFilters Targets]
variable [DecidableEq Output]

/-- What keeps what a library promises is itself one. -/
instance : Subscribers (Dispatch Targets Output) Targets Output where
  initial := ⟨none, [], []⟩
  tryInit added process :=
    match process.layers with
    | some _ =>
        (.error "a global default trace dispatcher has already been set",
          process)
    | none => (.ok (), { process with layers := some added })
  shutDown closed process := { process with closed := closed :: process.closed }
  log record process :=
    { process with
      handed :=
        process.handed ++
          ((process.layers.getD []).filter fun layer =>
            layer.output ∉ process.closed &&
              TargetFilters.enables layer.filter record).map fun layer =>
                (layer.output, record) }
  layers := Dispatch.layers
  hasWriter process output := output ∉ process.closed
  contents process output :=
    (process.handed.filter fun entry => entry.1 = output).map Prod.snd

instance : LawfulSubscribers (Dispatch Targets Output) where
  layers_initial := rfl
  hasWriter_initial output := by
    simp [Subscribers.hasWriter, Subscribers.initial]
  contents_initial _ := rfl
  tryInit_ok {added process} installed := by
    cases present : process.layers with
    | none =>
        simp [Subscribers.tryInit, Subscribers.layers, present]
    | some layers =>
        simp [Subscribers.tryInit, present] at installed
  tryInit_error {added process error} failed := by
    cases present : process.layers with
    | none =>
        simp [Subscribers.tryInit, present] at failed
    | some layers =>
        simp [Subscribers.tryInit, Subscribers.layers, present]
  hasWriter_tryInit added process output := by
    cases present : process.layers <;>
      simp [Subscribers.tryInit, Subscribers.hasWriter, present]
  contents_tryInit added process output := by
    cases present : process.layers <;>
      simp [Subscribers.tryInit, Subscribers.contents, present]
  layers_shutDown _ _ := rfl
  hasWriter_shutDown closed process := by
    simp [Subscribers.shutDown, Subscribers.hasWriter]
  contents_shutDown _ _ _ := rfl
  layers_log _ _ := rfl
  hasWriter_log _ _ _ := rfl
  log_open record process output isOpen := by
    simp only [Subscribers.hasWriter, decide_eq_true_eq] at isOpen
    simp only [Subscribers.log, Subscribers.contents, Subscribers.layers,
      List.filter_append, List.map_append, reached, List.filter_map,
      List.map_map, List.filter_filter]
    congr 2
    refine List.filter_congr fun layer _ => ?_
    by_cases same : layer.output = output
    · simp [same, isOpen]
    · simp [same]
  log_closed record process output isClosed := by
    simp only [Subscribers.hasWriter, decide_eq_false_iff_not, not_not]
      at isClosed
    simp only [Subscribers.log, Subscribers.contents, List.filter_append,
      List.map_append, List.append_right_eq_self, List.map_eq_nil_iff,
      List.filter_eq_nil_iff, List.mem_map]
    rintro entry ⟨layer, kept, rfl⟩ same
    simp only [decide_eq_true_eq] at same
    simp [same, isClosed] at kept

end Reference

end LogSubscriber
