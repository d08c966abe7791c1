import Waker.Configuration
import Waker.LogSubscriber
import Waker.StepSystem
import Waker.Substring

namespace Waker

open LogSubscriber

/-!
# The persistent log of a process

A process installs one subscriber for its log records and keeps what came of it
for its whole life; on Android the activities of one process share it.  Either
all of them show the directory of a log file that gets exactly the records of
Waker's own crates, or they show a warning and no file is written.
-/

/-- `log_level`, given the value of `WAKER_LOG`. -/
def logLevel (setting : Option (List Char)) : LogLevel :=
  let text := Text.toAsciiLowercase (setting.getD "debug".toList)
  if text = "trace".toList then
    .trace
  else if text = "info".toList then
    .info
  else if text = "warn".toList then
    .warn
  else if text = "error".toList then
    .error
  else
    .debug

/-- The crates whose records are logged. -/
def ownCrates : List (List Char) :=
  ["waker_app".toList, "waker_core".toList, "waker_net".toList]

section Filters

variable {Targets : Type}
variable [TargetFilters Targets]

/-- `safe_targets`. -/
def safeTargets (level : LogLevel) : Targets :=
  TargetFilters.new
    |> TargetFilters.withTarget "waker_app".toList level
    |> TargetFilters.withTarget "waker_core".toList level
    |> TargetFilters.withTarget "waker_net".toList level

variable [LawfulTargetFilters Targets]

/-- There is one directive for each of Waker's own crates. -/
theorem mem_directives_safeTargets
    {level : LogLevel}
    {directive : Directive} :
    directive ∈ TargetFilters.directives (safeTargets level : Targets) ↔
      directive.target ∈ ownCrates ∧ directive.level = level := by
  simp only [safeTargets, LawfulTargetFilters.mem_withTarget,
    LawfulTargetFilters.not_mem_new]
  constructor
  · rintro (rfl | ⟨rfl | ⟨rfl | ⟨absurdity, -⟩, -⟩, -⟩)
    · exact ⟨by simp [ownCrates], rfl⟩
    · exact ⟨by simp [ownCrates], rfl⟩
    · exact ⟨by simp [ownCrates], rfl⟩
    · exact absurdity.elim
  · obtain ⟨target, level⟩ := directive
    rintro ⟨isOwn, rfl⟩
    have appCore : "waker_app".toList ≠ "waker_core".toList := by decide
    have appNet : "waker_app".toList ≠ "waker_net".toList := by decide
    have coreNet : "waker_core".toList ≠ "waker_net".toList := by decide
    simp only [ownCrates, List.mem_cons, List.not_mem_nil, or_false] at isOwn
    rcases isOwn with rfl | rfl | rfl
    · exact .inr ⟨.inr ⟨.inl rfl, appCore⟩, appNet⟩
    · exact .inr ⟨.inl rfl, coreNet⟩
    · exact .inl rfl

end Filters

/-- Where a layer of the subscriber writes to. -/
inductive LogOutput where
  | file (directory : List UInt8)
  | stderr
  | logcat
  deriving DecidableEq

/-- `DiagnosticsInfo`. -/
structure DiagnosticsInfo where
  logDir : Option (List UInt8)
  warning : Option String

/-- `DiagnosticsRuntime`; the guard keeps the writer of the file alive. -/
structure DiagnosticsRuntime where
  guard : Bool
  info : DiagnosticsInfo

/-- `DiagnosticsRuntime::is_persistent`. -/
def DiagnosticsRuntime.isPersistent (runtime : DiagnosticsRuntime) : Bool :=
  runtime.guard

/-- What the system answers while the diagnostics are set up. -/
structure LogAnswers where
  createDirAll : Except String Unit
  setPermissions : Except String Unit
  buildAppender : Except String Unit
  logcat : Except String Unit

/-- The logging of a process and its runtime. -/
structure LogProcess (Process : Type) where
  tracing : Process
  runtime : Option DiagnosticsRuntime

/-- `open_persistent_log`. -/
def openPersistentLog (answers : LogAnswers) : Except String Unit := do
  answers.createDirAll.mapError
    ("could not create diagnostics directory: " ++ ·)
  answers.setPermissions.mapError
    ("could not secure diagnostics directory: " ++ ·)
  answers.buildAppender.mapError
    ("could not open persistent diagnostic log: " ++ ·)

/-- A runtime without a persistent log. -/
def unavailable (warning : String) : DiagnosticsRuntime where
  guard := false
  info := ⟨none, some warning⟩

/-- `desktop_log_dir`, given `XDG_STATE_HOME` and `HOME`. -/
def desktopLogDir (stateHome home : Option (List UInt8)) :
    Option (List UInt8) :=
  match stateHome with
  | some stateHome =>
      some (joinPath stateHome (Utf8.encode "waker/logs".toList))
  | none =>
      home.map (joinPath · (Utf8.encode ".local/state/waker/logs".toList))

section Start

variable {Process Targets : Type}
variable [TargetFilters Targets]
variable [Subscribers Process Targets LogOutput]

/-- `init_desktop`; a guard that is not returned is dropped. -/
def initDesktop
    (level : LogLevel)
    (logDir : Option (List UInt8))
    (answers : LogAnswers)
    (process : Process) : DiagnosticsRuntime × Process :=
  let stderrLayer : LogLayer Targets LogOutput := ⟨.stderr, safeTargets level⟩
  match logDir with
  | some logDir =>
      match openPersistentLog answers with
      | .ok () =>
          let fileLayer : LogLayer Targets LogOutput :=
            ⟨.file logDir, safeTargets level⟩
          let (init, process) :=
            Subscribers.tryInit [fileLayer, stderrLayer] process
          match init with
          | .ok () => (⟨true, ⟨some logDir, none⟩⟩, process)
          | .error error =>
              (unavailable ("could not initialise tracing: " ++ error),
                Subscribers.shutDown (.file logDir) process)
      | .error error =>
          let (_, process) := Subscribers.tryInit [stderrLayer] process
          (unavailable error, process)
  | none =>
      let (_, process) := Subscribers.tryInit [stderrLayer] process
      (unavailable
        "HOME is unavailable; persistent diagnostics are disabled", process)

/-- `init_android_once`; a guard that is not returned is dropped. -/
def initAndroidOnce
    (level : LogLevel)
    (internalDataPath : Option (List UInt8))
    (answers : LogAnswers)
    (process : Process) : DiagnosticsRuntime × Process :=
  let logDir :=
    internalDataPath.map (joinPath · (Utf8.encode "logs".toList))
  let logcatLayer : LogLayer Targets LogOutput := ⟨.logcat, safeTargets level⟩
  match logDir, answers.logcat with
  | some logDir, .ok () =>
      match openPersistentLog answers with
      | .ok () =>
          let fileLayer : LogLayer Targets LogOutput :=
            ⟨.file logDir, safeTargets level⟩
          let (init, process) :=
            Subscribers.tryInit [fileLayer, logcatLayer] process
          match init with
          | .ok () => (⟨true, ⟨some logDir, none⟩⟩, process)
          | .error error =>
              (unavailable ("could not initialise tracing: " ++ error),
                Subscribers.shutDown (.file logDir) process)
      | .error fileError =>
          let (init, process) := Subscribers.tryInit [logcatLayer] process
          let warning :=
            match init with
            | .ok () => "persistent diagnostics unavailable: " ++ fileError
            | .error initError =>
                "persistent diagnostics unavailable (" ++ fileError ++
                  "); logcat initialisation failed (" ++ initError ++ ")"
          (unavailable warning, process)
  | some logDir, .error logcatError =>
      match openPersistentLog answers with
      | .ok () =>
          let fileLayer : LogLayer Targets LogOutput :=
            ⟨.file logDir, safeTargets level⟩
          let (init, process) := Subscribers.tryInit [fileLayer] process
          match init with
          | .ok () =>
              (⟨true, ⟨some logDir,
                some ("logcat diagnostics unavailable: " ++ logcatError)⟩⟩,
                process)
          | .error initError =>
              (unavailable
                ("logcat diagnostics unavailable (" ++ logcatError ++
                  "); persistent diagnostics initialisation failed (" ++
                  initError ++ ")"),
                Subscribers.shutDown (.file logDir) process)
      | .error fileError =>
          (unavailable
            ("persistent diagnostics unavailable (" ++ fileError ++
              "); logcat unavailable (" ++ logcatError ++ ")"),
            process)
  | none, .ok () =>
      let (init, process) := Subscribers.tryInit [logcatLayer] process
      let warning :=
        match init with
        | .ok () =>
            "Android internal data path is unavailable; " ++
              "persistent diagnostics are disabled"
        | .error initError =>
            "Android internal data path is unavailable and logcat " ++
              "initialisation failed: " ++ initError
      (unavailable warning, process)
  | none, .error error =>
      (unavailable
        ("Android internal data path and logcat diagnostics are " ++
          "unavailable: " ++ error),
        process)

end Start

section Initialisation

variable {Process Targets : Type}
variable [TargetFilters Targets]
variable [Subscribers Process Targets LogOutput]

/-- What the layer of a log file is accompanied by. -/
structure IsSideLayer
    (level : LogLevel)
    (layer : LogLayer Targets LogOutput) : Prop where
  filter : layer.filter = safeTargets level
  output : ∀ directory, layer.output ≠ .file directory

/-- The persistent log goes to one file, whose writer is kept alive. -/
structure WritesFile
    (level : LogLevel)
    (directory : List UInt8)
    (runtime : DiagnosticsRuntime)
    (process : Process) : Prop where
  guard : runtime.guard = true
  hasWriter : Subscribers.hasWriter process (.file directory) = true
  layers :
    ∃ others,
      Subscribers.layers process =
        some (⟨.file directory, safeTargets level⟩ :: others) ∧
      ∀ layer ∈ others, IsSideLayer level layer

/-- There is no persistent log, a warning says so, and no file is written. -/
structure WritesNoFile
    (level : LogLevel)
    (runtime : DiagnosticsRuntime)
    (process : Process) : Prop where
  guard : runtime.guard = false
  warning : runtime.info.warning.isSome
  layers :
    ∀ layers layer,
      Subscribers.layers process = some layers →
      layer ∈ layers →
      layer.filter = safeTargets level ∧
      ∀ directory,
        layer.output = .file directory →
        Subscribers.hasWriter process (.file directory) = false

/-- What a runtime shows is what the subscriber does. -/
def Initialised
    (level : LogLevel)
    (outcome : DiagnosticsRuntime × Process) : Prop :=
  match outcome.1.info.logDir with
  | some directory => WritesFile level directory outcome.1 outcome.2
  | none => WritesNoFile level outcome.1 outcome.2

/-- Nothing has been installed, shut down or written. -/
structure Unset (process : Process) : Prop where
  layers : Subscribers.layers process = none
  hasWriter : ∀ output, Subscribers.hasWriter process output = true
  contents : ∀ output, Subscribers.contents process output = []

variable {level : LogLevel}
variable {process : Process}

/-- The layers of the system's own logs are no files. -/
theorem isSideLayer_stderr :
    IsSideLayer level
      (⟨.stderr, safeTargets level⟩ : LogLayer Targets LogOutput) where
  filter := rfl
  output _ same := by cases same

/-- Nor is the log of Android. -/
theorem isSideLayer_logcat :
    IsSideLayer level
      (⟨.logcat, safeTargets level⟩ : LogLayer Targets LogOutput) where
  filter := rfl
  output _ same := by cases same

/-- The only layer beside the layer of a log file. -/
theorem IsSideLayer.singleton
    {side : LogLayer Targets LogOutput}
    (isSide : IsSideLayer level side) :
    ∀ layer ∈ [side], IsSideLayer level layer := by
  intro layer member
  rw [List.mem_singleton.mp member]
  exact isSide

/-- Without any layer no file is written. -/
theorem Unset.initialised
    (unset : Unset process)
    (warning : String) :
    Initialised level (unavailable warning, process) where
  guard := rfl
  warning := rfl
  layers layers layer installed := by
    rw [unset.layers] at installed
    cases installed

variable [LawfulSubscribers Process]

/-- A subscriber may have been installed even where this has failed. -/
theorem Unset.layers_tryInit
    (unset : Unset process)
    (added : List (LogLayer Targets LogOutput)) :
    Subscribers.layers (Subscribers.tryInit added process).2 = none ∨
      Subscribers.layers (Subscribers.tryInit added process).2 =
        some added := by
  cases init : (Subscribers.tryInit added process).1 with
  | ok done =>
      exact .inr (LawfulSubscribers.tryInit_ok init)
  | error error =>
      rw [← unset.layers]
      exact LawfulSubscribers.tryInit_error init

/-- A side layer alone writes no file. -/
theorem Unset.initialised_side
    (unset : Unset process)
    {side : LogLayer Targets LogOutput}
    (isSide : IsSideLayer level side)
    (warning : String) :
    Initialised level
      (unavailable warning, (Subscribers.tryInit [side] process).2) where
  guard := rfl
  warning := rfl
  layers layers layer installed isLayer := by
    rcases unset.layers_tryInit [side] with none | some
    · rw [none] at installed
      cases installed
    · rw [some] at installed
      cases installed
      rw [List.mem_singleton.mp isLayer]
      exact ⟨isSide.filter, fun directory same =>
        absurd same (isSide.output directory)⟩

/-- A log file whose layer is installed is what the runtime shows. -/
theorem Unset.initialised_file
    (unset : Unset process)
    {directory : List UInt8}
    {others : List (LogLayer Targets LogOutput)}
    (side : ∀ layer ∈ others, IsSideLayer level layer)
    (installed :
      (Subscribers.tryInit (⟨.file directory, safeTargets level⟩ :: others)
        process).1 = .ok ())
    (warning : Option String) :
    Initialised level
      (⟨true, ⟨some directory, warning⟩⟩,
        (Subscribers.tryInit (⟨.file directory, safeTargets level⟩ :: others)
          process).2) where
  guard := rfl
  hasWriter := by
    rw [LawfulSubscribers.hasWriter_tryInit]
    exact unset.hasWriter (.file directory)
  layers := ⟨others, LawfulSubscribers.tryInit_ok installed, side⟩

/-- A log file that is not shown is not written, also if its layer stays. -/
theorem Unset.initialised_dropped
    (unset : Unset process)
    {directory : List UInt8}
    {others : List (LogLayer Targets LogOutput)}
    (side : ∀ layer ∈ others, IsSideLayer level layer)
    (warning : String) :
    Initialised level
      (unavailable warning,
        Subscribers.shutDown (.file directory)
          (Subscribers.tryInit
            (⟨.file directory, safeTargets level⟩ :: others) process).2) where
  guard := rfl
  warning := rfl
  layers layers layer installed isLayer := by
    rw [LawfulSubscribers.layers_shutDown] at installed
    rcases unset.layers_tryInit
        (⟨.file directory, safeTargets level⟩ :: others) with none | some
    · rw [none] at installed
      cases installed
    · rw [some] at installed
      cases installed
      rcases List.mem_cons.mp isLayer with rfl | other
      · refine ⟨rfl, fun same isFile => ?_⟩
        cases isFile
        exact LawfulSubscribers.hasWriter_shutDown _ _
      · have isSide := side layer other
        exact ⟨isSide.filter, fun same isFile =>
          absurd isFile (isSide.output same)⟩

/-- The desktop shows what its subscriber does. -/
theorem Unset.initialised_initDesktop
    (unset : Unset process)
    (logDir : Option (List UInt8))
    (answers : LogAnswers) :
    Initialised level (initDesktop level logDir answers process) := by
  unfold initDesktop
  cases logDir with
  | none =>
      exact unset.initialised_side isSideLayer_stderr _
  | some directory =>
      cases openPersistentLog answers with
      | error error =>
          exact unset.initialised_side isSideLayer_stderr _
      | ok opened =>
          have side :
              IsSideLayer level
                (⟨.stderr, safeTargets level⟩ : LogLayer Targets LogOutput) :=
            isSideLayer_stderr
          dsimp only
          split
          · next init =>
              exact unset.initialised_file side.singleton init none
          · exact unset.initialised_dropped side.singleton _

/-- An activity shows what the subscriber of its process does. -/
theorem Unset.initialised_initAndroidOnce
    (unset : Unset process)
    (internalDataPath : Option (List UInt8))
    (answers : LogAnswers) :
    Initialised level
      (initAndroidOnce level internalDataPath answers process) := by
  unfold initAndroidOnce
  cases internalDataPath with
  | none =>
      cases answers.logcat with
      | error error =>
          exact unset.initialised _
      | ok logcat =>
          exact unset.initialised_side isSideLayer_logcat _
  | some path =>
      cases answers.logcat with
      | ok logcat =>
          cases openPersistentLog answers with
          | error fileError =>
              exact unset.initialised_side isSideLayer_logcat _
          | ok opened =>
              have side :
                  IsSideLayer level
                    (⟨.logcat, safeTargets level⟩ :
                      LogLayer Targets LogOutput) :=
                isSideLayer_logcat
              dsimp only [Option.map_some]
              split
              · next init =>
                  exact unset.initialised_file side.singleton init none
              · exact unset.initialised_dropped side.singleton _
      | error logcatError =>
          cases openPersistentLog answers with
          | error fileError =>
              exact unset.initialised _
          | ok opened =>
              have noSide :
                  ∀ layer ∈ ([] : List (LogLayer Targets LogOutput)),
                    IsSideLayer level layer := by
                intro layer member
                cases member
              dsimp only [Option.map_some]
              split
              · next init => exact unset.initialised_file noSide init _
              · exact unset.initialised_dropped noSide _

/-- Logging a record changes nothing that is shown. -/
theorem Initialised.log
    {runtime : DiagnosticsRuntime}
    (initialised : Initialised level (runtime, process))
    (record : LogRecord) :
    Initialised level (runtime, Subscribers.log record process) := by
  unfold Initialised at initialised ⊢
  dsimp only at initialised ⊢
  split at initialised
  · refine ⟨initialised.guard, ?_, ?_⟩
    · rw [LawfulSubscribers.hasWriter_log]
      exact initialised.hasWriter
    · rw [LawfulSubscribers.layers_log]
      exact initialised.layers
  · refine ⟨initialised.guard, initialised.warning, ?_⟩
    intro layers layer installed
    rw [LawfulSubscribers.layers_log] at installed
    simp only [LawfulSubscribers.hasWriter_log]
    exact initialised.layers layers layer installed

/-- Neither installing layers nor closing a file hands anything over. -/
theorem contents_shutDown_tryInit
    (added : List (LogLayer Targets LogOutput))
    (process : Process)
    (closed output : LogOutput) :
    Subscribers.contents
        (Subscribers.shutDown closed
          (Subscribers.tryInit added process).2) output =
      Subscribers.contents process output :=
  (LawfulSubscribers.contents_shutDown closed _ output).trans
    (LawfulSubscribers.contents_tryInit added process output)

/-- Starting the program hands no records to any writer. -/
theorem contents_initDesktop
    (logDir : Option (List UInt8))
    (answers : LogAnswers)
    (output : LogOutput) :
    Subscribers.contents (initDesktop level logDir answers process).2
        output =
      Subscribers.contents process output := by
  unfold initDesktop
  cases logDir with
  | none =>
      exact LawfulSubscribers.contents_tryInit _ _ _
  | some directory =>
      cases openPersistentLog answers with
      | error error =>
          exact LawfulSubscribers.contents_tryInit _ _ _
      | ok opened =>
          dsimp only
          split
          · exact LawfulSubscribers.contents_tryInit _ _ _
          · exact contents_shutDown_tryInit _ _ _ _

/-- Nor does starting an activity. -/
theorem contents_initAndroidOnce
    (internalDataPath : Option (List UInt8))
    (answers : LogAnswers)
    (output : LogOutput) :
    Subscribers.contents
        (initAndroidOnce level internalDataPath answers process).2 output =
      Subscribers.contents process output := by
  unfold initAndroidOnce
  cases internalDataPath with
  | none =>
      cases answers.logcat with
      | error error =>
          rfl
      | ok logcat =>
          exact LawfulSubscribers.contents_tryInit _ _ _
  | some path =>
      cases answers.logcat with
      | ok logcat =>
          cases openPersistentLog answers with
          | error fileError =>
              exact LawfulSubscribers.contents_tryInit _ _ _
          | ok opened =>
              dsimp only [Option.map_some]
              split
              · exact LawfulSubscribers.contents_tryInit _ _ _
              · exact contents_shutDown_tryInit _ _ _ _
      | error logcatError =>
          cases openPersistentLog answers with
          | error fileError =>
              rfl
          | ok opened =>
              dsimp only [Option.map_some]
              split
              · exact LawfulSubscribers.contents_tryInit _ _ _
              · exact contents_shutDown_tryInit _ _ _ _

end Initialisation

/-- The program starts on a desktop, an activity starts, or a crate logs. -/
inductive LogStep where
  | startDesktop (stateHome home : Option (List UInt8)) (answers : LogAnswers)
  | startActivity
      (internalDataPath : Option (List UInt8))
      (answers : LogAnswers)
  | log (record : LogRecord)

namespace LogProcess

variable {Process Targets : Type}
variable [TargetFilters Targets]
variable [Subscribers Process Targets LogOutput]

/-- A process that has just begun. -/
def initial : LogProcess Process where
  tracing := Subscribers.initial
  runtime := none

/-- The runtime and the subscriber after a first start. -/
def adopt (outcome : DiagnosticsRuntime × Process) : LogProcess Process where
  tracing := outcome.2
  runtime := some outcome.1

/-- What `init_android` sets up, if it is the first call. -/
def initAndroid
    (level : LogLevel)
    (internalDataPath : Option (List UInt8))
    (answers : LogAnswers)
    (process : LogProcess Process) : LogProcess Process :=
  match process.runtime with
  | some _ => process
  | none =>
      adopt (initAndroidOnce level internalDataPath answers process.tracing)

/-- Take a step; a program starts only once, but activities may follow. -/
def step?
    (setting : Option (List Char))
    (process : LogProcess Process) : LogStep → Option (LogProcess Process)
  | .startDesktop stateHome home answers =>
      match process.runtime with
      | some _ => none
      | none =>
          some (adopt
            (initDesktop (logLevel setting) (desktopLogDir stateHome home)
              answers process.tracing))
  | .startActivity internalDataPath answers =>
      some (process.initAndroid (logLevel setting) internalDataPath answers)
  | .log record =>
      some { process with tracing := Subscribers.log record process.tracing }

/-- What a writer was handed. -/
def contents
    (process : LogProcess Process)
    (output : LogOutput) : List LogRecord :=
  Subscribers.contents process.tracing output

end LogProcess

/-- The runtimes that were handed out, and the records logged since then. -/
structure LogLedger where
  handed : List DiagnosticsRuntime
  logged : List LogRecord

namespace LogLedger

variable {Process Targets : Type}
variable [TargetFilters Targets]
variable [Subscribers Process Targets LogOutput]

/-- Nothing has happened yet. -/
def empty : LogLedger where
  handed := []
  logged := []

/-- Note what a step hands out or logs. -/
def observe
    (setting : Option (List Char))
    (process : LogProcess Process)
    (step : LogStep)
    (ledger : LogLedger) : LogLedger :=
  match step with
  | .log record =>
      if process.runtime.isSome then
        { ledger with logged := ledger.logged ++ [record] }
      else
        ledger
  | start =>
      { ledger with
        handed :=
          ledger.handed ++
            ((process.step? setting start).bind LogProcess.runtime).toList }

end LogLedger

/-- The record is of one of Waker's own crates and not too verbose. -/
def IsOwn (level : LogLevel) (record : LogRecord) : Prop :=
  (∃ crate ∈ ownCrates, crate <+: record.target) ∧
    record.level.verbosity ≤ level.verbosity

instance (level : LogLevel) : DecidablePred (IsOwn level) :=
  fun _ => inferInstanceAs (Decidable (_ ∧ _))

/--
All that was handed out is one runtime.  It shows a directory exactly when it
is persistent; then the log file there has exactly Waker's own records up to
the level since the start, and otherwise there is a warning.  No other file is
written, and nothing but Waker's own records anywhere.
-/
structure LogTruthful
    {Process Targets : Type}
    [TargetFilters Targets]
    [Subscribers Process Targets LogOutput]
    (level : LogLevel)
    (observed : LogProcess Process × LogLedger) : Prop where
  shared :
    ∀ runtime,
      runtime ∈ observed.2.handed →
      observed.1.runtime = some runtime
  persistent :
    ∀ runtime,
      runtime ∈ observed.2.handed →
      runtime.isPersistent = runtime.info.logDir.isSome
  kept :
    ∀ runtime directory,
      runtime ∈ observed.2.handed →
      runtime.info.logDir = some directory →
      observed.1.contents (.file directory) =
        observed.2.logged.filter fun record => IsOwn level record
  warned :
    ∀ runtime,
      runtime ∈ observed.2.handed →
      runtime.info.logDir = none →
      runtime.info.warning.isSome
  elsewhere :
    ∀ directory,
      observed.1.contents (.file directory) ≠ [] →
      ∃ runtime,
        observed.1.runtime = some runtime ∧
        runtime.info.logDir = some directory
  own :
    ∀ output record,
      record ∈ observed.1.contents output →
      IsOwn level record

section Filters

variable {Targets : Type}
variable [TargetFilters Targets]
variable [LawfulTargetFilters Targets]
variable {level : LogLevel}
variable {record : LogRecord}

/-- No name of a crate begins another one. -/
theorem eq_of_prefix_ownCrates :
    ∀ crate ∈ ownCrates, ∀ other ∈ ownCrates,
      crate <+: other → crate = other := by
  decide +kernel

/-- Waker's own records up to the level are what is let through. -/
theorem enables_safeTargets_iff :
    TargetFilters.enables (safeTargets level : Targets) record = true ↔
      IsOwn level record := by
  simp only [LawfulTargetFilters.enables_iff, mem_directives_safeTargets,
    Directive.concerns, List.isPrefixOf_iff_prefix]
  constructor
  · rintro ⟨directive, ⟨isCrate, rfl⟩, begins, quiet, -⟩
    exact ⟨⟨directive.target, isCrate, begins⟩, quiet⟩
  · rintro ⟨⟨crate, isCrate, begins⟩, quiet⟩
    refine ⟨⟨crate, level⟩, ⟨isCrate, rfl⟩, begins, quiet, ?_⟩
    rintro other ⟨isOther, -⟩ otherBegins
    rcases List.prefix_or_prefix_of_prefix begins otherBegins with
      shorter | longer
    · have same :=
        eq_of_prefix_ownCrates crate isCrate other.target isOther shorter
      exact Nat.le_of_eq (congrArg List.length same.symm)
    · exact longer.length_le

end Filters

namespace LogProcess

variable {Process Targets : Type}
variable [TargetFilters Targets]
variable [Subscribers Process Targets LogOutput]
variable {setting : Option (List Char)}
variable {level : LogLevel}
variable {process after : LogProcess Process}
variable {ledger : LogLedger}

/-- What carries the main result from one step to the next. -/
structure Keeps
    (level : LogLevel)
    (process : LogProcess Process)
    (ledger : LogLedger) : Prop where
  unstarted :
    process.runtime = none →
    Unset process.tracing ∧ ledger.handed = [] ∧ ledger.logged = []
  initialised :
    ∀ runtime,
      process.runtime = some runtime →
      Initialised level (runtime, process.tracing)
  handed :
    ∀ runtime,
      runtime ∈ ledger.handed →
      process.runtime = some runtime
  kept :
    ∀ runtime directory,
      process.runtime = some runtime →
      runtime.info.logDir = some directory →
      process.contents (.file directory) =
        ledger.logged.filter fun record => IsOwn level record
  elsewhere :
    ∀ directory,
      process.contents (.file directory) ≠ [] →
      ∃ runtime,
        process.runtime = some runtime ∧
        runtime.info.logDir = some directory
  own :
    ∀ output record,
      record ∈ process.contents output →
      IsOwn level record

namespace Keeps

/-- The first start hands out what it has set up. -/
theorem adopt
    (keeps : process.Keeps level ledger)
    (unstarted : process.runtime = none)
    {outcome : DiagnosticsRuntime × Process}
    (initialised : Initialised level outcome)
    (contents :
      ∀ output,
        Subscribers.contents outcome.2 output =
          process.contents output) :
    Keeps level (adopt outcome)
      { ledger with handed := ledger.handed ++ [outcome.1] } := by
  obtain ⟨unset, noneHanded, noneLogged⟩ := keeps.unstarted unstarted
  have empty (output : LogOutput) :
      Subscribers.contents outcome.2 output = [] :=
    (contents output).trans (unset.contents output)
  exact {
    unstarted := fun none => by cases none
    initialised := fun runtime started => by
      cases started
      exact initialised
    handed := fun runtime given => by
      rw [noneHanded, List.nil_append, List.mem_singleton] at given
      rw [given]
      rfl
    kept := fun runtime directory _ _ => by
      rw [LogProcess.contents, LogProcess.adopt, empty, noneLogged]
      rfl
    elsewhere := fun directory written =>
      absurd (empty (.file directory)) written
    own := fun output record member => by
      rw [LogProcess.contents, LogProcess.adopt, empty] at member
      cases member
  }

/-- Another activity is handed the runtime that there is. -/
theorem again
    (keeps : process.Keeps level ledger)
    {runtime : DiagnosticsRuntime}
    (started : process.runtime = some runtime) :
    Keeps level process
      { ledger with handed := ledger.handed ++ [runtime] } where
  unstarted none := by
    rw [started] at none
    cases none
  initialised := keeps.initialised
  handed other given := by
    rcases List.mem_append.mp given with earlier | new
    · exact keeps.handed other earlier
    · rw [List.mem_singleton.mp new, started]
  kept := keeps.kept
  elsewhere := keeps.elsewhere
  own := keeps.own

/-- A layer filters as it should, and its open file is the one shown. -/
theorem layer_of_mem
    (keeps : process.Keeps level ledger)
    {layers : List (LogLayer Targets LogOutput)}
    {layer : LogLayer Targets LogOutput}
    (installed : Subscribers.layers process.tracing = some layers)
    (isLayer : layer ∈ layers) :
    layer.filter = safeTargets level ∧
    ∀ directory,
      layer.output = .file directory →
      Subscribers.hasWriter process.tracing (.file directory) = true →
      ∃ runtime,
        process.runtime = some runtime ∧
        runtime.info.logDir = some directory := by
  cases started : process.runtime with
  | none =>
      rw [(keeps.unstarted started).1.layers] at installed
      cases installed
  | some runtime =>
      have initialised := keeps.initialised runtime started
      unfold Initialised at initialised
      split at initialised
      · next shownDirectory shown =>
          obtain ⟨others, own, side⟩ := initialised.layers
          rw [installed, Option.some.injEq] at own
          subst own
          rcases List.mem_cons.mp isLayer with rfl | other
          · refine ⟨rfl, fun directory same _ => ⟨runtime, rfl, ?_⟩⟩
            cases same
            exact shown
          · have isSide := side layer other
            exact ⟨isSide.filter, fun directory same =>
              absurd same (isSide.output directory)⟩
      · next shown =>
          obtain ⟨filters, closed⟩ :=
            initialised.layers layers layer installed isLayer
          refine ⟨filters, fun directory same isOpen => ?_⟩
          rw [closed directory same] at isOpen
          cases isOpen

/-- What is kept together is truthful. -/
theorem truthful
    (keeps : process.Keeps level ledger) :
    LogTruthful level (process, ledger) where
  shared := keeps.handed
  persistent runtime given := by
    have initialised := keeps.initialised runtime (keeps.handed runtime given)
    unfold Initialised at initialised
    split at initialised
    · next directory shown =>
        rw [DiagnosticsRuntime.isPersistent, initialised.guard, shown]
        rfl
    · next shown =>
        rw [DiagnosticsRuntime.isPersistent, initialised.guard, shown]
        rfl
  kept runtime directory given shown :=
    keeps.kept runtime directory (keeps.handed runtime given) shown
  warned runtime given shown := by
    have initialised := keeps.initialised runtime (keeps.handed runtime given)
    simp only [Initialised, shown] at initialised
    exact initialised.warning
  elsewhere := keeps.elsewhere
  own := keeps.own

variable [LawfulSubscribers Process]

/-- At first nothing is logged. -/
theorem initial (level : LogLevel) :
    Keeps level (initial : LogProcess Process) .empty where
  unstarted _ :=
    ⟨⟨LawfulSubscribers.layers_initial, LawfulSubscribers.hasWriter_initial,
      LawfulSubscribers.contents_initial⟩, rfl, rfl⟩
  initialised _ started := by cases started
  handed _ given := by cases given
  kept _ _ started := by cases started
  elsewhere directory written :=
    absurd (LawfulSubscribers.contents_initial (LogOutput.file directory))
      written
  own output record member := by
    rw [contents, LogProcess.initial, LawfulSubscribers.contents_initial]
      at member
    cases member

variable [LawfulTargetFilters Targets]

/-- The file that is shown gets a record if it is one of Waker's own. -/
theorem contents_log
    (keeps : process.Keeps level ledger)
    {runtime : DiagnosticsRuntime}
    {directory : List UInt8}
    (started : process.runtime = some runtime)
    (shown : runtime.info.logDir = some directory)
    (record : LogRecord) :
    Subscribers.contents (Subscribers.log record process.tracing)
        (.file directory) =
      process.contents (.file directory) ++
        if IsOwn level record then [record] else [] := by
  have initialised := keeps.initialised runtime started
  simp only [Initialised, shown] at initialised
  obtain ⟨others, layers, side⟩ := initialised.layers
  have noOther :
      ∀ other ∈ others, other.output ≠ LogOutput.file directory :=
    fun other isOther => (side other isOther).output directory
  rw [LawfulSubscribers.log_open record initialised.hasWriter, layers,
    Option.getD_some,
    @reached_cons _ _ _ _ record others
      ⟨.file directory, safeTargets level⟩
      noOther]
  simp only [enables_safeTargets_iff, contents]

/-- A record is written by the layers that let it through. -/
theorem log
    (keeps : process.Keeps level ledger)
    (record : LogRecord) :
    Keeps level
      { process with tracing := Subscribers.log record process.tracing }
      (ledger.observe setting process (.log record)) := by
  have elsewhere :
      ∀ directory,
        Subscribers.contents (Subscribers.log record process.tracing)
          (.file directory) ≠ [] →
        ∃ runtime,
          process.runtime = some runtime ∧
          runtime.info.logDir = some directory := by
    intro directory written
    obtain ⟨entry, member⟩ := List.exists_mem_of_ne_nil _ written
    rcases of_mem_contents_log member with
      earlier | ⟨_, isOpen, layers, layer, installed, isLayer, same, _⟩
    · exact keeps.elsewhere directory (List.ne_nil_of_mem earlier)
    · exact (keeps.layer_of_mem installed isLayer).2 directory same isOpen
  have own :
      ∀ output entry,
        entry ∈
            Subscribers.contents (Subscribers.log record process.tracing)
              output →
          IsOwn level entry := by
    intro output entry member
    rcases of_mem_contents_log member with
      earlier | ⟨rfl, _, layers, layer, installed, isLayer, _, passes⟩
    · exact keeps.own output entry earlier
    · rw [(keeps.layer_of_mem installed isLayer).1,
        enables_safeTargets_iff] at passes
      exact passes
  rcases Option.eq_none_or_eq_some process.runtime with
    started | ⟨runtime, started⟩
  · obtain ⟨unset, noneHanded, noneLogged⟩ := keeps.unstarted started
    have seen : ledger.observe setting process (.log record) = ledger := by
      simp [LogLedger.observe, started]
    have silent (output : LogOutput) :
        Subscribers.contents (Subscribers.log record process.tracing)
          output = [] := by
      rw [LawfulSubscribers.log_open record (unset.hasWriter output),
        unset.contents, unset.layers]
      rfl
    rw [seen]
    exact {
      unstarted := fun _ =>
        ⟨⟨(LawfulSubscribers.layers_log record _).trans unset.layers,
          fun output =>
            (LawfulSubscribers.hasWriter_log record _ output).trans
              (unset.hasWriter output),
          silent⟩, noneHanded, noneLogged⟩
      initialised := fun runtime other => by
        rw [started] at other
        cases other
      handed := keeps.handed
      kept := fun runtime directory other => by
        rw [started] at other
        cases other
      elsewhere := elsewhere
      own := own
    }
  · have seen :
        ledger.observe setting process (.log record) =
          { ledger with logged := ledger.logged ++ [record] } := by
      simp [LogLedger.observe, started]
    rw [seen]
    exact {
      unstarted := fun none => by
        rw [started] at none
        cases none
      initialised := fun other same =>
        (keeps.initialised other same).log record
      handed := keeps.handed
      kept := fun other directory same shown => by
        rw [List.filter_append, ← keeps.kept other directory same shown]
        refine (keeps.contents_log same shown record).trans ?_
        congr 1
        by_cases isOwn : IsOwn level record <;> simp [isOwn]
      elsewhere := elsewhere
      own := own
    }

/-- Every step keeps the process and the ledger together. -/
theorem step
    (keeps : process.Keeps (logLevel setting) ledger)
    {label : LogStep}
    (stepped : process.step? setting label = some after) :
    Keeps (logLevel setting) after
      (ledger.observe setting process label) := by
  cases label with
  | startDesktop stateHome home answers =>
      cases started : process.runtime with
      | some runtime =>
          simp [step?, started] at stepped
      | none =>
          simp only [step?, started, Option.some.injEq] at stepped
          subst stepped
          simp only [LogLedger.observe, step?, started, Option.bind_some]
          exact keeps.adopt started
            ((keeps.unstarted started).1.initialised_initDesktop _ answers)
            (contents_initDesktop _ answers)
  | startActivity internalDataPath answers =>
      simp only [step?, Option.some.injEq] at stepped
      subst stepped
      cases started : process.runtime with
      | some runtime =>
          simp only [LogLedger.observe, step?, initAndroid, started,
            Option.bind_some, Option.toList_some]
          exact keeps.again started
      | none =>
          simp only [LogLedger.observe, step?, initAndroid, started,
            Option.bind_some]
          exact keeps.adopt started
            ((keeps.unstarted started).1.initialised_initAndroidOnce _
              answers)
            (contents_initAndroidOnce _ answers)
  | log record =>
      cases stepped
      exact keeps.log record

end Keeps

/-- In every run of a process what is shown of the log is true. -/
theorem logTruthful_always
    (Process : Type)
    {Targets : Type}
    [TargetFilters Targets]
    [LawfulTargetFilters Targets]
    [Subscribers Process Targets LogOutput]
    [LawfulSubscribers Process]
    (setting : Option (List Char))
    (labels : List LogStep) :
    StepSystem.Always
      (StepSystem.observing (step? setting) (LogLedger.observe setting))
      (LogTruthful (logLevel setting))
      ((initial : LogProcess Process), .empty) labels := by
  have preserved
      (observed : LogProcess Process × LogLedger)
      (label : LogStep)
      (after : LogProcess Process × LogLedger)
      (keeps : observed.1.Keeps (logLevel setting) observed.2)
      (stepped :
        StepSystem.observing (step? setting) (LogLedger.observe setting)
            observed label =
          some after) :
      after.1.Keeps (logLevel setting) after.2 := by
    obtain ⟨taken, seen⟩ := StepSystem.observing_eq_some_iff.mp stepped
    rw [seen]
    exact keeps.step taken
  exact StepSystem.always_of_invariant preserved
    (fun _ keeps => keeps.truthful) (Keeps.initial _) labels

/-- Two activities start, and Waker and the tunnel library log a record. -/
def sharedRun : List LogStep :=
  [.startActivity (some [47]) ⟨.ok (), .ok (), .ok (), .ok ()⟩,
    .log ⟨"waker_net".toList, .info, []⟩,
    .startActivity none ⟨.ok (), .ok (), .ok (), .error "no logcat"⟩,
    .log ⟨"boringtun".toList, .error, []⟩]

/-- Both activities are handed the log of the first one. -/
theorem logTruthful_always_sharedRun :
    StepSystem.Always
        (StepSystem.observing (step? none) (LogLedger.observe none))
        (LogTruthful .debug)
        ((initial : LogProcess (Dispatch DirectiveList LogOutput)), .empty)
        sharedRun ∧
      (StepSystem.run? (step? none)
          (initial : LogProcess (Dispatch DirectiveList LogOutput))
          sharedRun).map
          (·.contents (.file (joinPath [47] (Utf8.encode "logs".toList)))) =
        some [⟨"waker_net".toList, .info, []⟩] :=
  ⟨logTruthful_always (Dispatch DirectiveList LogOutput) none sharedRun,
    by decide +kernel⟩

end LogProcess

end Waker
