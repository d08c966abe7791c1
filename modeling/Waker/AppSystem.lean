import Waker.StepSystem
import Waker.ThreadPool
import Waker.WakerApp

namespace Waker

open ReportingThread

/-!
# The application and its workers

One step is an operation of the current frame, an action of one worker thread,
or the panic of one.  The operations of a frame follow `show_ui`; workers may
act between any two of them.  A frame begins only when a repaint was requested
or input arrived, and consumes all earlier requests.
-/

/-- The next operation of the current frame. -/
inductive FramePhase where
  | idle
  | drainState
  | drainHostStatus
  | drainPing
  | timeouts
  | wakeButton
  | hostStatusButton
  | pingButton
  | paintConfetti
  deriving Repr, DecidableEq

/-- What happened to the attempts, in order. -/
inductive HistoryEvent where
  | began (attempt : ActiveAttempt) (origin : Origin)
  | finished (attempt : ActiveAttempt) (summary : AttemptSummary)
  | confetti
  deriving DecidableEq

/-- The application, its threads and the outstanding repaint requests. -/
structure AppSystem where
  app : WakerApp
  phase : FramePhase
  repaint : Bool
  wakeThreads : List (ReportingThread WakeState)
  checkThreads : List (ReportingThread (Except String Bool))
  history : List HistoryEvent
  deriving DecidableEq

/-- A click on the wake button with everything `begin_wake` will see. -/
structure WakeClick where
  attempt : ActiveAttempt
  elapsedAt : Instant
  shownAt : Instant
  started : WakeStart

/-- A click on a diagnostic button with everything its handler will see. -/
structure CheckClick where
  now : Instant
  started : CheckStart

/-- One step of the system. -/
inductive SystemStep where
  | beginFrame (input : Bool)
  | drainState (elapsedAt shownAt : Instant)
  | drainHostStatus (now : Instant)
  | drainPing (now : Instant)
  | timeouts (terminalNow diagnosticNow : Instant)
  | wakeButton (click : Option WakeClick) (now : Instant)
  | hostStatusButton (click : Option CheckClick)
  | pingButton (click : Option CheckClick)
  | paintConfetti (now : Instant)
  | wakeThread (channel : Nat)
  | checkThread (channel : Nat)
  | wakePanic (channel : Nat)
  | checkPanic (channel : Nat)

namespace AppSystem

/-- A new application before its first frame. -/
def initial : AppSystem where
  app := .new
  phase := .idle
  repaint := true
  wakeThreads := []
  checkThreads := []
  history := []

/-- Carry out one effect of an operation. -/
def perform (system : AppSystem) : UiEffect → AppSystem
  | .requestRepaintAfter _ => { system with repaint := true }
  | .spawnWake program =>
      { system with
        wakeThreads := system.wakeThreads ++ [spawned program] }
  | .spawnCheck program =>
      { system with
        checkThreads := system.checkThreads ++ [spawned program] }
  | .began attempt origin =>
      { system with history := system.history ++ [.began attempt origin] }
  | .finished attempt summary =>
      { system with
        history := system.history ++ [.finished attempt summary] }

/-- The confetti an operation has made pending. -/
def confettiRaised (before after : WakerApp) : List HistoryEvent :=
  if !before.confettiPending && after.confettiPending then
    [.confetti]
  else
    []

/-- Install the result of an operation and its effects. -/
def commit
    (outcome : WakerApp × List UiEffect)
    (system : AppSystem) : AppSystem :=
  let performed := outcome.2.foldl perform system
  { performed with
    app := outcome.1
    history := performed.history ++ confettiRaised system.app outcome.1 }

section Commit

variable (outcome : WakerApp × List UiEffect) (system : AppSystem)

/-- The programs of the wake workers an operation spawns. -/
def spawnedWakes (effects : List UiEffect) :
    List (List (Action WakeState)) :=
  effects.filterMap fun effect =>
    match effect with
    | .spawnWake program => some program
    | _ => none

/-- The programs of the diagnostic workers an operation spawns. -/
def spawnedChecks (effects : List UiEffect) :
    List (List (Action (Except String Bool))) :=
  effects.filterMap fun effect =>
    match effect with
    | .spawnCheck program => some program
    | _ => none

/-- Whether an operation requests a repaint. -/
def requestsRepaint (effects : List UiEffect) : Bool :=
  effects.any fun effect =>
    match effect with
    | .requestRepaintAfter _ => true
    | _ => false

/-- What an operation does to the attempts. -/
def attemptEvents (effects : List UiEffect) : List HistoryEvent :=
  effects.filterMap fun effect =>
    match effect with
    | .began attempt origin => some (.began attempt origin)
    | .finished attempt summary => some (.finished attempt summary)
    | _ => none

/-- The effects add up. -/
theorem foldl_perform (effects : List UiEffect) :
    effects.foldl perform system =
      { system with
        repaint := system.repaint || requestsRepaint effects
        wakeThreads :=
          system.wakeThreads ++ (spawnedWakes effects).map spawned
        checkThreads :=
          system.checkThreads ++ (spawnedChecks effects).map spawned
        history := system.history ++ attemptEvents effects } := by
  induction effects generalizing system with
  | nil =>
      simp [requestsRepaint, spawnedWakes, spawnedChecks, attemptEvents]
  | cons effect rest inductionHypothesis =>
      rw [List.foldl_cons, inductionHypothesis]
      cases effect <;>
        simp [perform, requestsRepaint, spawnedWakes, spawnedChecks,
          attemptEvents]

@[simp] theorem commit_app :
    (system.commit outcome).app = outcome.1 :=
  rfl

@[simp] theorem commit_phase :
    (system.commit outcome).phase = system.phase := by
  simp [commit, foldl_perform]

@[simp] theorem commit_repaint :
    (system.commit outcome).repaint =
      (system.repaint || requestsRepaint outcome.2) := by
  simp [commit, foldl_perform]

@[simp] theorem commit_wakeThreads :
    (system.commit outcome).wakeThreads =
      system.wakeThreads ++ (spawnedWakes outcome.2).map spawned := by
  simp [commit, foldl_perform]

@[simp] theorem commit_checkThreads :
    (system.commit outcome).checkThreads =
      system.checkThreads ++ (spawnedChecks outcome.2).map spawned := by
  simp [commit, foldl_perform]

@[simp] theorem commit_history :
    (system.commit outcome).history =
      system.history ++ attemptEvents outcome.2 ++
        confettiRaised system.app outcome.1 := by
  simp [commit, foldl_perform]

end Commit

/-- The frame's call of `drain_state_updates`. -/
def drainState
    (elapsedAt shownAt : Instant)
    (system : AppSystem) : AppSystem :=
  match listening? system.wakeThreads system.app.stateRx with
  | none => system
  | some (channel, thread) =>
      { system with
        wakeThreads :=
          system.wakeThreads.set channel
            (thread.take thread.unread.length) }.commit
        (system.app.drainStateUpdates elapsedAt shownAt thread.unread
          thread.disconnected)

/-- The frame's call of `drain_host_status_update`. -/
def drainHostStatus (now : Instant) (system : AppSystem) : AppSystem :=
  match listening? system.checkThreads system.app.hostStatus.checkRx with
  | none => system
  | some (channel, thread) =>
      { system with
        app := system.app.drainHostStatusUpdate now thread.tryRecv
        checkThreads := system.checkThreads.set channel (thread.take 1) }

/-- The frame's call of `drain_ping_update`. -/
def drainPing (now : Instant) (system : AppSystem) : AppSystem :=
  match listening? system.checkThreads system.app.ping.checkRx with
  | none => system
  | some (channel, thread) =>
      { system with
        app := system.app.drainPingUpdate now thread.tryRecv
        checkThreads := system.checkThreads.set channel (thread.take 1) }

/-- The frame's calls of the two timeout updates. -/
def timeouts
    (terminalNow diagnosticNow : Instant)
    (system : AppSystem) : AppSystem :=
  let terminal := system.app.updateTerminalStateTimeout terminalNow
  let diagnostic :=
    terminal.1.updateDiagnosticResultTimeouts diagnosticNow
  system.commit
    (diagnostic.1,
      (terminal.2.toList ++ diagnostic.2.toList).map .requestRepaintAfter)

/-- The frame's wake button; a disabled button cannot be clicked. -/
def wakeButton
    (click : Option WakeClick)
    (now : Instant)
    (system : AppSystem) : Option AppSystem :=
  match click with
  | none => some { system with app := system.app.startConfetti now }
  | some click =>
      if system.app.wakeEnabled then
        let begun :=
          system.commit
            (system.app.beginWake system.wakeThreads.length click.attempt
              click.elapsedAt click.shownAt click.started)
        some { begun with app := begun.app.startConfetti now }
      else
        none

/-- The frame's host status button, shown only in the open diagnostics. -/
def hostStatusButton
    (click : Option CheckClick)
    (system : AppSystem) : Option AppSystem :=
  match click with
  | none => some system
  | some click =>
      if system.app.diagnosticActionEnabled then
        some (system.commit
          (system.app.beginHostStatusCheck system.checkThreads.length
            click.now click.started))
      else
        none

/-- The frame's ping button, shown only in the open diagnostics. -/
def pingButton
    (click : Option CheckClick)
    (system : AppSystem) : Option AppSystem :=
  match click with
  | none => some system
  | some click =>
      if system.app.diagnosticActionEnabled then
        some (system.commit
          (system.app.beginPingCheck system.checkThreads.length
            click.now click.started))
      else
        none

/-- One action of a wake worker. -/
def wakeThread (channel : Nat) (system : AppSystem) : Option AppSystem :=
  (advanceAt? system.wakeThreads channel).map fun (threads, notified) =>
    { system with
      wakeThreads := threads
      repaint := system.repaint || notified }

/-- One action of a diagnostic worker. -/
def checkThread (channel : Nat) (system : AppSystem) : Option AppSystem :=
  (advanceAt? system.checkThreads channel).map fun (threads, notified) =>
    { system with
      checkThreads := threads
      repaint := system.repaint || notified }

/-- The panic of a wake worker. -/
def wakePanic (channel : Nat) (system : AppSystem) : Option AppSystem :=
  (panicAt? system.wakeThreads channel).map fun threads =>
    { system with wakeThreads := threads }

/-- The panic of a diagnostic worker. -/
def checkPanic (channel : Nat) (system : AppSystem) : Option AppSystem :=
  (panicAt? system.checkThreads channel).map fun threads =>
    { system with checkThreads := threads }

/-- Do an operation of the frame when it is its turn. -/
def inPhase
    (current next : FramePhase)
    (operation : Option AppSystem)
    (system : AppSystem) : Option AppSystem :=
  if system.phase = current then
    operation.map fun after => { after with phase := next }
  else
    none

/-- Take one step, unless it is not possible. -/
def step? (system : AppSystem) : SystemStep → Option AppSystem
  | .beginFrame input =>
      if system.phase = .idle ∧ (system.repaint ∨ input) then
        some { system with phase := .drainState, repaint := false }
      else
        none
  | .drainState elapsedAt shownAt =>
      system.inPhase .drainState .drainHostStatus
        (system.drainState elapsedAt shownAt)
  | .drainHostStatus now =>
      system.inPhase .drainHostStatus .drainPing (system.drainHostStatus now)
  | .drainPing now =>
      system.inPhase .drainPing .timeouts (system.drainPing now)
  | .timeouts terminalNow diagnosticNow =>
      system.inPhase .timeouts .wakeButton
        (system.timeouts terminalNow diagnosticNow)
  | .wakeButton click now =>
      system.inPhase .wakeButton .hostStatusButton
        (system.wakeButton click now)
  | .hostStatusButton click =>
      system.inPhase .hostStatusButton .pingButton
        (system.hostStatusButton click)
  | .pingButton click =>
      system.inPhase .pingButton .paintConfetti (system.pingButton click)
  | .paintConfetti now =>
      system.inPhase .paintConfetti .idle
        (system.commit (system.app.paintConfetti now))
  | .wakeThread channel => system.wakeThread channel
  | .checkThread channel => system.checkThread channel
  | .wakePanic channel => system.wakePanic channel
  | .checkPanic channel => system.checkPanic channel

/-- The first click on the wake button of a concrete run. -/
def firstClick (started : WakeStart) : WakeClick where
  attempt := ⟨1, 0⟩
  elapsedAt := 0
  shownAt := 0
  started := started

/-- One frame of a concrete run with its clicks. -/
def frame
    (now : Instant)
    (wake : Option WakeClick)
    (hostStatus : Option CheckClick) : List SystemStep :=
  [.beginFrame false, .drainState now now, .drainHostStatus now,
    .drainPing now, .timeouts now now, .wakeButton wake now,
    .hostStatusButton hostStatus, .pingButton none, .paintConfetti now]

end AppSystem

end Waker
