import Waker.WorkerThreads

namespace Waker

open ReportingThread

/-!
# The application state

The fields of `WakerApp` that a wake attempt and the diagnostic checks touch,
and the operations on them.  A receiver is the index of its worker thread.
Each operation returns the new state and its effects on the outside, in order;
what it reads from the outside (clock readings, the outcome of validating the
configuration and of spawning a thread) are arguments.
-/

/-- How long a terminal state or a diagnostic result is shown. -/
def TERMINAL_STATE_DISPLAY_DURATION : Duration :=
  Duration.fromSecs 5

/-- How long the confetti falls. -/
def CONFETTI_DURATION : Duration :=
  Duration.fromMillis 1700

/-- An attempt that was begun. -/
structure ActiveAttempt where
  id : Nat
  started : Instant
  deriving Repr, DecidableEq

/-- What is kept of an attempt that is over. -/
structure AttemptSummary where
  elapsed : Duration
  failure : Option WakeFailure
  deriving Repr, DecidableEq

/-- The failure of a failed state. -/
def WakeState.failure? : WakeState → Option WakeFailure
  | .failed failure => some failure
  | _ => none

/-- The receiver, the result and the display deadline of a diagnostic check. -/
structure DiagnosticCheck where
  checkRx : Option Nat
  status : Option (Except String Bool)
  statusDeadline : Option Instant
  deriving DecidableEq

/-- The application state. -/
structure WakerApp where
  state : WakeState
  stateRx : Option Nat
  busy : Bool
  activeAttempt : Option ActiveAttempt
  lastAttempt : Option AttemptSummary
  terminalStateDeadline : Option Instant
  hostStatus : DiagnosticCheck
  ping : DiagnosticCheck
  confettiPending : Bool
  confetti : Option Instant
  deriving DecidableEq

/-- Where the outcome of an attempt will come from. -/
inductive Origin where
  | refused (failure : WakeFailure)
  | worker (channel : Nat)
  deriving DecidableEq

/-- What an operation does besides changing the state. -/
inductive UiEffect where
  | requestRepaintAfter (delay : Duration)
  | spawnWake (program : List (Action WakeState))
  | spawnCheck (program : List (Action (Except String Bool)))
  | began (attempt : ActiveAttempt) (origin : Origin)
  | finished (attempt : ActiveAttempt) (summary : AttemptSummary)

/-- How far `begin_wake` gets. -/
inductive WakeStart where
  | rejected (message : String)
  | notSpawned (job : WakeJob) (error : String)
  | spawned (job : WakeJob) (body : WakeBody job.target)

/-- How far the start of a diagnostic check gets. -/
inductive CheckStart where
  | rejected (message : String)
  | notSpawned (job : FritzJob) (error : String)
  | spawned (job : FritzJob) (body : CheckBody)

namespace DiagnosticCheck

/-- No check was made yet. -/
def initial : DiagnosticCheck where
  checkRx := none
  status := none
  statusDeadline := none

/-- Show a failure without having started a worker. -/
def reject
    (message : String)
    (now : Instant)
    (check : DiagnosticCheck) : DiagnosticCheck × List UiEffect :=
  ({ check with
      status := some (.error message)
      statusDeadline := some (now + TERMINAL_STATE_DISPLAY_DURATION) },
    [.requestRepaintAfter TERMINAL_STATE_DISPLAY_DURATION])

/-- The body shared by the two `begin_*_check` functions after their guard. -/
def start
    (channel : Nat)
    (now : Instant)
    (started : CheckStart)
    (check : DiagnosticCheck) : DiagnosticCheck × List UiEffect :=
  let check := { check with statusDeadline := none }
  match started with
  | .rejected message => check.reject message now
  | .notSpawned _ error =>
      { check with checkRx := none }.reject
        ("Could not create worker thread: " ++ error) now
  | .spawned _ body =>
      ({ check with checkRx := some channel, status := none },
        [.spawnCheck body.program])

/-- Handle what `try_recv` found in the channel of the check. -/
def drain
    (lost : String)
    (now : Instant)
    (received : Except TryRecvError (Except String Bool))
    (check : DiagnosticCheck) : DiagnosticCheck :=
  let update :=
    match received with
    | .ok result => some result
    | .error .empty => none
    | .error .disconnected => some (.error lost)
  match update with
  | some result =>
      { check with
        status := some result
        statusDeadline := some (now + TERMINAL_STATE_DISPLAY_DURATION)
        checkRx := none }
  | none => check

/-- Forget an expired deadline, and say how long an unexpired one lasts. -/
def updateTimeout
    (now : Instant)
    (check : DiagnosticCheck) : DiagnosticCheck × Option Duration :=
  match check.statusDeadline with
  | none => (check, none)
  | some value =>
      if value ≤ now then
        ({ check with statusDeadline := none }, none)
      else
        (check, some (value.durationSince now))

end DiagnosticCheck

namespace WakerApp

/-- The state of a new application. -/
def new : WakerApp where
  state := .idle
  stateRx := none
  busy := false
  activeAttempt := none
  lastAttempt := none
  terminalStateDeadline := none
  hostStatus := .initial
  ping := .initial
  confettiPending := false
  confetti := none

/-- Consume the active attempt, reading the clock twice. -/
def finishAttempt
    (elapsedAt shownAt : Instant)
    (app : WakerApp) : WakerApp × List UiEffect :=
  match app.activeAttempt with
  | none => (app, [])
  | some active =>
      let summary : AttemptSummary :=
        {
          elapsed := elapsedAt.durationSince active.started
          failure := app.state.failure?
        }
      ({ app with
          activeAttempt := none
          lastAttempt := some summary
          confettiPending :=
            if app.state = .awake then true else app.confettiPending
          terminalStateDeadline :=
            if app.state.isTerminal then
              some (shownAt + TERMINAL_STATE_DISPLAY_DURATION)
            else
              app.terminalStateDeadline },
        [.finished active summary])

/-- Give up an attempt that could not be started. -/
def refuse
    (attempt : ActiveAttempt)
    (elapsedAt shownAt : Instant)
    (failure : WakeFailure)
    (app : WakerApp) : WakerApp × List UiEffect :=
  let finished :=
    { app with state := .failed failure, busy := false }.finishAttempt
      elapsedAt shownAt
  (finished.1, .began attempt (.refused failure) :: finished.2)

/-- Begin a wake attempt whose channel would get the given index. -/
def beginWake
    (channel : Nat)
    (attempt : ActiveAttempt)
    (elapsedAt shownAt : Instant)
    (started : WakeStart)
    (app : WakerApp) : WakerApp × List UiEffect :=
  let app := { app with
    terminalStateDeadline := none
    activeAttempt := some attempt }
  match started with
  | .spawned _ body =>
      ({ app with
          stateRx := some channel
          state := .connecting
          busy := true },
        [.began attempt (.worker channel), .spawnWake body.program])
  | .notSpawned _ error =>
      { app with stateRx := none }.refuse attempt elapsedAt shownAt
        (notSpawnedFailure error)
  | .rejected message =>
      app.refuse attempt elapsedAt shownAt ⟨.configuration, message⟩

/-- Neither a wake attempt nor a check is running. -/
def diagnosticActionEnabled (app : WakerApp) : Bool :=
  !app.busy && app.hostStatus.checkRx.isNone && app.ping.checkRx.isNone

/-- Begin a host status check. -/
def beginHostStatusCheck
    (channel : Nat)
    (now : Instant)
    (started : CheckStart)
    (app : WakerApp) : WakerApp × List UiEffect :=
  if app.busy || app.hostStatus.checkRx.isSome || app.ping.checkRx.isSome then
    (app, [])
  else
    let check := app.hostStatus.start channel now started
    ({ app with hostStatus := check.1 }, check.2)

/-- Begin a ping. -/
def beginPingCheck
    (channel : Nat)
    (now : Instant)
    (started : CheckStart)
    (app : WakerApp) : WakerApp × List UiEffect :=
  if app.busy || app.hostStatus.checkRx.isSome || app.ping.checkRx.isSome then
    (app, [])
  else
    let check := app.ping.start channel now started
    ({ app with ping := check.1 }, check.2)

/-- The receive loop of `drain_state_updates` with its flag. -/
def drainLoop
    (disconnected : Bool) :
    List WakeState → Bool → WakerApp → Bool × WakerApp
  | [], terminal, app =>
      if disconnected && app.busy && !terminal then
        (true, { app with state := .failed lostWorkerFailure })
      else
        (terminal, app)
  | state :: rest, terminal, app =>
      drainLoop disconnected rest (terminal || state.isTerminal)
        { app with state := state }

/-- Take all waiting reports of the wake worker. -/
def drainStateUpdates
    (elapsedAt shownAt : Instant)
    (messages : List WakeState)
    (disconnected : Bool)
    (app : WakerApp) : WakerApp × List UiEffect :=
  let drained := drainLoop disconnected messages false app
  if drained.1 then
    { drained.2 with busy := false, stateRx := none }.finishAttempt
      elapsedAt shownAt
  else
    (drained.2, [])

/-- Take the result of the host status check. -/
def drainHostStatusUpdate
    (now : Instant)
    (received : Except TryRecvError (Except String Bool))
    (app : WakerApp) : WakerApp :=
  { app with
    hostStatus := app.hostStatus.drain
      "Host status worker stopped without reporting a result" now received }

/-- Take the result of the ping. -/
def drainPingUpdate
    (now : Instant)
    (received : Except TryRecvError (Except String Bool))
    (app : WakerApp) : WakerApp :=
  { app with
    ping := app.ping.drain
      "Ping worker stopped without reporting a result" now received }

/-- Return to the idle state when the display time is over. -/
def updateTerminalStateTimeout
    (now : Instant)
    (app : WakerApp) : WakerApp × Option Duration :=
  match app.terminalStateDeadline with
  | none => (app, none)
  | some deadline =>
      if !app.state.isTerminal then
        ({ app with terminalStateDeadline := none }, none)
      else if deadline ≤ now then
        ({ app with state := .idle, terminalStateDeadline := none }, none)
      else
        (app, some (deadline.durationSince now))

/-- Forget expired diagnostic results, and say when the next one expires. -/
def updateDiagnosticResultTimeouts
    (now : Instant)
    (app : WakerApp) : WakerApp × Option Duration :=
  let host := app.hostStatus.updateTimeout now
  let ping := app.ping.updateTimeout now
  ({ app with hostStatus := host.1, ping := ping.1 },
    match host.2, ping.2 with
    | some current, some remaining => some (min current remaining)
    | some current, none => some current
    | none, remaining => remaining)

/-- The wake button can be clicked. -/
def wakeEnabled (app : WakerApp) : Bool :=
  !app.busy && app.state ≠ .awake && app.hostStatus.checkRx.isNone &&
    app.ping.checkRx.isNone

/-- Start the confetti that a finished attempt left pending. -/
def startConfetti (now : Instant) (app : WakerApp) : WakerApp :=
  if app.confettiPending then
    { app with confettiPending := false, confetti := some now }
  else
    app

/-- Paint the confetti, asking for another frame while it falls. -/
def paintConfetti
    (now : Instant)
    (app : WakerApp) : WakerApp × List UiEffect :=
  match app.confetti with
  | none => (app, [])
  | some started =>
      if CONFETTI_DURATION ≤ now.durationSince started then
        ({ app with confetti := none }, [])
      else
        (app, [.requestRepaintAfter 0])

end WakerApp

end Waker
