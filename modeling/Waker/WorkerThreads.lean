import Waker.ReportingThread
import Waker.RunWakeReports
import Waker.WireGuardProfile

namespace Waker

open ReportingThread

/-!
# The worker threads

The bodies of the three worker threads as programs of a reporting thread.  The
resource is the backend with its WireGuard tunnel, which `disconnect` releases
and unwinding drops before the channel's sender.  A tunnel counts as released
once its client has been shut down or dropped: the tasks that a dropped client
leaves behind are told to end and end on their own, later.  Which events an
attempt will see is drawn when its worker is spawned; the worker then performs
them one by one.
-/

/-- What a diagnostic check needs to know. -/
structure FritzJob where
  profile : WireGuardProfile
  fritzIp : Ipv4Addr
  mac : MacAddress

/-- What a wake attempt needs to know. -/
structure WakeJob where
  fritz : FritzJob
  target : WakeTarget

/-- The job for a validated configuration. -/
def WakeJob.ofFritz (fritz : FritzJob) : WakeJob where
  fritz := fritz
  target := .new fritz.mac

/-- The events and the result of one complete wake attempt. -/
structure WakeScript (target : WakeTarget) where
  events : List WakeEvent
  result : Except WakeFailure Unit
  trace : WakeTrace target events result

/-- The script of a run of the wake attempt. -/
def WakeScript.ofRun
    {World : Type}
    {backend : WakeBackend World}
    {clock : Clock World}
    {target : WakeTarget}
    {fuel : Nat}
    {world : World}
    {run : WakeRun World}
    (returned : runWake backend clock target fuel world = some run) :
    WakeScript target where
  events := run.events
  result := run.result
  trace := runWake_trace returned

/-- The failure of a worker without a networking runtime. -/
def noRuntimeFailure (error : String) : WakeFailure where
  stage := .runtime
  detail := "could not start networking runtime: " ++ error

/-- The failure of an attempt whose worker could not be created. -/
def notSpawnedFailure (error : String) : WakeFailure where
  stage := .runtime
  detail := "could not create worker thread: " ++ error

/-- The failure the user interface makes of a vanished worker. -/
def lostWorkerFailure : WakeFailure where
  stage := .runtime
  detail := "wake worker stopped without reporting a terminal result"

/-- The actions of the wake worker for one event of the attempt. -/
def wakeActions : WakeEvent → List (Action WakeState)
  | .report state => [.send state, .notify]
  | .call (.connect result) => [.acquire result.toBool]
  | .call .disconnect => [.release]
  | .call _ | .now _ | .sleep _ => [.work]

/-- The body of a wake worker. -/
inductive WakeBody (target : WakeTarget) where
  | noRuntime (error : String)
  | attempt (script : WakeScript target)

namespace WakeBody

/-- The program of `spawn_wake_worker`. -/
def program
    {target : WakeTarget} : WakeBody target → List (Action WakeState)
  | .noRuntime error =>
      [.work, .send (.failed (noRuntimeFailure error)), .notify]
  | .attempt script => .work :: script.events.flatMap wakeActions

end WakeBody

/-- The body of a diagnostic worker with the answers it will get. -/
inductive CheckBody where
  | noRuntime (error : String)
  | check (connected : Except String Unit) (answer : Except String Bool)

namespace CheckBody

/-- The program of `spawn_host_status_worker` and of `spawn_ping_worker`. -/
def program : CheckBody → List (Action (Except String Bool))
  | .noRuntime error =>
      [.work,
        .send (.error ("could not start networking runtime: " ++ error)),
        .notify]
  | .check (.error error) _ =>
      [.work, .acquire false, .release, .send (.error error), .notify]
  | .check (.ok ()) answer =>
      [.work, .acquire true, .work, .release, .send answer, .notify]

end CheckBody

/-- The messages of a wake worker. -/
def wakeProtocol : Protocol WakeState where
  progress := WakeState.isProgress
  terminal state := state.isTerminal && state ≠ .failed lostWorkerFailure
  afterRelease
    | .failed _ => true
    | _ => false
  disjoint state progress := by
    simp [WakeState.not_isTerminal_of_isProgress progress]

/-- A diagnostic worker sends one message, after it has disconnected. -/
def checkProtocol : Protocol (Except String Bool) where
  progress _ := false
  terminal _ := true
  afterRelease _ := true
  disjoint _ progress := by
    cases progress

/-- Only reports that end the attempt are terminal for the protocol. -/
theorem isTerminal_of_terminal
    {state : WakeState}
    (terminal : wakeProtocol.terminal state) :
    state.isTerminal = true := by
  simp only [wakeProtocol, Bool.and_eq_true] at terminal
  exact terminal.1

/-- The wake worker sends exactly the reports of the attempt. -/
theorem sends_flatMap_wakeActions (events : List WakeEvent) :
    sends (events.flatMap wakeActions) = reports events := by
  induction events with
  | nil =>
      rfl
  | cons event rest inductionHypothesis =>
      rcases event with state | ⟨_ | _ | _ | _ | _⟩ | _ | _ <;>
        simp [wakeActions, inductionHypothesis]

/-- A worker that makes a run of the wake attempt sends what the run reports. -/
theorem sends_ofRun
    {World : Type}
    {backend : WakeBackend World}
    {clock : Clock World}
    {target : WakeTarget}
    {fuel : Nat}
    {world : World}
    {run : WakeRun World}
    (returned : runWake backend clock target fuel world = some run) :
    sends (WakeBody.attempt (.ofRun returned)).program =
      reports run.events :=
  sends_flatMap_wakeActions run.events

/-- No failure of the probe loop has the stage of a vanished worker. -/
theorem ProbeTrace.stage_ne_runtime
    {target : WakeTarget}
    {address : Ipv4Addr}
    {started : Instant}
    {attempt : Nat}
    {events : List WakeEvent}
    {result : Except WakeFailure Unit}
    (trace : ProbeTrace target address started attempt events result) :
    ∀ failure, result = .error failure → failure.stage ≠ .runtime := by
  induction trace with
  | reachable attempt =>
      rintro failure ⟨⟩
  | failed attempt error =>
      rintro failure ⟨⟩
      simp
  | deadline attempt reading passed =>
      rintro failure ⟨⟩
      simp [timeoutFailure]
  | again attempt reading early later inductionHypothesis =>
      exact inductionHypothesis

/-- No failure of an attempt has the stage of a vanished worker. -/
theorem WakeTrace.stage_ne_runtime
    {target : WakeTarget}
    {events : List WakeEvent}
    {result : Except WakeFailure Unit}
    (trace : WakeTrace target events result) :
    ∀ failure, result = .error failure → failure.stage ≠ .runtime := by
  cases trace with
  | connectFailed error =>
      rintro failure ⟨⟩
      simp
  | resolveFailed error =>
      rintro failure ⟨⟩
      simp
  | wakeFailed address error =>
      rintro failure ⟨⟩
      simp
  | probed address started later =>
      exact later.stage_ne_runtime

/-- The last report of an attempt is terminal. -/
theorem terminal_terminalState
    {target : WakeTarget}
    {events : List WakeEvent}
    {result : Except WakeFailure Unit}
    (trace : WakeTrace target events result) :
    wakeProtocol.terminal (terminalState result) := by
  cases result with
  | ok done =>
      rfl
  | error failure =>
      have other : failure ≠ lostWorkerFailure := by
        rintro rfl
        exact trace.stage_ne_runtime _ rfl rfl
      simp [wakeProtocol, terminalState, WakeState.isTerminal, other]

/-- The reports of an attempt form a stream. -/
theorem WakeTrace.stream
    {target : WakeTarget}
    {events : List WakeEvent}
    {result : Except WakeFailure Unit}
    (trace : WakeTrace target events result) :
    Stream wakeProtocol (Waker.reports events) := by
  refine ⟨_, _, trace.reports, ?_, terminal_terminalState trace⟩
  intro state member
  obtain ⟨index, _, rfl⟩ := List.mem_map.mp member
  exact announcement_isProgress index

/-- From the probe loop on, the actions are in order and disconnect. -/
theorem ProbeTrace.orderly
    {target : WakeTarget}
    {address : Ipv4Addr}
    {started : Instant}
    {attempt : Nat}
    {events : List WakeEvent}
    {result : Except WakeFailure Unit}
    (trace : ProbeTrace target address started attempt events result) :
    .release ∈ events.flatMap wakeActions ∧
      Orderly wakeProtocol (events.flatMap wakeActions) := by
  induction trace with
  | reachable attempt =>
      simp [wakeActions, Orderly, Follows, wakeProtocol]
  | failed attempt error =>
      simp [wakeActions, Orderly, Follows, wakeProtocol]
  | deadline attempt reading passed =>
      simp [wakeActions, Orderly, Follows, wakeProtocol]
  | again attempt reading early later inductionHypothesis =>
      obtain ⟨released, orderly⟩ := inductionHypothesis
      exact ⟨by simpa [wakeActions] using released,
        by simpa [wakeActions, Orderly, Follows, wakeProtocol]
          using orderly⟩

/-- The actions of an attempt are in order. -/
theorem WakeTrace.orderly
    {target : WakeTarget}
    {events : List WakeEvent}
    {result : Except WakeFailure Unit}
    (trace : WakeTrace target events result) :
    Orderly wakeProtocol (events.flatMap wakeActions) := by
  cases trace with
  | connectFailed error =>
      simp [wakeActions, Orderly, Follows, wakeProtocol]
  | resolveFailed error =>
      simp [wakeActions, Orderly, Follows, wakeProtocol]
  | wakeFailed address error =>
      simp [wakeActions, Orderly, Follows, wakeProtocol]
  | probed address started later =>
      obtain ⟨released, orderly⟩ := later.orderly
      simp only [List.flatMap_cons, wakeActions, List.cons_append,
        List.nil_append, Orderly, Follows, orderly]
      simp [released, wakeProtocol]

/-- A worker without a runtime says so, and has not vanished. -/
theorem noRuntimeFailure_ne (error : String) :
    noRuntimeFailure error ≠ lostWorkerFailure := by
  intro same
  have firstLetter :=
    congrArg (fun failure => failure.detail.toList.head?) same
  simp [noRuntimeFailure, lostWorkerFailure] at firstLetter

/-- The programs of wake workers are admitted. -/
theorem WakeBody.admitted
    {target : WakeTarget}
    (body : WakeBody target) :
    Admitted wakeProtocol body.program := by
  cases body with
  | noRuntime error =>
      have other := noRuntimeFailure_ne error
      exact {
        stream :=
          ⟨[], .failed (noRuntimeFailure error), rfl, by simp,
            by simp [wakeProtocol, WakeState.isTerminal, other]⟩
        orderly := by simp [program, Orderly, Follows]
      }
  | attempt script =>
      exact {
        stream := by
          rw [program, sends_work, sends_flatMap_wakeActions]
          exact script.trace.stream
        orderly := ⟨trivial, script.trace.orderly⟩
      }

/-- The programs of diagnostic workers are admitted. -/
theorem CheckBody.admitted (body : CheckBody) :
    Admitted checkProtocol body.program := by
  have single (message : Except String Bool) :
      Stream checkProtocol [message] :=
    ⟨[], message, rfl, by simp, rfl⟩
  rcases body with error | ⟨error | _, answer⟩
  · exact ⟨single _, by simp [program, Orderly, Follows]⟩
  · exact ⟨single _, by simp [program, Orderly, Follows]⟩
  · exact ⟨single _, by simp [program, Orderly, Follows]⟩

/-- A profile for concrete runs. -/
def homeProfile : WireGuardProfile where
  address := ⟨⟨10, 8, 0, 2⟩, 32, by decide⟩
  privateKey := ⟨List.replicate 32 1, rfl⟩
  peerPublicKey := ⟨List.replicate 32 2, rfl⟩
  presharedKey := none
  endpoint := "home.example.net:51820".toList
  allowedIps := [.v4 ⟨⟨192, 168, 178, 0⟩, 24, by decide⟩]
  persistentKeepalive := none

/-- A job for concrete runs. -/
def homeJob : WakeJob :=
  .ofFritz {
    profile := homeProfile
    fritzIp := ⟨192, 168, 178, 1⟩
    mac := ⟨#v[2, 0, 0, 0, 0, 1]⟩
  }

/-- An attempt whose first probe is answered. -/
def promptScript : WakeScript homeJob.target where
  events :=
    [.report .connecting,
      .call (.connect (.ok ())),
      .report .resolvingPc,
      .call
        (.resolveTargetIpv4 homeJob.target.mac
          (.ok ⟨192, 168, 178, 20⟩)),
      .report .waking,
      .call (.sendWake homeJob.target.mac (.ok ())),
      .now 0,
      .report (.waitingForPc 1),
      .call (.probe ⟨192, 168, 178, 20⟩ (.ok true)),
      .report .awake,
      .call .disconnect]
  result := .ok ()
  trace := .probed ⟨192, 168, 178, 20⟩ 0 (.reachable 0)

end Waker
