import Waker.WakeState

namespace Waker

/-!
# One wake attempt

`runWake` follows `run_wake` statement by statement.  The backend and the clock
act on one arbitrary world, so every sequence of backend results and every
sequence of clock readings is covered.  Everything the function does that can
be observed from outside is recorded as a `WakeEvent`, in order.

The probe loop of the source has no bound of its own.  The model takes a fuel
argument and returns `none` when the fuel runs out before the function returns.
-/

/-- The trait through which a wake attempt reaches the network. -/
structure WakeBackend (World : Type) where
  connect :
    World → Except WakeBackendError Unit × World
  resolveTargetIpv4 :
    MacAddress → World → Except WakeBackendError Ipv4Addr × World
  sendWake :
    MacAddress → World → Except WakeBackendError Unit × World
  probe :
    Ipv4Addr → World → Except WakeBackendError Bool × World
  disconnect :
    World → World

/-- The clock read and slept on by the probe loop. -/
structure Clock (World : Type) where
  now : World → Instant × World
  sleep : Duration → World → World

/-- One completed backend call with its result. -/
inductive BackendCall where
  | connect (result : Except WakeBackendError Unit)
  | resolveTargetIpv4
      (mac : MacAddress)
      (result : Except WakeBackendError Ipv4Addr)
  | sendWake
      (mac : MacAddress)
      (result : Except WakeBackendError Unit)
  | probe
      (address : Ipv4Addr)
      (result : Except WakeBackendError Bool)
  | disconnect
  deriving DecidableEq

/-- One observable step of a wake attempt. -/
inductive WakeEvent where
  | report (state : WakeState)
  | call (call : BackendCall)
  | now (reading : Instant)
  | sleep (duration : Duration)
  deriving DecidableEq

/-- A returned wake attempt: its result, its events, and the world it leaves. -/
structure WakeRun (World : Type) where
  result : Except WakeFailure Unit
  events : List WakeEvent
  world : World

namespace WakeRun

/-- Put earlier events in front of the events of a run. -/
def prepend
    (earlier : List WakeEvent)
    (run : WakeRun World) : WakeRun World where
  result := run.result
  events := earlier ++ run.events
  world := run.world

end WakeRun

/-- `u32::saturating_add`. -/
def saturatingAddU32 (left right : Nat) : Nat :=
  min (left + right) 4294967295

/-- The failure of an attempt whose probes never succeeded in time. -/
def timeoutFailure (target : WakeTarget) : WakeFailure where
  stage := .timeout
  detail :=
    s!"PC did not become reachable within {Duration.asSecs target.probeTimeout} seconds"

section

variable {World : Type}

/-- The probe loop, entered with the number of attempts already made. -/
def probeLoop
    (backend : WakeBackend World)
    (clock : Clock World)
    (target : WakeTarget)
    (address : Ipv4Addr)
    (started : Instant) :
    Nat → Nat → World → Option (WakeRun World)
  | 0, _, _ => none
  | fuel + 1, attempt, world =>
      let attempt := saturatingAddU32 attempt 1
      let (reachable, world) := backend.probe address world
      let announced :=
        [.report (.waitingForPc attempt), .call (.probe address reachable)]
      match reachable with
      | .error error =>
          some {
            result := .error ⟨.probe, error.message⟩
            events := announced
            world := world
          }
      | .ok true =>
          some {
            result := .ok ()
            events := announced ++ [.report .awake]
            world := world
          }
      | .ok false =>
          let (reading, world) := clock.now world
          if target.probeTimeout ≤ Instant.durationSince reading started then
            some {
              result := .error (timeoutFailure target)
              events := announced ++ [.now reading]
              world := world
            }
          else
            let world := clock.sleep target.probeInterval world
            (probeLoop backend clock target address started
                fuel attempt world).map
              (WakeRun.prepend
                (announced ++
                  [.now reading, .sleep target.probeInterval]))

/-- The inner asynchronous block, whose early returns all reach `disconnect`. -/
def attemptWake
    (backend : WakeBackend World)
    (clock : Clock World)
    (target : WakeTarget)
    (fuel : Nat)
    (world : World) : Option (WakeRun World) :=
  let (connected, world) := backend.connect world
  let connectEvents := [.call (.connect connected)]
  match connected with
  | .error error =>
      some {
        result := .error ⟨.connect, error.message⟩
        events := connectEvents
        world := world
      }
  | .ok () =>
      let (resolved, world) := backend.resolveTargetIpv4 target.mac world
      let resolveEvents :=
        connectEvents ++
          [.report .resolvingPc,
            .call (.resolveTargetIpv4 target.mac resolved)]
      match resolved with
      | .error error =>
          some {
            result := .error ⟨.resolveTarget, error.message⟩
            events := resolveEvents
            world := world
          }
      | .ok address =>
          let (accepted, world) := backend.sendWake target.mac world
          let wakeEvents :=
            resolveEvents ++
              [.report .waking, .call (.sendWake target.mac accepted)]
          match accepted with
          | .error error =>
              some {
                result := .error ⟨.wakeRequest, error.message⟩
                events := wakeEvents
                world := world
              }
          | .ok () =>
              let (started, world) := clock.now world
              (probeLoop backend clock target address started
                  fuel 0 world).map
                (WakeRun.prepend (wakeEvents ++ [.now started]))

/-- One complete wake attempt, always ended by `disconnect`. -/
def runWake
    (backend : WakeBackend World)
    (clock : Clock World)
    (target : WakeTarget)
    (fuel : Nat)
    (world : World) : Option (WakeRun World) :=
  (attemptWake backend clock target fuel world).map fun attempt =>
    let failed :=
      match attempt.result with
      | .error failure => [.report (.failed failure)]
      | .ok () => []
    {
      result := attempt.result
      events :=
        .report .connecting :: attempt.events ++
          .call .disconnect :: failed
      world := backend.disconnect attempt.world
    }

end

end Waker
