import Waker.RunWake

namespace Waker

/-!
# The event traces of a wake attempt

`WakeTrace` lists, as an inductive grammar, every event sequence a wake attempt
can produce together with the result it returns.  `runWake_trace` shows that
every returned run follows the grammar, whatever the backend and the clock do.
The order of the backend calls and the fidelity of the reports are then read
off the grammar.
-/

namespace WakeEvent

/-- The backend call of an event, if it is one. -/
def call? : WakeEvent → Option BackendCall
  | .call completed => some completed
  | _ => none

/-- The reported state of an event, if it is a report. -/
def report? : WakeEvent → Option WakeState
  | .report state => some state
  | _ => none

/-- Everything except the reports to the user interface. -/
def isEffect : WakeEvent → Bool
  | .report _ => false
  | _ => true

/-- A report that announces the next backend call. -/
def isAnnouncement : WakeEvent → Bool
  | .report state => state.isProgress
  | _ => false

/-- A backend call that has to be announced. -/
def isAnnounced : WakeEvent → Bool
  | .call .disconnect => false
  | .call _ => true
  | _ => false

/-- The pairs of a report and the backend call it announces. -/
def announces : WakeEvent → WakeEvent → Bool
  | .report .connecting, .call (.connect _) => true
  | .report .resolvingPc, .call (.resolveTargetIpv4 _ _) => true
  | .report .waking, .call (.sendWake _ _) => true
  | .report (.waitingForPc _), .call (.probe _ _) => true
  | _, _ => false

end WakeEvent

namespace BackendCall

/-- The failure a wake attempt makes of a call that returned an error. -/
def failure? : BackendCall → Option WakeFailure
  | .connect (.error error) => some ⟨.connect, error.message⟩
  | .resolveTargetIpv4 _ (.error error) =>
      some ⟨.resolveTarget, error.message⟩
  | .sendWake _ (.error error) => some ⟨.wakeRequest, error.message⟩
  | .probe _ (.error error) => some ⟨.probe, error.message⟩
  | _ => none

/-- The Wake-on-LAN requests among the calls. -/
def isSendWake : BackendCall → Bool
  | .sendWake _ _ => true
  | _ => false

end BackendCall

/-- The backend calls of an event sequence, in order. -/
def calls (events : List WakeEvent) : List BackendCall :=
  events.filterMap WakeEvent.call?

/-- The reported states of an event sequence, in order. -/
def reports (events : List WakeEvent) : List WakeState :=
  events.filterMap WakeEvent.report?

/-- Backend calls and clock readings, without the reports. -/
def effects (events : List WakeEvent) : List WakeEvent :=
  events.filter WakeEvent.isEffect

section Projections

variable (call : BackendCall) (state : WakeState)
variable (reading : Instant) (duration : Duration)
variable (rest : List WakeEvent)

@[simp] theorem calls_nil : calls [] = [] := rfl

@[simp] theorem calls_call :
    calls (.call call :: rest) = call :: calls rest := rfl

@[simp] theorem calls_report :
    calls (.report state :: rest) = calls rest := rfl

@[simp] theorem calls_now :
    calls (.now reading :: rest) = calls rest := rfl

@[simp] theorem calls_sleep :
    calls (.sleep duration :: rest) = calls rest := rfl

@[simp] theorem reports_nil : reports [] = [] := rfl

@[simp] theorem reports_call :
    reports (.call call :: rest) = reports rest := rfl

@[simp] theorem reports_report :
    reports (.report state :: rest) = state :: reports rest := rfl

@[simp] theorem reports_now :
    reports (.now reading :: rest) = reports rest := rfl

@[simp] theorem reports_sleep :
    reports (.sleep duration :: rest) = reports rest := rfl

@[simp] theorem effects_nil : effects [] = [] := rfl

@[simp] theorem effects_call :
    effects (.call call :: rest) = .call call :: effects rest := rfl

@[simp] theorem effects_report :
    effects (.report state :: rest) = effects rest := rfl

@[simp] theorem effects_now :
    effects (.now reading :: rest) = .now reading :: effects rest := rfl

@[simp] theorem effects_sleep :
    effects (.sleep duration :: rest) =
      .sleep duration :: effects rest := rfl

end Projections

/-- Dropping the reports does not change the backend calls. -/
@[simp] theorem calls_effects (events : List WakeEvent) :
    calls (effects events) = calls events := by
  induction events with
  | nil =>
      rfl
  | cons event rest inductionHypothesis =>
      cases event <;> simp [inductionHypothesis]

/-- The number under which the k-th probe is announced. -/
def announcedAttempt (attempt : Nat) : Nat :=
  min attempt 4294967295

/-- Counting one more attempt announces the next number. -/
theorem saturatingAddU32_announcedAttempt (attempt : Nat) :
    saturatingAddU32 (announcedAttempt attempt) 1 =
      announcedAttempt (attempt + 1) := by
  simp only [saturatingAddU32, announcedAttempt]
  omega

/-- The state reported last, given the returned result. -/
def terminalState : Except WakeFailure Unit → WakeState
  | .ok () => .awake
  | .error failure => .failed failure

/-- What follows the inner block: `disconnect`, and the report of a failure. -/
def closing : Except WakeFailure Unit → List WakeEvent
  | .ok () => [.call .disconnect]
  | .error failure => [.call .disconnect, .report (.failed failure)]

/--
Event sequences from the head of the probe loop to the end of the attempt.

The index counts the probes already made.
-/
inductive ProbeTrace
    (target : WakeTarget)
    (address : Ipv4Addr)
    (started : Instant) :
    Nat → List WakeEvent → Except WakeFailure Unit → Prop where
  | reachable (attempt : Nat) :
      ProbeTrace target address started attempt
        [.report (.waitingForPc (announcedAttempt (attempt + 1))),
          .call (.probe address (.ok true)),
          .report .awake,
          .call .disconnect]
        (.ok ())
  | failed (attempt : Nat) (error : WakeBackendError) :
      ProbeTrace target address started attempt
        [.report (.waitingForPc (announcedAttempt (attempt + 1))),
          .call (.probe address (.error error)),
          .call .disconnect,
          .report (.failed ⟨.probe, error.message⟩)]
        (.error ⟨.probe, error.message⟩)
  | deadline
      (attempt : Nat)
      (reading : Instant)
      (passed :
        target.probeTimeout ≤ Instant.durationSince reading started) :
      ProbeTrace target address started attempt
        [.report (.waitingForPc (announcedAttempt (attempt + 1))),
          .call (.probe address (.ok false)),
          .now reading,
          .call .disconnect,
          .report (.failed (timeoutFailure target))]
        (.error (timeoutFailure target))
  | again
      (attempt : Nat)
      (reading : Instant)
      (early :
        Instant.durationSince reading started < target.probeTimeout)
      {rest : List WakeEvent}
      {result : Except WakeFailure Unit}
      (later :
        ProbeTrace target address started (attempt + 1) rest result) :
      ProbeTrace target address started attempt
        (.report (.waitingForPc (announcedAttempt (attempt + 1))) ::
          .call (.probe address (.ok false)) ::
          .now reading ::
          .sleep target.probeInterval ::
          rest)
        result

/-- Event sequences of a complete wake attempt with the result it returns. -/
inductive WakeTrace
    (target : WakeTarget) :
    List WakeEvent → Except WakeFailure Unit → Prop where
  | connectFailed (error : WakeBackendError) :
      WakeTrace target
        [.report .connecting,
          .call (.connect (.error error)),
          .call .disconnect,
          .report (.failed ⟨.connect, error.message⟩)]
        (.error ⟨.connect, error.message⟩)
  | resolveFailed (error : WakeBackendError) :
      WakeTrace target
        [.report .connecting,
          .call (.connect (.ok ())),
          .report .resolvingPc,
          .call (.resolveTargetIpv4 target.mac (.error error)),
          .call .disconnect,
          .report (.failed ⟨.resolveTarget, error.message⟩)]
        (.error ⟨.resolveTarget, error.message⟩)
  | wakeFailed (address : Ipv4Addr) (error : WakeBackendError) :
      WakeTrace target
        [.report .connecting,
          .call (.connect (.ok ())),
          .report .resolvingPc,
          .call (.resolveTargetIpv4 target.mac (.ok address)),
          .report .waking,
          .call (.sendWake target.mac (.error error)),
          .call .disconnect,
          .report (.failed ⟨.wakeRequest, error.message⟩)]
        (.error ⟨.wakeRequest, error.message⟩)
  | probed
      (address : Ipv4Addr)
      (started : Instant)
      {probes : List WakeEvent}
      {result : Except WakeFailure Unit}
      (later : ProbeTrace target address started 0 probes result) :
      WakeTrace target
        (.report .connecting ::
          .call (.connect (.ok ())) ::
          .report .resolvingPc ::
          .call (.resolveTargetIpv4 target.mac (.ok address)) ::
          .report .waking ::
          .call (.sendWake target.mac (.ok ())) ::
          .now started ::
          probes)
        result

section Soundness

variable {World : Type}

/-- Every run of the probe loop, closed by `disconnect`, follows the grammar. -/
theorem probeLoop_trace
    {backend : WakeBackend World}
    {clock : Clock World}
    {target : WakeTarget}
    {address : Ipv4Addr}
    {started : Instant}
    {fuel attempt : Nat}
    {world : World}
    {run : WakeRun World}
    (returned :
      probeLoop backend clock target address started
        fuel (announcedAttempt attempt) world = some run) :
    ProbeTrace target address started attempt
      (run.events ++ closing run.result) run.result := by
  induction fuel generalizing attempt world run with
  | zero =>
      simp [probeLoop] at returned
  | succ fuel inductionHypothesis =>
      simp only [probeLoop, saturatingAddU32_announcedAttempt] at returned
      cases probed : (backend.probe address world).1 with
      | error error =>
          simp only [probed, Option.some.injEq] at returned
          subst run
          exact .failed attempt error
      | ok reachable =>
          cases reachable with
          | true =>
              simp only [probed, Option.some.injEq] at returned
              subst run
              exact .reachable attempt
          | false =>
              simp only [probed] at returned
              split at returned
              · rename_i passed
                simp only [Option.some.injEq] at returned
                subst run
                exact .deadline attempt _ passed
              · rename_i early
                obtain ⟨later, laterRun, shape⟩ :=
                  Option.map_eq_some_iff.mp returned
                subst run
                exact .again attempt _ (Nat.lt_of_not_le early)
                  (inductionHypothesis laterRun)

/-- Every returned wake attempt follows the grammar. -/
theorem runWake_trace
    {backend : WakeBackend World}
    {clock : Clock World}
    {target : WakeTarget}
    {fuel : Nat}
    {world : World}
    {run : WakeRun World}
    (returned : runWake backend clock target fuel world = some run) :
    WakeTrace target run.events run.result := by
  obtain ⟨attempt, attempted, shape⟩ :=
    Option.map_eq_some_iff.mp returned
  subst run
  unfold attemptWake at attempted
  cases connected : (backend.connect world).1 with
  | error error =>
      simp only [connected, Option.some.injEq] at attempted
      subst attempt
      exact .connectFailed error
  | ok _ =>
      simp only [connected] at attempted
      split at attempted
      · simp only [Option.some.injEq] at attempted
        subst attempt
        rename_i error resolved
        simp only [resolved]
        exact .resolveFailed error
      · rename_i address resolved
        split at attempted
        · simp only [Option.some.injEq] at attempted
          subst attempt
          rename_i error accepted
          simp only [resolved, accepted]
          exact .wakeFailed address error
        · rename_i accepted
          obtain ⟨probing, probed, shape⟩ :=
            Option.map_eq_some_iff.mp attempted
          subst attempt
          simp only [resolved, accepted]
          have trace :=
            WakeTrace.probed address _ (probeLoop_trace probed)
          cases result : probing.result with
          | ok _ =>
              simpa [WakeRun.prepend, closing, result] using trace
          | error failure =>
              simpa [WakeRun.prepend, closing, result] using trace

end Soundness

/-!
## Every trace is a run

A backend that answers from a script realizes every event sequence of the
grammar, so the grammar contains no sequence that cannot happen.
-/

namespace Replay

/-- Answer each backend call with the next result of the script. -/
def backend : WakeBackend (List WakeEvent) where
  connect
    | .call (.connect result) :: rest => (result, rest)
    | script => (.error ⟨"unscripted connect"⟩, script)
  resolveTargetIpv4 _
    | .call (.resolveTargetIpv4 _ result) :: rest => (result, rest)
    | script => (.error ⟨"unscripted lookup"⟩, script)
  sendWake _
    | .call (.sendWake _ result) :: rest => (result, rest)
    | script => (.error ⟨"unscripted wake request"⟩, script)
  probe _
    | .call (.probe _ result) :: rest => (result, rest)
    | script => (.error ⟨"unscripted probe"⟩, script)
  disconnect
    | .call .disconnect :: rest => rest
    | script => script

/-- Read the clock from the script. -/
def clock : Clock (List WakeEvent) where
  now
    | .now reading :: rest => (reading, rest)
    | script => (0, script)
  sleep _
    | .sleep _ :: rest => rest
    | script => script

end Replay

/-- The probe loop replays every probe trace, up to the closing events. -/
theorem ProbeTrace.replay
    {target : WakeTarget}
    {address : Ipv4Addr}
    {started : Instant}
    {attempt : Nat}
    {events : List WakeEvent}
    {result : Except WakeFailure Unit}
    (trace : ProbeTrace target address started attempt events result) :
    ∃ fuel run,
      probeLoop Replay.backend Replay.clock target address started
          fuel (announcedAttempt attempt) (effects events) = some run ∧
        run.events ++ closing run.result = events ∧
        run.result = result ∧
        run.world = [.call .disconnect] := by
  induction trace with
  | reachable attempt =>
      refine ⟨1, _, rfl, ?_⟩
      simp [closing, saturatingAddU32_announcedAttempt, Replay.backend]
  | failed attempt error =>
      refine ⟨1, _, rfl, ?_⟩
      simp [closing, saturatingAddU32_announcedAttempt, Replay.backend]
  | deadline attempt reading passed =>
      refine ⟨1, {
        result := .error (timeoutFailure target)
        events := _
        world := _
      }, by
        simp only [probeLoop, effects_report, effects_call, effects_now,
          Replay.backend, Replay.clock, passed, ↓reduceIte]
        rfl, ?_⟩
      simp [closing, saturatingAddU32_announcedAttempt]
  | again attempt reading early later inductionHypothesis =>
      obtain ⟨fuel, run, replayed, eventsShape, resultShape, worldShape⟩ :=
        inductionHypothesis
      have notPassed :
          ¬ target.probeTimeout ≤
            Instant.durationSince reading started :=
        Nat.not_le_of_lt early
      refine ⟨fuel + 1, run.prepend _, by
        simp only [probeLoop, effects_report, effects_call, effects_now,
          effects_sleep, Replay.backend, Replay.clock, notPassed,
          ↓reduceIte, saturatingAddU32_announcedAttempt]
        simp only [Replay.backend, Replay.clock] at replayed
        rw [replayed]
        rfl, ?_⟩
      subst resultShape
      simp [WakeRun.prepend, eventsShape, worldShape]

/-- Every trace of the grammar is the event sequence of a returned wake attempt. -/
theorem WakeTrace.replay
    {target : WakeTarget}
    {events : List WakeEvent}
    {result : Except WakeFailure Unit}
    (trace : WakeTrace target events result) :
    ∃ fuel,
      runWake Replay.backend Replay.clock target fuel (effects events) =
        some {
          result := result
          events := events
          world := []
        } := by
  cases trace with
  | connectFailed error =>
      exact ⟨0, rfl⟩
  | resolveFailed error =>
      exact ⟨0, rfl⟩
  | wakeFailed address error =>
      exact ⟨0, rfl⟩
  | probed address started later =>
      obtain ⟨fuel, run, replayed, eventsShape, resultShape, worldShape⟩ :=
        later.replay
      refine ⟨fuel, ?_⟩
      have loop :
          probeLoop Replay.backend Replay.clock target address started
            fuel 0 (effects _) = some run :=
        replayed
      simp only [runWake, attemptWake, effects_report, effects_call,
        effects_now]
      simp only [Replay.backend, Replay.clock] at loop ⊢
      rw [loop]
      subst resultShape
      rw [← eventsShape]
      cases ended : run.result <;>
        simp [WakeRun.prepend, closing, ended, worldShape]

namespace Replay

/-- The target of the scripted attempts. -/
def target : WakeTarget :=
  WakeTarget.new ⟨#v[0xAA, 0xBB, 0xCC, 0xDD, 0xEE, 0xFF]⟩

/-- Backend results and clock readings of an attempt whose second probe succeeds. -/
def secondProbe : List WakeEvent :=
  [.call (.connect (.ok ())),
    .call (.resolveTargetIpv4 target.mac (.ok ⟨192, 168, 178, 20⟩)),
    .call (.sendWake target.mac (.ok ())),
    .now 0,
    .call (.probe ⟨192, 168, 178, 20⟩ (.ok false)),
    .now 1000000,
    .sleep target.probeInterval,
    .call (.probe ⟨192, 168, 178, 20⟩ (.ok true)),
    .call .disconnect]

end Replay

end Waker
