import Waker.RunWakeTrace

namespace Waker

/-!
# Order of the backend calls and fidelity of the reports

Both laws hold of the whole event sequence of every returned wake attempt.
They are proved by induction on the trace grammar and transferred to `runWake`
through `runWake_trace`.  That the events are what the backend and the clock
are asked and answer is `runWake_noted`.
-/

/--
Backend calls and clock readings of the probe loop, up to the end.

The loop stops at the first success, the first error, or the first reading at
or past the deadline; every earlier reading lies before the deadline.
-/
inductive ProbeOrder
    (target : WakeTarget)
    (address : Ipv4Addr)
    (started : Instant) :
    List WakeEvent → Prop where
  | reachable :
      ProbeOrder target address started
        [.call (.probe address (.ok true)), .call .disconnect]
  | failed (error : WakeBackendError) :
      ProbeOrder target address started
        [.call (.probe address (.error error)), .call .disconnect]
  | deadline
      (reading : Instant)
      (passed :
        target.probeTimeout ≤ Instant.durationSince reading started) :
      ProbeOrder target address started
        [.call (.probe address (.ok false)), .now reading,
          .call .disconnect]
  | again
      (reading : Instant)
      (early :
        Instant.durationSince reading started < target.probeTimeout)
      {rest : List WakeEvent}
      (later : ProbeOrder target address started rest) :
      ProbeOrder target address started
        (.call (.probe address (.ok false)) ::
          .now reading ::
          .sleep target.probeInterval ::
          rest)

/-- Backend calls and clock readings of a complete wake attempt. -/
inductive EffectOrder
    (target : WakeTarget) :
    List WakeEvent → Prop where
  | connectFailed (error : WakeBackendError) :
      EffectOrder target
        [.call (.connect (.error error)), .call .disconnect]
  | resolveFailed (error : WakeBackendError) :
      EffectOrder target
        [.call (.connect (.ok ())),
          .call (.resolveTargetIpv4 target.mac (.error error)),
          .call .disconnect]
  | wakeFailed (address : Ipv4Addr) (error : WakeBackendError) :
      EffectOrder target
        [.call (.connect (.ok ())),
          .call (.resolveTargetIpv4 target.mac (.ok address)),
          .call (.sendWake target.mac (.error error)),
          .call .disconnect]
  | probed
      (address : Ipv4Addr)
      (started : Instant)
      {probes : List WakeEvent}
      (later : ProbeOrder target address started probes) :
      EffectOrder target
        (.call (.connect (.ok ())) ::
          .call (.resolveTargetIpv4 target.mac (.ok address)) ::
          .call (.sendWake target.mac (.ok ())) ::
          .now started ::
          probes)

/-- The order in which a wake attempt may call its backend. -/
structure CallOrder
    (target : WakeTarget)
    (events : List WakeEvent) : Prop where
  order :
    EffectOrder target (effects events)
  disconnectLast :
    (calls events).getLast? = some .disconnect
  disconnectOnce :
    (calls events).count .disconnect = 1
  wakeAtMostOnce :
    (calls events).countP BackendCall.isSendWake ≤ 1
  wakeAfterResolution :
    ∀ {mac result},
      .sendWake mac result ∈ calls events →
      ∃ address rest,
        calls events =
          .connect (.ok ()) ::
            .resolveTargetIpv4 target.mac (.ok address) ::
            .sendWake target.mac result :: rest
  onlyDisconnectAfterFailure :
    (calls events).Pairwise fun earlier later =>
      earlier.failure?.isSome → later = .disconnect

/-- The probe part of a trace calls the backend in the probe order. -/
theorem ProbeTrace.order
    {target : WakeTarget}
    {address : Ipv4Addr}
    {started : Instant}
    {attempt : Nat}
    {events : List WakeEvent}
    {result : Except WakeFailure Unit}
    (trace : ProbeTrace target address started attempt events result) :
    ProbeOrder target address started (effects events) := by
  induction trace with
  | reachable attempt =>
      exact .reachable
  | failed attempt error =>
      exact .failed error
  | deadline attempt reading passed =>
      exact .deadline reading passed
  | again attempt reading early later inductionHypothesis =>
      exact .again reading early inductionHypothesis

/-- Every trace calls the backend in the effect order. -/
theorem WakeTrace.order
    {target : WakeTarget}
    {events : List WakeEvent}
    {result : Except WakeFailure Unit}
    (trace : WakeTrace target events result) :
    EffectOrder target (effects events) := by
  cases trace with
  | connectFailed error =>
      exact .connectFailed error
  | resolveFailed error =>
      exact .resolveFailed error
  | wakeFailed address error =>
      exact .wakeFailed address error
  | probed address started later =>
      exact .probed address started later.order

/--
The calls of the probe loop: unsuccessful probes, one last probe, and
`disconnect`.
-/
theorem ProbeOrder.calls_shape
    {target : WakeTarget}
    {address : Ipv4Addr}
    {started : Instant}
    {events : List WakeEvent}
    (order : ProbeOrder target address started events) :
    ∃ retries last,
      calls events =
        List.replicate retries (.probe address (.ok false)) ++
          [.probe address last, .disconnect] := by
  induction order with
  | reachable =>
      exact ⟨0, .ok true, rfl⟩
  | failed error =>
      exact ⟨0, .error error, rfl⟩
  | deadline reading passed =>
      exact ⟨0, .ok false, rfl⟩
  | again reading early later inductionHypothesis =>
      obtain ⟨retries, last, shape⟩ := inductionHypothesis
      refine ⟨retries + 1, last, ?_⟩
      simp [List.replicate_succ, shape]

/-- The four shapes of the calls of a complete attempt. -/
inductive CallShape
    (target : WakeTarget) :
    List BackendCall → Prop where
  | connectFailed (error : WakeBackendError) :
      CallShape target [.connect (.error error), .disconnect]
  | resolveFailed (error : WakeBackendError) :
      CallShape target
        [.connect (.ok ()),
          .resolveTargetIpv4 target.mac (.error error),
          .disconnect]
  | wakeFailed (address : Ipv4Addr) (error : WakeBackendError) :
      CallShape target
        [.connect (.ok ()),
          .resolveTargetIpv4 target.mac (.ok address),
          .sendWake target.mac (.error error),
          .disconnect]
  | probed
      (address : Ipv4Addr)
      (retries : Nat)
      (last : Except WakeBackendError Bool) :
      CallShape target
        (.connect (.ok ()) ::
          .resolveTargetIpv4 target.mac (.ok address) ::
          .sendWake target.mac (.ok ()) ::
          (List.replicate retries (.probe address (.ok false)) ++
            [.probe address last, .disconnect]))

/-- Forgetting the clock leaves one of the four shapes. -/
theorem EffectOrder.callShape
    {target : WakeTarget}
    {events : List WakeEvent}
    (order : EffectOrder target events) :
    CallShape target (calls events) := by
  cases order with
  | connectFailed error =>
      exact .connectFailed error
  | resolveFailed error =>
      exact .resolveFailed error
  | wakeFailed address error =>
      exact .wakeFailed address error
  | probed address started later =>
      obtain ⟨retries, last, shape⟩ := later.calls_shape
      simp only [calls_call, calls_now, shape]
      exact .probed address retries last

namespace CallShape

variable {target : WakeTarget} {items : List BackendCall}

theorem disconnectLast
    (shape : CallShape target items) :
    items.getLast? = some .disconnect := by
  cases shape <;> simp [List.getLast?_cons]

theorem disconnectOnce
    (shape : CallShape target items) :
    items.count .disconnect = 1 := by
  cases shape <;> simp [List.count_replicate]

theorem wakeAtMostOnce
    (shape : CallShape target items) :
    items.countP BackendCall.isSendWake ≤ 1 := by
  cases shape <;>
    simp [BackendCall.isSendWake, List.countP_cons, List.countP_replicate]

theorem wakeAfterResolution
    (shape : CallShape target items)
    {mac : MacAddress}
    {result : Except WakeBackendError Unit}
    (member : .sendWake mac result ∈ items) :
    ∃ address rest,
      items =
        .connect (.ok ()) ::
          .resolveTargetIpv4 target.mac (.ok address) ::
          .sendWake target.mac result :: rest := by
  cases shape with
  | connectFailed error =>
      simp at member
  | resolveFailed error =>
      simp at member
  | wakeFailed address error =>
      have sameResult : result = .error error := by
        simpa using (by simpa using member : _ ∧ _).2
      exact ⟨address, _, by rw [sameResult]⟩
  | probed address retries last =>
      have sameResult : result = .ok () := by
        simpa using (by simpa using member : _ ∧ _).2
      exact ⟨address, _, by rw [sameResult]⟩

theorem onlyDisconnectAfterFailure
    (shape : CallShape target items) :
    items.Pairwise fun earlier later =>
      earlier.failure?.isSome → later = .disconnect := by
  cases shape <;>
    simp [BackendCall.failure?, List.pairwise_append, List.pairwise_replicate]

end CallShape

/--
The backend calls of every returned wake attempt come in the prescribed order,
with exactly one `disconnect`, which is the last call on every path.
-/
theorem runWake_callOrder
    {World : Type}
    {backend : WakeBackend World}
    {clock : Clock World}
    {target : WakeTarget}
    {fuel : Nat}
    {world : World}
    {run : WakeRun World}
    (returned : runWake backend clock target fuel world = some run) :
    CallOrder target run.events := by
  have order := (runWake_trace returned).order
  have shape : CallShape target (calls run.events) := by
    simpa using order.callShape
  exact {
    order := order
    disconnectLast := shape.disconnectLast
    disconnectOnce := shape.disconnectOnce
    wakeAtMostOnce := shape.wakeAtMostOnce
    wakeAfterResolution := shape.wakeAfterResolution
    onlyDisconnectAfterFailure := shape.onlyDisconnectAfterFailure
  }

/-- The order on an attempt whose second probe succeeds. -/
theorem runWake_callOrder_secondProbe :
    ∃ run,
      runWake Replay.backend Replay.clock Replay.target 2
          Replay.secondProbe = some run ∧
        CallOrder Replay.target run.events := by
  obtain ⟨run, returned⟩ :
      ∃ run,
        runWake Replay.backend Replay.clock Replay.target 2
          Replay.secondProbe = some run :=
    ⟨_, rfl⟩
  exact ⟨run, returned, runWake_callOrder returned⟩

section Noting

variable {World : Type}

/-- A backend that notes every call with the answer that it gives. -/
def WakeBackend.noting
    (backend : WakeBackend World) : WakeBackend (List WakeEvent × World) where
  connect := fun (noted, world) =>
    let (result, world) := backend.connect world
    (result, noted ++ [.call (.connect result)], world)
  resolveTargetIpv4 := fun mac (noted, world) =>
    let (result, world) := backend.resolveTargetIpv4 mac world
    (result, noted ++ [.call (.resolveTargetIpv4 mac result)], world)
  sendWake := fun mac (noted, world) =>
    let (result, world) := backend.sendWake mac world
    (result, noted ++ [.call (.sendWake mac result)], world)
  probe := fun address (noted, world) =>
    let (result, world) := backend.probe address world
    (result, noted ++ [.call (.probe address result)], world)
  disconnect := fun (noted, world) =>
    (noted ++ [.call .disconnect], backend.disconnect world)

/-- A clock that notes every reading and every sleep. -/
def Clock.noting
    (clock : Clock World) : Clock (List WakeEvent × World) where
  now := fun (noted, world) =>
    let (reading, world) := clock.now world
    (reading, noted ++ [.now reading], world)
  sleep := fun duration (noted, world) =>
    (noted ++ [.sleep duration], clock.sleep duration world)

/-- The effects of two event sequences, one after the other. -/
theorem effects_append
    (first second : List WakeEvent) :
    effects (first ++ second) = effects first ++ effects second :=
  List.filter_append ..

variable {backend : WakeBackend World}
variable {clock : Clock World}
variable {target : WakeTarget}

/-- The events of a probe loop are what its backend and its clock note. -/
theorem probeLoop_noted
    {address : Ipv4Addr}
    {started : Instant}
    {fuel attempt : Nat}
    {world : List WakeEvent × World}
    {run : WakeRun (List WakeEvent × World)}
    (returned :
      probeLoop backend.noting clock.noting target address started fuel
          attempt world =
        some run) :
    run.world.1 = world.1 ++ effects run.events := by
  induction fuel generalizing attempt world run with
  | zero =>
      cases returned
  | succ fuel inductionHypothesis =>
      simp only [probeLoop] at returned
      split at returned
      · cases returned
        rfl
      · cases returned
        rfl
      · split at returned
        · cases returned
          simp [WakeBackend.noting, Clock.noting]
        · obtain ⟨later, again, rfl⟩ :=
            Option.map_eq_some_iff.mp returned
          have noted := inductionHypothesis again
          dsimp only [WakeRun.prepend]
          rw [noted]
          simp [WakeBackend.noting, Clock.noting]

/-- The calls of an attempt and their results are those of the backend. -/
theorem attemptWake_noted
    {fuel : Nat}
    {world : List WakeEvent × World}
    {run : WakeRun (List WakeEvent × World)}
    (returned :
      attemptWake backend.noting clock.noting target fuel world = some run) :
    run.world.1 = world.1 ++ effects run.events := by
  simp only [attemptWake] at returned
  split at returned
  · cases returned
    rfl
  · split at returned
    · cases returned
      simp [WakeBackend.noting]
    · split at returned
      · cases returned
        simp [WakeBackend.noting]
      · obtain ⟨loop, looped, rfl⟩ := Option.map_eq_some_iff.mp returned
        have noted := probeLoop_noted looped
        dsimp only [WakeRun.prepend]
        rw [noted]
        simp [WakeBackend.noting, Clock.noting]

/--
What a wake attempt is said to do is what happens: its calls with their
results, its clock readings and its sleeps are, in order, those that the
backend and the clock note.
-/
theorem runWake_noted
    {fuel : Nat}
    {world : World}
    {run : WakeRun (List WakeEvent × World)}
    (returned :
      runWake backend.noting clock.noting target fuel ([], world) =
        some run) :
    run.world.1 = effects run.events := by
  obtain ⟨attempt, attempted, rfl⟩ := Option.map_eq_some_iff.mp returned
  have noted := attemptWake_noted attempted
  rw [List.nil_append] at noted
  dsimp only
  split
  · simp [WakeBackend.noting, noted, effects_append]
  · simp [WakeBackend.noting, noted, effects_append]

end Noting

end Waker
