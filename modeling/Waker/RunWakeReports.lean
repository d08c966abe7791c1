import Waker.RunWakeTrace

namespace Waker

/-!
# Fidelity of the wake reports

The reports of a wake attempt announce its backend calls one by one and end in
exactly one terminal state, which repeats the returned result.
-/

/-- The state that announces the backend call with the given index. -/
def announcement : Nat → WakeState
  | 0 => .connecting
  | 1 => .resolvingPc
  | 2 => .waking
  | index + 3 => .waitingForPc (announcedAttempt (index + 1))

/-- The backend calls that are announced: all but `disconnect`. -/
def announcedCalls (events : List WakeEvent) : List BackendCall :=
  (calls events).filter (· ≠ .disconnect)

/-- The failures caused by calls that returned an error. -/
def failures (events : List WakeEvent) : List WakeFailure :=
  (calls events).filterMap BackendCall.failure?

/--
Two neighbouring events agree when an announcement is followed by the call it
announces and an announced call directly follows its announcement.
-/
def Adjacent (first second : WakeEvent) : Prop :=
  first.isAnnouncement ∨ second.isAnnounced →
    first.announces second

/-- What the reports of a wake attempt say about its calls and its result. -/
structure ReportFidelity
    (events : List WakeEvent)
    (result : Except WakeFailure Unit) : Prop where
  sequence :
    reports events =
      (List.range (announcedCalls events).length).map announcement ++
        [terminalState result]
  startsWithReport :
    events.head? = some (.report .connecting)
  adjacent :
    events.IsChain Adjacent
  awakeExactly :
    .awake ∈ reports events ↔ result = .ok ()
  failedExactly :
    ∀ failure,
      .failed failure ∈ reports events ↔ result = .error failure
  connectExactly :
    ∀ failure,
      result = .error failure →
      (failure.stage = .connect ↔
        .connect (.error ⟨failure.detail⟩) ∈ calls events)
  resolveTargetExactly :
    ∀ failure,
      result = .error failure →
      (failure.stage = .resolveTarget ↔
        ∃ mac,
          .resolveTargetIpv4 mac (.error ⟨failure.detail⟩) ∈ calls events)
  wakeRequestExactly :
    ∀ failure,
      result = .error failure →
      (failure.stage = .wakeRequest ↔
        ∃ mac, .sendWake mac (.error ⟨failure.detail⟩) ∈ calls events)
  probeExactly :
    ∀ failure,
      result = .error failure →
      (failure.stage = .probe ↔
        ∃ address,
          .probe address (.error ⟨failure.detail⟩) ∈ calls events)
  timeoutExactly :
    ∀ failure,
      result = .error failure →
      (failure.stage = .timeout ↔ failures events = [])
  singleFailure :
    ∀ failure other,
      result = .error failure →
      other ∈ failures events →
      other = failure
  idleNever :
    .idle ∉ reports events
  failedAfterDisconnect :
    ∃ body,
      events = body ++ closing result ∧
        ∀ failure, .report (.failed failure) ∉ body

section Projections

variable (call : BackendCall) (state : WakeState)
variable (reading : Instant) (duration : Duration)
variable (rest : List WakeEvent)

@[simp] theorem announcedCalls_nil : announcedCalls [] = [] := rfl

@[simp] theorem announcedCalls_call :
    announcedCalls (.call call :: rest) =
      if call = .disconnect then
        announcedCalls rest
      else
        call :: announcedCalls rest := by
  by_cases isDisconnect : call = .disconnect <;>
    simp [announcedCalls, isDisconnect]

@[simp] theorem announcedCalls_report :
    announcedCalls (.report state :: rest) = announcedCalls rest := rfl

@[simp] theorem announcedCalls_now :
    announcedCalls (.now reading :: rest) = announcedCalls rest := rfl

@[simp] theorem announcedCalls_sleep :
    announcedCalls (.sleep duration :: rest) = announcedCalls rest := rfl

@[simp] theorem failures_nil : failures [] = [] := rfl

@[simp] theorem failures_call :
    failures (.call call :: rest) =
      call.failure?.toList ++ failures rest := by
  cases failed : call.failure? <;>
    simp [failures, failed]

@[simp] theorem failures_report :
    failures (.report state :: rest) = failures rest := rfl

@[simp] theorem failures_now :
    failures (.now reading :: rest) = failures rest := rfl

@[simp] theorem failures_sleep :
    failures (.sleep duration :: rest) = failures rest := rfl

end Projections

/-- The k-th probe of a trace is announced under its own number. -/
theorem ProbeTrace.reports
    {target : WakeTarget}
    {address : Ipv4Addr}
    {started : Instant}
    {attempt : Nat}
    {events : List WakeEvent}
    {result : Except WakeFailure Unit}
    (trace : ProbeTrace target address started attempt events result) :
    reports events =
      (List.range (announcedCalls events).length).map
          (fun index =>
            .waitingForPc (announcedAttempt (attempt + index + 1))) ++
        [terminalState result] := by
  induction trace with
  | reachable attempt =>
      rfl
  | failed attempt error =>
      rfl
  | deadline attempt reading passed =>
      rfl
  | again attempt reading early later inductionHypothesis =>
      simp only [reports_report, reports_call, reports_now, reports_sleep,
        inductionHypothesis, announcedCalls_report, announcedCalls_call,
        announcedCalls_now, announcedCalls_sleep, reduceCtorEq, ↓reduceIte,
        List.length_cons, List.range_succ_eq_map, List.map_cons,
        List.map_map, List.cons_append, Nat.add_zero]
      congr 2
      apply List.map_congr_left
      intro index _
      simp only [Function.comp_apply]
      congr 2
      omega

/-- Every trace reports its announcements in order and one terminal state. -/
theorem WakeTrace.reports
    {target : WakeTarget}
    {events : List WakeEvent}
    {result : Except WakeFailure Unit}
    (trace : WakeTrace target events result) :
    reports events =
      (List.range (announcedCalls events).length).map announcement ++
        [terminalState result] := by
  cases trace with
  | connectFailed error =>
      rfl
  | resolveFailed error =>
      rfl
  | wakeFailed address error =>
      rfl
  | probed address started later =>
      simp only [reports_report, reports_call, reports_now,
        later.reports, announcedCalls_report, announcedCalls_call,
        announcedCalls_now, reduceCtorEq, ↓reduceIte, List.length_cons,
        List.range_succ_eq_map, List.map_cons, List.map_map,
        List.cons_append, announcement]
      congr 4
      apply List.map_congr_left
      intro index _
      simp [announcement]

/-- A non-announcement may stand before any event that is not an announced call. -/
theorem adjacent_of_neither
    {first second : WakeEvent}
    (firstPlain : first.isAnnouncement = false)
    (secondPlain : second.isAnnounced = false) :
    Adjacent first second := by
  simp [Adjacent, firstPlain, secondPlain]

/-- A chain may be extended by an event that is not an announcement before a report. -/
theorem isChain_cons_report
    (previous : WakeEvent)
    {state : WakeState}
    {rest : List WakeEvent}
    (previousPlain : previous.isAnnouncement = false)
    (chain : (.report state :: rest).IsChain Adjacent) :
    (previous :: .report state :: rest).IsChain Adjacent :=
  List.isChain_cons_cons.mpr
    ⟨adjacent_of_neither previousPlain rfl, chain⟩

/-- Probe traces are adjacent and start with a report. -/
theorem ProbeTrace.adjacent
    {target : WakeTarget}
    {address : Ipv4Addr}
    {started : Instant}
    {attempt : Nat}
    {events : List WakeEvent}
    {result : Except WakeFailure Unit}
    (trace : ProbeTrace target address started attempt events result) :
    events.IsChain Adjacent ∧
      ∃ state rest, events = .report state :: rest := by
  induction trace with
  | reachable attempt =>
      exact ⟨by simp [Adjacent, WakeEvent.isAnnouncement,
        WakeEvent.isAnnounced, WakeEvent.announces, WakeState.isProgress],
        _, _, rfl⟩
  | failed attempt error =>
      exact ⟨by simp [Adjacent, WakeEvent.isAnnouncement,
        WakeEvent.isAnnounced, WakeEvent.announces, WakeState.isProgress],
        _, _, rfl⟩
  | deadline attempt reading passed =>
      exact ⟨by simp [Adjacent, WakeEvent.isAnnouncement,
        WakeEvent.isAnnounced, WakeEvent.announces, WakeState.isProgress],
        _, _, rfl⟩
  | again attempt reading early later inductionHypothesis =>
      obtain ⟨chain, state, rest, startsWithReport⟩ := inductionHypothesis
      subst startsWithReport
      have fromSleep := isChain_cons_report (.sleep target.probeInterval) rfl chain
      refine ⟨?_, _, _, rfl⟩
      simp [Adjacent, WakeEvent.isAnnouncement, WakeEvent.isAnnounced,
        WakeEvent.announces] at fromSleep ⊢
      exact fromSleep

/-- In every trace announcements and announced calls are neighbours. -/
theorem WakeTrace.adjacent
    {target : WakeTarget}
    {events : List WakeEvent}
    {result : Except WakeFailure Unit}
    (trace : WakeTrace target events result) :
    events.IsChain Adjacent := by
  cases trace with
  | connectFailed error =>
      simp [Adjacent, WakeEvent.isAnnouncement, WakeEvent.isAnnounced,
        WakeEvent.announces, WakeState.isProgress]
  | resolveFailed error =>
      simp [Adjacent, WakeEvent.isAnnouncement, WakeEvent.isAnnounced,
        WakeEvent.announces, WakeState.isProgress]
  | wakeFailed address error =>
      simp [Adjacent, WakeEvent.isAnnouncement, WakeEvent.isAnnounced,
        WakeEvent.announces, WakeState.isProgress]
  | probed address started later =>
      obtain ⟨chain, state, rest, startsWithReport⟩ := later.adjacent
      subst startsWithReport
      have fromNow := isChain_cons_report (.now started) rfl chain
      simp [Adjacent, WakeEvent.isAnnouncement, WakeEvent.isAnnounced,
        WakeEvent.announces] at fromNow ⊢
      exact fromNow

/--
The failure an attempt returns is that of the only call that returned an error,
or the timeout when no call did.
-/
inductive FailureSource :
    List WakeFailure → Except WakeFailure Unit → Prop where
  | succeeded :
      FailureSource [] (.ok ())
  | erredCall
      (failure : WakeFailure)
      (notTimeout : failure.stage ≠ .timeout) :
      FailureSource [failure] (.error failure)
  | timedOut
      (failure : WakeFailure)
      (isTimeout : failure.stage = .timeout) :
      FailureSource [] (.error failure)

/-- The failure source of the probe part of a trace. -/
theorem ProbeTrace.failureSource
    {target : WakeTarget}
    {address : Ipv4Addr}
    {started : Instant}
    {attempt : Nat}
    {events : List WakeEvent}
    {result : Except WakeFailure Unit}
    (trace : ProbeTrace target address started attempt events result) :
    FailureSource (failures events) result := by
  induction trace with
  | reachable attempt =>
      exact .succeeded
  | failed attempt error =>
      exact .erredCall _ (by simp)
  | deadline attempt reading passed =>
      exact .timedOut _ rfl
  | again attempt reading early later inductionHypothesis =>
      exact inductionHypothesis

/-- The failure source of a complete trace. -/
theorem WakeTrace.failureSource
    {target : WakeTarget}
    {events : List WakeEvent}
    {result : Except WakeFailure Unit}
    (trace : WakeTrace target events result) :
    FailureSource (failures events) result := by
  cases trace with
  | connectFailed error =>
      exact .erredCall _ (by simp)
  | resolveFailed error =>
      exact .erredCall _ (by simp)
  | wakeFailed address error =>
      exact .erredCall _ (by simp)
  | probed address started later =>
      exact later.failureSource

/-- Probe traces end with the closing events and report no failure before. -/
theorem ProbeTrace.closing
    {target : WakeTarget}
    {address : Ipv4Addr}
    {started : Instant}
    {attempt : Nat}
    {events : List WakeEvent}
    {result : Except WakeFailure Unit}
    (trace : ProbeTrace target address started attempt events result) :
    ∃ body,
      events = body ++ closing result ∧
        ∀ failure, .report (.failed failure) ∉ body := by
  induction trace with
  | reachable attempt =>
      refine ⟨[_, _, _], rfl, ?_⟩
      simp
  | failed attempt error =>
      refine ⟨[_, _], rfl, ?_⟩
      simp
  | deadline attempt reading passed =>
      refine ⟨[_, _, _], rfl, ?_⟩
      simp
  | again attempt reading early later inductionHypothesis =>
      obtain ⟨body, shape, plain⟩ := inductionHypothesis
      refine ⟨_ :: _ :: _ :: _ :: body, by rw [shape]; rfl, ?_⟩
      simpa using plain

/-- Every trace ends with the closing events and reports no failure before. -/
theorem WakeTrace.closing
    {target : WakeTarget}
    {events : List WakeEvent}
    {result : Except WakeFailure Unit}
    (trace : WakeTrace target events result) :
    ∃ body,
      events = body ++ closing result ∧
        ∀ failure, .report (.failed failure) ∉ body := by
  cases trace with
  | connectFailed error =>
      refine ⟨[_, _], rfl, ?_⟩
      simp
  | resolveFailed error =>
      refine ⟨[_, _, _, _], rfl, ?_⟩
      simp
  | wakeFailed address error =>
      refine ⟨[_, _, _, _, _, _], rfl, ?_⟩
      simp
  | probed address started later =>
      obtain ⟨body, shape, plain⟩ := later.closing
      refine ⟨_ :: _ :: _ :: _ :: _ :: _ :: _ :: body,
        by rw [shape]; rfl, ?_⟩
      simpa using plain

/-- Announcements are progress states. -/
theorem announcement_isProgress (index : Nat) :
    (announcement index).isProgress = true := by
  match index with
  | 0 | 1 | 2 => rfl
  | index + 3 => rfl

/-- A state that is not a progress state is reported only as the terminal one. -/
theorem WakeTrace.mem_reports
    {target : WakeTarget}
    {events : List WakeEvent}
    {result : Except WakeFailure Unit}
    (trace : WakeTrace target events result)
    {state : WakeState}
    (notProgress : state.isProgress = false) :
    state ∈ Waker.reports events ↔ state = terminalState result := by
  rw [trace.reports, List.mem_append, List.mem_singleton]
  constructor
  · rintro (announced | terminal)
    · obtain ⟨index, _, shape⟩ := List.mem_map.mp announced
      rw [← shape, announcement_isProgress] at notProgress
      cases notProgress
    · exact terminal
  · exact Or.inr

namespace BackendCall

@[simp] theorem failure?_eq_connect
    (call : BackendCall)
    (detail : String) :
    call.failure? = some ⟨.connect, detail⟩ ↔
      call = .connect (.error ⟨detail⟩) := by
  rcases call with ⟨⟨⟨_⟩⟩ | _⟩ | ⟨_, _ | _⟩ | ⟨_, _ | _⟩ | ⟨_, _ | _⟩ | _ <;>
    simp [failure?]

@[simp] theorem failure?_eq_resolveTarget
    (call : BackendCall)
    (detail : String) :
    call.failure? = some ⟨.resolveTarget, detail⟩ ↔
      ∃ mac, call = .resolveTargetIpv4 mac (.error ⟨detail⟩) := by
  rcases call with ⟨_ | _⟩ | ⟨_, ⟨⟨_⟩⟩ | _⟩ | ⟨_, _ | _⟩ | ⟨_, _ | _⟩ | _ <;>
    simp [failure?]

@[simp] theorem failure?_eq_wakeRequest
    (call : BackendCall)
    (detail : String) :
    call.failure? = some ⟨.wakeRequest, detail⟩ ↔
      ∃ mac, call = .sendWake mac (.error ⟨detail⟩) := by
  rcases call with ⟨_ | _⟩ | ⟨_, _ | _⟩ | ⟨_, ⟨⟨_⟩⟩ | _⟩ | ⟨_, _ | _⟩ | _ <;>
    simp [failure?]

@[simp] theorem failure?_eq_probe
    (call : BackendCall)
    (detail : String) :
    call.failure? = some ⟨.probe, detail⟩ ↔
      ∃ address, call = .probe address (.error ⟨detail⟩) := by
  rcases call with ⟨_ | _⟩ | ⟨_, _ | _⟩ | ⟨_, _ | _⟩ | ⟨_, ⟨⟨_⟩⟩ | _⟩ | _ <;>
    simp [failure?]

end BackendCall

namespace FailureSource

variable {events : List WakeEvent} {failure : WakeFailure}

/-- Every failed call explains the returned failure. -/
theorem single
    (source : FailureSource (failures events) (.error failure))
    {other : WakeFailure}
    (member : other ∈ failures events) :
    other = failure := by
  generalize failures events = found at source member
  cases source with
  | erredCall _ notTimeout =>
      simpa using member
  | timedOut _ isTimeout =>
      simp at member

/-- Only a timeout comes without a failed call. -/
theorem timeout_iff
    (source : FailureSource (failures events) (.error failure)) :
    failure.stage = .timeout ↔ failures events = [] := by
  generalize failures events = found at source
  cases source with
  | erredCall _ notTimeout =>
      simpa using notTimeout
  | timedOut _ isTimeout =>
      simpa using isTimeout

/--
A stage other than the timeout is returned exactly when a call of that stage
returned an error, whose text is the detail.
-/
theorem stage_iff
    (source : FailureSource (failures events) (.error failure))
    {stage : WakeFailureStage}
    (notTimeout : stage ≠ .timeout) :
    failure.stage = stage ↔
      ∃ call,
        call ∈ calls events ∧
          call.failure? = some ⟨stage, failure.detail⟩ := by
  constructor
  · intro sameStage
    subst sameStage
    have nonempty : failures events ≠ [] :=
      fun empty => notTimeout (source.timeout_iff.mpr empty)
    obtain ⟨other, rest, shape⟩ := List.exists_cons_of_ne_nil nonempty
    have member : other ∈ failures events := by
      simp [shape]
    rw [source.single member] at member
    exact List.mem_filterMap.mp member
  · rintro ⟨call, member, caused⟩
    have sameFailure :=
      source.single (List.mem_filterMap.mpr ⟨call, member, caused⟩)
    exact (congrArg WakeFailure.stage sameFailure).symm

end FailureSource

/-- Every trace starts by announcing the connection. -/
theorem WakeTrace.startsWithReport
    {target : WakeTarget}
    {events : List WakeEvent}
    {result : Except WakeFailure Unit}
    (trace : WakeTrace target events result) :
    events.head? = some (.report .connecting) := by
  cases trace <;> rfl

/--
The reports of every returned wake attempt announce its calls in order, and
end in the one terminal state that repeats the returned result.
-/
theorem runWake_reportFidelity
    {World : Type}
    {backend : WakeBackend World}
    {clock : Clock World}
    {target : WakeTarget}
    {fuel : Nat}
    {world : World}
    {run : WakeRun World}
    (returned : runWake backend clock target fuel world = some run) :
    ReportFidelity run.events run.result := by
  have trace := runWake_trace returned
  have source := trace.failureSource
  refine {
    sequence := trace.reports
    startsWithReport := trace.startsWithReport
    adjacent := trace.adjacent
    awakeExactly := ?_
    failedExactly := ?_
    connectExactly := ?_
    resolveTargetExactly := ?_
    wakeRequestExactly := ?_
    probeExactly := ?_
    timeoutExactly := ?_
    singleFailure := ?_
    idleNever := ?_
    failedAfterDisconnect := trace.closing
  }
  · rw [trace.mem_reports rfl]
    cases run.result <;> simp [terminalState]
  · intro failure
    rw [trace.mem_reports rfl]
    cases run.result <;> simp [terminalState, eq_comm]
  · intro failure failed
    rw [failed] at source
    simp [source.stage_iff]
  · intro failure failed
    rw [failed] at source
    rw [source.stage_iff (by simp)]
    simp [and_comm]
  · intro failure failed
    rw [failed] at source
    rw [source.stage_iff (by simp)]
    simp [and_comm]
  · intro failure failed
    rw [failed] at source
    rw [source.stage_iff (by simp)]
    simp [and_comm]
  · intro failure failed
    rw [failed] at source
    exact source.timeout_iff
  · intro failure other failed member
    rw [failed] at source
    exact source.single member
  · rw [trace.mem_reports rfl]
    cases run.result <;> simp [terminalState]

/-- The fidelity on an attempt whose second probe succeeds. -/
theorem runWake_reportFidelity_secondProbe :
    ∃ run,
      runWake Replay.backend Replay.clock Replay.target 2
          Replay.secondProbe = some run ∧
        ReportFidelity run.events run.result := by
  obtain ⟨run, returned⟩ :
      ∃ run,
        runWake Replay.backend Replay.clock Replay.target 2
          Replay.secondProbe = some run :=
    ⟨_, rfl⟩
  exact ⟨run, returned, runWake_reportFidelity returned⟩

end Waker
