import Waker.AppSystem

namespace Waker

open ReportingThread

/-!
# The invariant of the application state

`UiInvariant` relates the flags, receivers and deadlines of the application.
Every operation preserves it, whatever the clock reads and however far the
start of a worker gets, as long as the drained worker is sound.
-/

/-- A displayed diagnostic result exists and belongs to a finished check. -/
def DiagnosticCheck.Consistent (check : DiagnosticCheck) : Prop :=
  check.statusDeadline.isSome →
    check.status.isSome ∧ check.checkRx = none

/-- How the fields of the application state belong together. -/
structure UiInvariant (app : WakerApp) : Prop where
  busy_stateRx : app.busy = app.stateRx.isSome
  busy_activeAttempt : app.busy = app.activeAttempt.isSome
  busy_state : app.busy = app.state.isProgress
  resting : app.busy = false → app.state = .idle ∨ app.state.isTerminal
  deadline : app.terminalStateDeadline.isSome = app.state.isTerminal
  wakeAlone :
    app.busy → app.hostStatus.checkRx = none ∧ app.ping.checkRx = none
  checkAlone :
    app.hostStatus.checkRx.isSome → app.ping.checkRx = none
  hostStatus : app.hostStatus.Consistent
  ping : app.ping.Consistent

/-- The state in which a drain of the worker's channel ends the attempt. -/
inductive EndsIn (thread : ReportingThread WakeState) : WakeState → Prop where
  | reported
      {state : WakeState}
      (waiting : state ∈ thread.unread)
      (terminal : wakeProtocol.terminal state = true) :
      EndsIn thread state
  | lost
      (disconnected : thread.disconnected = true)
      (progress :
        ∀ state, state ∈ thread.unread → state.isProgress = true) :
      EndsIn thread (.failed lostWorkerFailure)

/-- An attempt ends in a terminal state. -/
theorem EndsIn.isTerminal
    {thread : ReportingThread WakeState}
    {state : WakeState}
    (outcome : EndsIn thread state) :
    state.isTerminal = true := by
  cases outcome with
  | reported waiting terminal =>
      exact isTerminal_of_terminal terminal
  | lost disconnected progress =>
      rfl

namespace WakerApp

variable {app : WakerApp}

/-- The summary of an attempt that ends in a state. -/
def summaryOf
    (active : ActiveAttempt)
    (elapsedAt : Instant)
    (state : WakeState) : AttemptSummary where
  elapsed := elapsedAt.durationSince active.started
  failure := state.failure?

/-- What finishing the active attempt does in a terminal state. -/
theorem finishAttempt_eq
    (elapsedAt shownAt : Instant)
    {active : ActiveAttempt}
    (isActive : app.activeAttempt = some active)
    (terminal : app.state.isTerminal) :
    app.finishAttempt elapsedAt shownAt =
      ({ app with
          activeAttempt := none
          lastAttempt := some (summaryOf active elapsedAt app.state)
          confettiPending :=
            if app.state = .awake then true else app.confettiPending
          terminalStateDeadline :=
            some (shownAt + TERMINAL_STATE_DISPLAY_DURATION) },
        [.finished active (summaryOf active elapsedAt app.state)]) := by
  simp [finishAttempt, isActive, terminal, summaryOf]

/-- What the receive loop leaves when all messages are progress. -/
theorem drainLoop_of_progress
    {disconnected : Bool}
    {messages : List WakeState}
    (progress :
      ∀ state, state ∈ messages → state.isProgress = true) :
    drainLoop disconnected messages false app =
      if disconnected && app.busy then
        (true, { app with state := .failed lostWorkerFailure })
      else
        (false, { app with state := messages.getLast?.getD app.state }) := by
  induction messages generalizing app with
  | nil =>
      simp [drainLoop]
  | cons state rest inductionHypothesis =>
      have notTerminal :=
        WakeState.not_isTerminal_of_isProgress (progress state (by simp))
      rw [drainLoop, notTerminal, Bool.or_false,
        inductionHypothesis fun other member =>
          progress other (by simp [member])]
      cases rest <;> simp [List.getLast?_cons]

/-- What the receive loop leaves when the last message is terminal. -/
theorem drainLoop_of_terminal
    {disconnected terminal : Bool}
    {earlier : List WakeState}
    {last : WakeState}
    (isTerminal : last.isTerminal) :
    drainLoop disconnected (earlier ++ [last]) terminal app =
      (true, { app with state := last }) := by
  induction earlier generalizing app terminal with
  | nil =>
      simp [drainLoop, isTerminal]
  | cons state rest inductionHypothesis =>
      rw [List.cons_append, drainLoop, inductionHypothesis]

/-- The attempt ends in a state. -/
def concluded (state : WakeState) (app : WakerApp) : WakerApp :=
  { app with state := state, busy := false, stateRx := none }

/--
Draining a sound worker's channel either shows the last progress report or
ends the attempt, in the reported terminal state or as a vanished worker.
-/
theorem drainStateUpdates_cases
    (elapsedAt shownAt : Instant)
    {thread : ReportingThread WakeState}
    (sound : Sound wakeProtocol thread)
    (busy : app.busy = true) :
    (thread.disconnected = false ∧
        (∀ state, state ∈ thread.unread → state.isProgress = true) ∧
        app.drainStateUpdates elapsedAt shownAt thread.unread
            thread.disconnected =
          ({ app with state := thread.unread.getLast?.getD app.state },
            [])) ∨
    (∃ state,
        EndsIn thread state ∧
        app.drainStateUpdates elapsedAt shownAt thread.unread
            thread.disconnected =
          (app.concluded state).finishAttempt elapsedAt shownAt) := by
  rcases sound.unread_cases with
    progress | ⟨earlier, last, same, _, terminal⟩
  · have drained :=
      @drainLoop_of_progress app thread.disconnected _ progress
    cases disconnected : thread.disconnected with
    | false =>
        refine .inl ⟨rfl, progress, ?_⟩
        rw [disconnected] at drained
        simp [drainStateUpdates, drained]
    | true =>
        refine .inr ⟨.failed lostWorkerFailure,
          .lost disconnected progress, ?_⟩
        rw [disconnected] at drained
        simp [drainStateUpdates, drained, busy, concluded]
  · refine .inr ⟨last, .reported (by simp [same]) terminal, ?_⟩
    have isTerminal := isTerminal_of_terminal terminal
    simp [drainStateUpdates, same, drainLoop_of_terminal isTerminal,
      concluded]

end WakerApp

namespace UiInvariant

variable {app : WakerApp}

/-- A new application satisfies the invariant. -/
theorem new : UiInvariant .new where
  busy_stateRx := rfl
  busy_activeAttempt := rfl
  busy_state := rfl
  resting _ := .inl rfl
  deadline := rfl
  wakeAlone busy := by
    cases busy
  checkAlone some := by
    cases some
  hostStatus some := by
    cases some
  ping some := by
    cases some

/-- A terminal state is not a progress state. -/
theorem isProgress_of_isTerminal
    {state : WakeState}
    (terminal : state.isTerminal) :
    state.isProgress = false := by
  cases state <;> simp_all [WakeState.isProgress, WakeState.isTerminal]

/-- Finishing the active attempt in a terminal state restores the invariant. -/
theorem finishAttempt
    (elapsedAt shownAt : Instant)
    {active : ActiveAttempt}
    (isActive : app.activeAttempt = some active)
    (terminal : app.state.isTerminal)
    (idle : app.busy = false)
    (noReceiver : app.stateRx = none)
    (checkAlone :
      app.hostStatus.checkRx.isSome → app.ping.checkRx = none)
    (hostStatus : app.hostStatus.Consistent)
    (ping : app.ping.Consistent) :
    UiInvariant (app.finishAttempt elapsedAt shownAt).1 := by
  rw [WakerApp.finishAttempt_eq elapsedAt shownAt isActive terminal]
  exact {
    busy_stateRx := by simp [idle, noReceiver]
    busy_activeAttempt := by simp [idle]
    busy_state := by simp [idle, isProgress_of_isTerminal terminal]
    resting := fun _ => .inr terminal
    deadline := by simp [terminal]
    wakeAlone := fun busy => by simp [idle] at busy
    checkAlone := checkAlone
    hostStatus := hostStatus
    ping := ping
  }

/-- Ending a running attempt in a terminal state restores the invariant. -/
theorem concluded
    (ui : UiInvariant app)
    (elapsedAt shownAt : Instant)
    {state : WakeState}
    (busy : app.busy = true)
    (terminal : state.isTerminal) :
    UiInvariant
      ((app.concluded state).finishAttempt elapsedAt shownAt).1 := by
  obtain ⟨active, isActive⟩ :=
    Option.isSome_iff_exists.mp (ui.busy_activeAttempt ▸ busy)
  exact finishAttempt elapsedAt shownAt isActive terminal rfl rfl
    ui.checkAlone ui.hostStatus ui.ping

/-- A further progress report keeps the invariant. -/
theorem progress
    (ui : UiInvariant app)
    {state : WakeState}
    (busy : app.busy = true)
    (progress : state.isProgress) :
    UiInvariant { app with state := state } where
  busy_stateRx := ui.busy_stateRx
  busy_activeAttempt := ui.busy_activeAttempt
  busy_state := by simp [busy, progress]
  resting idle := by simp [busy] at idle
  deadline := by
    have before := ui.deadline
    rw [WakeState.not_isTerminal_of_isProgress (ui.busy_state ▸ busy)]
      at before
    simp [before, WakeState.not_isTerminal_of_isProgress progress]
  wakeAlone := ui.wakeAlone
  checkAlone := ui.checkAlone
  hostStatus := ui.hostStatus
  ping := ui.ping

/-- What ending a running attempt does. -/
theorem exists_concluded
    (ui : UiInvariant app)
    (elapsedAt shownAt : Instant)
    {state : WakeState}
    (busy : app.busy = true)
    (terminal : state.isTerminal) :
    ∃ active,
      app.activeAttempt = some active ∧
      (app.concluded state).finishAttempt elapsedAt shownAt =
        ({ app.concluded state with
            activeAttempt := none
            lastAttempt :=
              some (WakerApp.summaryOf active elapsedAt state)
            confettiPending :=
              if state = .awake then true else app.confettiPending
            terminalStateDeadline :=
              some (shownAt + TERMINAL_STATE_DISPLAY_DURATION) },
          [.finished active
            (WakerApp.summaryOf active elapsedAt state)]) := by
  obtain ⟨active, isActive⟩ :=
    Option.isSome_iff_exists.mp (ui.busy_activeAttempt ▸ busy)
  exact ⟨active, isActive,
    WakerApp.finishAttempt_eq elapsedAt shownAt isActive terminal⟩

/-- Draining a sound worker's channel keeps the invariant. -/
theorem drainStateUpdates
    (ui : UiInvariant app)
    (elapsedAt shownAt : Instant)
    {thread : ReportingThread WakeState}
    (sound : Sound wakeProtocol thread)
    (busy : app.busy = true) :
    UiInvariant
      (app.drainStateUpdates elapsedAt shownAt thread.unread
        thread.disconnected).1 := by
  rcases WakerApp.drainStateUpdates_cases elapsedAt shownAt sound busy with
    ⟨_, progress, same⟩ | ⟨state, outcome, same⟩
  · rw [same]
    refine ui.progress busy ?_
    cases found : thread.unread.getLast? with
    | none =>
        exact ui.busy_state ▸ busy
    | some last =>
        exact progress last (List.mem_of_getLast? found)
  · rw [same]
    exact ui.concluded elapsedAt shownAt busy outcome.isTerminal

/-- A finished or unchanged check keeps the invariant. -/
theorem drain_consistent
    {check : DiagnosticCheck}
    (consistent : check.Consistent)
    (lost : String)
    (now : Instant)
    (received : Except TryRecvError (Except String Bool)) :
    (check.drain lost now received).Consistent := by
  rcases received with ⟨_ | _⟩ | result
  · exact consistent
  · exact fun _ => ⟨rfl, rfl⟩
  · exact fun _ => ⟨rfl, rfl⟩

/-- Draining a check never sets its receiver. -/
theorem drain_checkRx
    {check : DiagnosticCheck}
    (lost : String)
    (now : Instant)
    (received : Except TryRecvError (Except String Bool)) :
    (check.drain lost now received).checkRx = none ∨
      check.drain lost now received = check := by
  rcases received with ⟨_ | _⟩ | result
  · exact .inr rfl
  · exact .inl rfl
  · exact .inl rfl

/-- The invariant survives changes of the checks that start none. -/
theorem withChecks
    (ui : UiInvariant app)
    {hostStatus ping : DiagnosticCheck}
    (hostStatusConsistent : hostStatus.Consistent)
    (pingConsistent : ping.Consistent)
    (hostKept :
      hostStatus.checkRx = none ∨
        hostStatus.checkRx = app.hostStatus.checkRx)
    (pingKept :
      ping.checkRx = none ∨ ping.checkRx = app.ping.checkRx) :
    UiInvariant { app with hostStatus := hostStatus, ping := ping } where
  busy_stateRx := ui.busy_stateRx
  busy_activeAttempt := ui.busy_activeAttempt
  busy_state := ui.busy_state
  resting := ui.resting
  deadline := ui.deadline
  wakeAlone busy := by
    obtain ⟨noHost, noPing⟩ := ui.wakeAlone busy
    rw [noHost, or_self] at hostKept
    rw [noPing, or_self] at pingKept
    exact ⟨hostKept, pingKept⟩
  checkAlone checking := by
    rcases hostKept with none | kept
    · simp [none] at checking
    · rw [ui.checkAlone (kept ▸ checking), or_self] at pingKept
      exact pingKept
  hostStatus := hostStatusConsistent
  ping := pingConsistent

/-- Draining the host status check keeps the invariant. -/
theorem drainHostStatusUpdate
    (ui : UiInvariant app)
    (now : Instant)
    (received : Except TryRecvError (Except String Bool)) :
    UiInvariant (app.drainHostStatusUpdate now received) :=
  ui.withChecks (drain_consistent ui.hostStatus _ now received) ui.ping
    ((drain_checkRx _ now received).imp_right
      fun same => congrArg DiagnosticCheck.checkRx same)
    (.inr rfl)

/-- Draining the ping keeps the invariant. -/
theorem drainPingUpdate
    (ui : UiInvariant app)
    (now : Instant)
    (received : Except TryRecvError (Except String Bool)) :
    UiInvariant (app.drainPingUpdate now received) :=
  ui.withChecks ui.hostStatus (drain_consistent ui.ping _ now received)
    (.inr rfl)
    ((drain_checkRx _ now received).imp_right
      fun same => congrArg DiagnosticCheck.checkRx same)

/-- The timeout of a terminal state keeps the invariant. -/
theorem updateTerminalStateTimeout
    (ui : UiInvariant app)
    (now : Instant) :
    UiInvariant (app.updateTerminalStateTimeout now).1 := by
  unfold WakerApp.updateTerminalStateTimeout
  cases deadline : app.terminalStateDeadline with
  | none =>
      exact ui
  | some value =>
      have terminal : app.state.isTerminal = true := by
        rw [← ui.deadline, deadline, Option.isSome_some]
      have idle : app.busy = false :=
        ui.busy_state.trans (isProgress_of_isTerminal terminal)
      simp only [terminal, Bool.not_true, Bool.false_eq_true, if_false]
      split
      · exact {
          busy_stateRx := ui.busy_stateRx
          busy_activeAttempt := ui.busy_activeAttempt
          busy_state := idle
          resting := fun _ => .inl rfl
          deadline := rfl
          wakeAlone := ui.wakeAlone
          checkAlone := ui.checkAlone
          hostStatus := ui.hostStatus
          ping := ui.ping
        }
      · exact ui

/-- The timeout of a diagnostic result keeps it consistent. -/
theorem updateTimeout_consistent
    {check : DiagnosticCheck}
    (consistent : check.Consistent)
    (now : Instant) :
    (check.updateTimeout now).1.Consistent ∧
      (check.updateTimeout now).1.checkRx = check.checkRx := by
  unfold DiagnosticCheck.updateTimeout
  cases deadline : check.statusDeadline with
  | none =>
      exact ⟨consistent, rfl⟩
  | some value =>
      simp only
      split
      · exact ⟨fun shown => (by cases shown), rfl⟩
      · exact ⟨consistent, rfl⟩

/-- The timeouts of the diagnostic results keep the invariant. -/
theorem updateDiagnosticResultTimeouts
    (ui : UiInvariant app)
    (now : Instant) :
    UiInvariant (app.updateDiagnosticResultTimeouts now).1 :=
  ui.withChecks
    (updateTimeout_consistent ui.hostStatus now).1
    (updateTimeout_consistent ui.ping now).1
    (.inr (updateTimeout_consistent ui.hostStatus now).2)
    (.inr (updateTimeout_consistent ui.ping now).2)

/-- Starting the confetti keeps the invariant. -/
theorem startConfetti
    (ui : UiInvariant app)
    (now : Instant) :
    UiInvariant (app.startConfetti now) := by
  unfold WakerApp.startConfetti
  split
  · exact { ui with }
  · exact ui

/-- Painting the confetti keeps the invariant. -/
theorem paintConfetti
    (ui : UiInvariant app)
    (now : Instant) :
    UiInvariant (app.paintConfetti now).1 := by
  unfold WakerApp.paintConfetti
  split
  · exact ui
  · split
    · exact { ui with }
    · exact ui

/-- An enabled wake button means that nothing is running. -/
theorem idle_of_wakeEnabled
    (enabled : app.wakeEnabled = true) :
    app.busy = false ∧ app.hostStatus.checkRx = none ∧
      app.ping.checkRx = none := by
  simp only [WakerApp.wakeEnabled, Bool.and_eq_true, Bool.not_eq_true',
    Option.isNone_iff_eq_none] at enabled
  exact ⟨enabled.1.1.1, enabled.1.2, enabled.2⟩

/-- An enabled diagnostic button means that nothing is running. -/
theorem idle_of_diagnosticActionEnabled
    (enabled : app.diagnosticActionEnabled = true) :
    app.busy = false ∧ app.hostStatus.checkRx = none ∧
      app.ping.checkRx = none := by
  simp only [WakerApp.diagnosticActionEnabled, Bool.and_eq_true,
    Bool.not_eq_true', Option.isNone_iff_eq_none] at enabled
  exact ⟨enabled.1.1, enabled.1.2, enabled.2⟩

/-- An idle application has no receiver. -/
theorem stateRx_eq_none
    (ui : UiInvariant app)
    (idle : app.busy = false) :
    app.stateRx = none := by
  rw [← Option.not_isSome_iff_eq_none, ← ui.busy_stateRx, idle]
  exact Bool.false_ne_true

/-- Beginning an attempt keeps the invariant. -/
theorem beginWake
    (ui : UiInvariant app)
    (enabled : app.wakeEnabled = true)
    (channel : Nat)
    (attempt : ActiveAttempt)
    (elapsedAt shownAt : Instant)
    (started : WakeStart) :
    UiInvariant
      (app.beginWake channel attempt elapsedAt shownAt started).1 := by
  obtain ⟨idle, noHost, noPing⟩ := idle_of_wakeEnabled enabled
  cases started with
  | rejected message =>
      exact finishAttempt elapsedAt shownAt rfl rfl rfl
        (ui.stateRx_eq_none idle) ui.checkAlone ui.hostStatus ui.ping
  | notSpawned job error =>
      exact finishAttempt elapsedAt shownAt rfl rfl rfl rfl
        ui.checkAlone ui.hostStatus ui.ping
  | spawned job body =>
      exact {
        busy_stateRx := rfl
        busy_activeAttempt := rfl
        busy_state := rfl
        resting := fun idle => by cases idle
        deadline := rfl
        wakeAlone := fun _ => ⟨noHost, noPing⟩
        checkAlone := ui.checkAlone
        hostStatus := ui.hostStatus
        ping := ui.ping
      }

/-- A thread that could not be created is not a vanished worker. -/
theorem notSpawnedFailure_ne (error : String) :
    notSpawnedFailure error ≠ lostWorkerFailure := by
  intro same
  have firstLetter :=
    congrArg (fun failure => failure.detail.toList.head?) same
  simp [notSpawnedFailure, lostWorkerFailure] at firstLetter

/-- The failures of attempts that are given up before a worker exists. -/
def IsRefusal (failure : WakeFailure) : Prop :=
  failure.stage = .configuration ∨
    ∃ error, failure = notSpawnedFailure error

/-- An attempt that was given up at once has lost no worker. -/
theorem IsRefusal.ne_lostWorkerFailure
    {failure : WakeFailure}
    (refusal : IsRefusal failure) :
    failure ≠ lostWorkerFailure := by
  rcases refusal with configuration | ⟨error, rfl⟩
  · rintro rfl
    cases configuration
  · exact notSpawnedFailure_ne error

/-- Beginning an attempt either gives it up at once or spawns its worker. -/
theorem beginWake_cases
    (ui : UiInvariant app)
    (enabled : app.wakeEnabled = true)
    (channel : Nat)
    (attempt : ActiveAttempt)
    (elapsedAt shownAt : Instant)
    (started : WakeStart) :
    (∃ failure,
      IsRefusal failure ∧
      app.beginWake channel attempt elapsedAt shownAt started =
        ({ app with
            state := .failed failure
            stateRx := none
            busy := false
            activeAttempt := none
            lastAttempt :=
              some (WakerApp.summaryOf attempt elapsedAt (.failed failure))
            terminalStateDeadline :=
              some (shownAt + TERMINAL_STATE_DISPLAY_DURATION) },
          [.began attempt (.refused failure),
            .finished attempt
              (WakerApp.summaryOf attempt elapsedAt (.failed failure))])) ∨
    (∃ (target : WakeTarget) (body : WakeBody target),
      app.beginWake channel attempt elapsedAt shownAt started =
        ({ app with
            state := .connecting
            stateRx := some channel
            busy := true
            activeAttempt := some attempt
            terminalStateDeadline := none },
          [.began attempt (.worker channel),
            .spawnWake body.program])) := by
  have noReceiver :=
    ui.stateRx_eq_none (idle_of_wakeEnabled enabled).1
  cases started with
  | rejected message =>
      refine .inl ⟨⟨.configuration, message⟩, .inl rfl, ?_⟩
      rw [← noReceiver]
      rfl
  | notSpawned job error =>
      exact .inl ⟨_, .inr ⟨error, rfl⟩, rfl⟩
  | spawned job body =>
      exact .inr ⟨job.target, body, rfl⟩

/-- What the start of a check does to its receiver and its result. -/
theorem start_consistent
    {check : DiagnosticCheck}
    (noReceiver : check.checkRx = none)
    (channel : Nat)
    (now : Instant)
    (started : CheckStart) :
    (check.start channel now started).1.Consistent := by
  cases started with
  | rejected message =>
      exact fun _ => ⟨rfl, noReceiver⟩
  | notSpawned job error =>
      exact fun _ => ⟨rfl, rfl⟩
  | spawned job body =>
      exact fun shown => by cases shown

/-- An enabled host status check passes its guard. -/
theorem beginHostStatusCheck_eq
    (enabled : app.diagnosticActionEnabled = true)
    (channel : Nat)
    (now : Instant)
    (started : CheckStart) :
    app.beginHostStatusCheck channel now started =
      ({ app with
          hostStatus := (app.hostStatus.start channel now started).1 },
        (app.hostStatus.start channel now started).2) := by
  obtain ⟨idle, noHost, noPing⟩ :=
    idle_of_diagnosticActionEnabled enabled
  have guard :
      (app.busy || app.hostStatus.checkRx.isSome ||
        app.ping.checkRx.isSome) = false := by
    simp [idle, noHost, noPing]
  rw [WakerApp.beginHostStatusCheck, guard]
  rfl

/-- An enabled ping passes its guard. -/
theorem beginPingCheck_eq
    (enabled : app.diagnosticActionEnabled = true)
    (channel : Nat)
    (now : Instant)
    (started : CheckStart) :
    app.beginPingCheck channel now started =
      ({ app with ping := (app.ping.start channel now started).1 },
        (app.ping.start channel now started).2) := by
  obtain ⟨idle, noHost, noPing⟩ :=
    idle_of_diagnosticActionEnabled enabled
  have guard :
      (app.busy || app.hostStatus.checkRx.isSome ||
        app.ping.checkRx.isSome) = false := by
    simp [idle, noHost, noPing]
  rw [WakerApp.beginPingCheck, guard]
  rfl

/-- Beginning a host status check keeps the invariant. -/
theorem beginHostStatusCheck
    (ui : UiInvariant app)
    (enabled : app.diagnosticActionEnabled = true)
    (channel : Nat)
    (now : Instant)
    (started : CheckStart) :
    UiInvariant (app.beginHostStatusCheck channel now started).1 := by
  obtain ⟨idle, noHost, noPing⟩ :=
    idle_of_diagnosticActionEnabled enabled
  rw [beginHostStatusCheck_eq enabled]
  exact {
    busy_stateRx := ui.busy_stateRx
    busy_activeAttempt := ui.busy_activeAttempt
    busy_state := ui.busy_state
    resting := ui.resting
    deadline := ui.deadline
    wakeAlone := fun busy => by simp [idle] at busy
    checkAlone := fun _ => noPing
    hostStatus := start_consistent noHost channel now started
    ping := ui.ping
  }

/-- Beginning a ping keeps the invariant. -/
theorem beginPingCheck
    (ui : UiInvariant app)
    (enabled : app.diagnosticActionEnabled = true)
    (channel : Nat)
    (now : Instant)
    (started : CheckStart) :
    UiInvariant (app.beginPingCheck channel now started).1 := by
  obtain ⟨idle, noHost, noPing⟩ :=
    idle_of_diagnosticActionEnabled enabled
  rw [beginPingCheck_eq enabled]
  exact {
    busy_stateRx := ui.busy_stateRx
    busy_activeAttempt := ui.busy_activeAttempt
    busy_state := ui.busy_state
    resting := ui.resting
    deadline := ui.deadline
    wakeAlone := fun busy => by simp [idle] at busy
    checkAlone := fun checking => by simp [noHost] at checking
    hostStatus := ui.hostStatus
    ping := start_consistent noPing channel now started
  }

end UiInvariant

end Waker
