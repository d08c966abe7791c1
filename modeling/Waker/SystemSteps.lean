import Waker.SystemInvariant

namespace Waker

open ReportingThread

/-!
# Everything a step of the system can do

`StepCase` lists, for a system that satisfies its invariant, the ways in which
a step changes the jobs: the receivers, the active attempt, the worker threads,
the history and the outstanding repaint requests.  The later results follow
from it without looking at the operations again.
-/

/-- The phase after an operation of the frame. -/
def FramePhase.next : FramePhase → FramePhase
  | .idle => .drainState
  | .drainState => .drainHostStatus
  | .drainHostStatus => .drainPing
  | .drainPing => .timeouts
  | .timeouts => .wakeButton
  | .wakeButton => .hostStatusButton
  | .hostStatusButton => .pingButton
  | .pingButton => .paintConfetti
  | .paintConfetti => .idle

/-- An operation that neither starts nor finishes a job. -/
structure SameJobs (before after : WakerApp) : Prop where
  stateRx : after.stateRx = before.stateRx
  hostRx : after.hostStatus.checkRx = before.hostStatus.checkRx
  pingRx : after.ping.checkRx = before.ping.checkRx
  busy : after.busy = before.busy
  activeAttempt : after.activeAttempt = before.activeAttempt
  state : before.busy = true → after.state = before.state
  confettiPending : after.confettiPending → before.confettiPending

/-- The application after an attempt has ended in a state. -/
structure Ended
    (state : WakeState)
    (before after : WakerApp) : Prop where
  stateRx : after.stateRx = none
  hostStatus : after.hostStatus = before.hostStatus
  ping : after.ping = before.ping
  busy : after.busy = false
  activeAttempt : after.activeAttempt = none
  confettiPending :
    after.confettiPending =
      (before.confettiPending || decide (state = .awake))

/-- The ways in which a step changes the jobs of a system. -/
inductive StepCase (system : AppSystem) :
    SystemStep → AppSystem → Prop where
  | beginFrame
      (input : Bool)
      (idle : system.phase = .idle) :
      StepCase system (.beginFrame input)
        { system with phase := .drainState, repaint := false }
  | pass
      (label : SystemStep)
      (app : WakerApp)
      (following : FramePhase)
      (repaint : Bool)
      (inFrame : system.phase ≠ .idle)
      (moved : system.phase.next = following)
      (stateDrained :
        system.phase = .drainState → system.app.stateRx = none)
      (hostDrained :
        system.phase = .drainHostStatus →
        system.app.hostStatus.checkRx = none)
      (pingDrained :
        system.phase = .drainPing → system.app.ping.checkRx = none)
      (celebrated :
        system.phase = .wakeButton → app.confettiPending = false)
      (same : SameJobs system.app app)
      (repaintKept : system.repaint → repaint) :
      StepCase system label
        { system with
          app := app
          phase := following
          repaint := repaint }
  | drainedProgress
      (elapsedAt shownAt : Instant)
      (channel : Nat)
      (thread : ReportingThread WakeState)
      (state : WakeState)
      (turn : system.phase = .drainState)
      (receiver : system.app.stateRx = some channel)
      (present : system.wakeThreads[channel]? = some thread)
      (connected : thread.disconnected = false)
      (shown : state ∈ thread.unread ∨ state = system.app.state)
      (progress :
        ∀ state, state ∈ thread.unread → state.isProgress = true) :
      StepCase system (.drainState elapsedAt shownAt)
        { system with
          app := { system.app with state := state }
          phase := .drainHostStatus
          wakeThreads :=
            system.wakeThreads.set channel
              (thread.take thread.unread.length) }
  | drainedEnd
      (elapsedAt shownAt : Instant)
      (channel : Nat)
      (thread : ReportingThread WakeState)
      (state : WakeState)
      (active : ActiveAttempt)
      (app : WakerApp)
      (turn : system.phase = .drainState)
      (receiver : system.app.stateRx = some channel)
      (present : system.wakeThreads[channel]? = some thread)
      (outcome : EndsIn thread state)
      (isActive : system.app.activeAttempt = some active)
      (ended : Ended state system.app app) :
      StepCase system (.drainState elapsedAt shownAt)
        { system with
          app := app
          phase := .drainHostStatus
          wakeThreads :=
            system.wakeThreads.set channel
              (thread.take thread.unread.length)
          history :=
            system.history ++
              [.finished active
                (WakerApp.summaryOf active elapsedAt state)] ++
              AppSystem.confettiRaised system.app app }
  | hostWaiting
      (now : Instant)
      (channel : Nat)
      (thread : ReportingThread (Except String Bool))
      (turn : system.phase = .drainHostStatus)
      (receiver : system.app.hostStatus.checkRx = some channel)
      (present : system.checkThreads[channel]? = some thread)
      (nothing : thread.tryRecv = .error .empty) :
      StepCase system (.drainHostStatus now)
        { system with
          phase := .drainPing
          checkThreads := system.checkThreads.set channel (thread.take 1) }
  | hostFinished
      (now : Instant)
      (channel : Nat)
      (thread : ReportingThread (Except String Bool))
      (check : DiagnosticCheck)
      (turn : system.phase = .drainHostStatus)
      (receiver : system.app.hostStatus.checkRx = some channel)
      (present : system.checkThreads[channel]? = some thread)
      (something : thread.tryRecv ≠ .error .empty)
      (finished : check.checkRx = none) :
      StepCase system (.drainHostStatus now)
        { system with
          app := { system.app with hostStatus := check }
          phase := .drainPing
          checkThreads := system.checkThreads.set channel (thread.take 1) }
  | pingWaiting
      (now : Instant)
      (channel : Nat)
      (thread : ReportingThread (Except String Bool))
      (turn : system.phase = .drainPing)
      (receiver : system.app.ping.checkRx = some channel)
      (present : system.checkThreads[channel]? = some thread)
      (nothing : thread.tryRecv = .error .empty) :
      StepCase system (.drainPing now)
        { system with
          phase := .timeouts
          checkThreads := system.checkThreads.set channel (thread.take 1) }
  | pingFinished
      (now : Instant)
      (channel : Nat)
      (thread : ReportingThread (Except String Bool))
      (check : DiagnosticCheck)
      (turn : system.phase = .drainPing)
      (receiver : system.app.ping.checkRx = some channel)
      (present : system.checkThreads[channel]? = some thread)
      (something : thread.tryRecv ≠ .error .empty)
      (finished : check.checkRx = none) :
      StepCase system (.drainPing now)
        { system with
          app := { system.app with ping := check }
          phase := .timeouts
          checkThreads := system.checkThreads.set channel (thread.take 1) }
  | wakeRefused
      (click : WakeClick)
      (now : Instant)
      (failure : WakeFailure)
      (app : WakerApp)
      (turn : system.phase = .wakeButton)
      (enabled : system.app.wakeEnabled = true)
      (refusal : UiInvariant.IsRefusal failure)
      (celebrated : app.confettiPending = false)
      (same : SameJobs system.app app) :
      StepCase system (.wakeButton (some click) now)
        { system with
          app := app
          phase := .hostStatusButton
          history :=
            system.history ++
              [.began click.attempt (.refused failure),
                .finished click.attempt
                  (WakerApp.summaryOf click.attempt click.elapsedAt
                    (.failed failure))] }
  | wakeSpawned
      (click : WakeClick)
      (now : Instant)
      (app : WakerApp)
      {target : WakeTarget}
      (body : WakeBody target)
      (turn : system.phase = .wakeButton)
      (enabled : system.app.wakeEnabled = true)
      (stateRx : app.stateRx = some system.wakeThreads.length)
      (hostStatus : app.hostStatus = system.app.hostStatus)
      (ping : app.ping = system.app.ping)
      (activeAttempt : app.activeAttempt = some click.attempt)
      (state : app.state = .connecting)
      (celebrated : app.confettiPending = false) :
      StepCase system (.wakeButton (some click) now)
        { system with
          app := app
          phase := .hostStatusButton
          wakeThreads := system.wakeThreads ++ [spawned body.program]
          history :=
            system.history ++
              [.began click.attempt
                (.worker system.wakeThreads.length)] }
  | hostSpawned
      (click : CheckClick)
      (check : DiagnosticCheck)
      (body : CheckBody)
      (turn : system.phase = .hostStatusButton)
      (enabled : system.app.diagnosticActionEnabled = true)
      (checkRx : check.checkRx = some system.checkThreads.length) :
      StepCase system (.hostStatusButton (some click))
        { system with
          app := { system.app with hostStatus := check }
          phase := .pingButton
          checkThreads := system.checkThreads ++ [spawned body.program] }
  | pingSpawned
      (click : CheckClick)
      (check : DiagnosticCheck)
      (body : CheckBody)
      (turn : system.phase = .pingButton)
      (enabled : system.app.diagnosticActionEnabled = true)
      (checkRx : check.checkRx = some system.checkThreads.length) :
      StepCase system (.pingButton (some click))
        { system with
          app := { system.app with ping := check }
          phase := .paintConfetti
          checkThreads := system.checkThreads ++ [spawned body.program] }
  | wakeAdvanced
      (channel : Nat)
      (thread next : ReportingThread WakeState)
      (notified : Bool)
      (present : system.wakeThreads[channel]? = some thread)
      (stepped : thread.advance? = some (next, notified)) :
      StepCase system (.wakeThread channel)
        { system with
          wakeThreads := system.wakeThreads.set channel next
          repaint := system.repaint || notified }
  | checkAdvanced
      (channel : Nat)
      (thread next : ReportingThread (Except String Bool))
      (notified : Bool)
      (present : system.checkThreads[channel]? = some thread)
      (stepped : thread.advance? = some (next, notified)) :
      StepCase system (.checkThread channel)
        { system with
          checkThreads := system.checkThreads.set channel next
          repaint := system.repaint || notified }
  | wakePanicked
      (channel : Nat)
      (thread next : ReportingThread WakeState)
      (present : system.wakeThreads[channel]? = some thread)
      (stepped : thread.panic? = some next) :
      StepCase system (.wakePanic channel)
        { system with wakeThreads := system.wakeThreads.set channel next }
  | checkPanicked
      (channel : Nat)
      (thread next : ReportingThread (Except String Bool))
      (present : system.checkThreads[channel]? = some thread)
      (stepped : thread.panic? = some next) :
      StepCase system (.checkPanic channel)
        { system with checkThreads := system.checkThreads.set channel next }

namespace SameJobs

variable {app : WakerApp}

/-- The terminal timeout touches no job. -/
theorem updateTerminalStateTimeout
    (ui : UiInvariant app)
    (now : Instant) :
    SameJobs app (app.updateTerminalStateTimeout now).1 := by
  unfold WakerApp.updateTerminalStateTimeout
  split
  · exact ⟨rfl, rfl, rfl, rfl, rfl, fun _ => rfl, id⟩
  · split
    · exact ⟨rfl, rfl, rfl, rfl, rfl, fun _ => rfl, id⟩
    · rename_i notProgress
      have idle : app.busy ≠ true := by
        rw [ui.busy_state]
        intro progress
        simp [WakeState.not_isTerminal_of_isProgress progress]
          at notProgress
      split
      · exact ⟨rfl, rfl, rfl, rfl, rfl, fun busy => (idle busy).elim, id⟩
      · exact ⟨rfl, rfl, rfl, rfl, rfl, fun _ => rfl, id⟩

/-- The timeout of a result touches no job. -/
theorem updateTimeout_checkRx (check : DiagnosticCheck) (now : Instant) :
    (check.updateTimeout now).1.checkRx = check.checkRx := by
  unfold DiagnosticCheck.updateTimeout
  split
  · rfl
  · split <;> rfl

/-- The diagnostic timeouts touch no job. -/
theorem updateDiagnosticResultTimeouts
    (app : WakerApp)
    (now : Instant) :
    SameJobs app (app.updateDiagnosticResultTimeouts now).1 where
  stateRx := rfl
  hostRx := updateTimeout_checkRx app.hostStatus now
  pingRx := updateTimeout_checkRx app.ping now
  busy := rfl
  activeAttempt := rfl
  state _ := rfl
  confettiPending := id

/-- Changes that touch no job compose. -/
theorem trans
    {first second third : WakerApp}
    (one : SameJobs first second)
    (two : SameJobs second third) :
    SameJobs first third where
  stateRx := two.stateRx.trans one.stateRx
  hostRx := two.hostRx.trans one.hostRx
  pingRx := two.pingRx.trans one.pingRx
  busy := two.busy.trans one.busy
  activeAttempt := two.activeAttempt.trans one.activeAttempt
  state busy := (two.state (one.busy.trans busy)).trans (one.state busy)
  confettiPending := one.confettiPending ∘ two.confettiPending

/-- An application touches no job of its own. -/
theorem refl (app : WakerApp) : SameJobs app app :=
  ⟨rfl, rfl, rfl, rfl, rfl, fun _ => rfl, id⟩

/-- Starting the confetti touches no job. -/
theorem startConfetti (app : WakerApp) (now : Instant) :
    SameJobs app (app.startConfetti now) := by
  unfold WakerApp.startConfetti
  split
  · rename_i pending
    exact ⟨rfl, rfl, rfl, rfl, rfl, fun _ => rfl, fun _ => pending⟩
  · exact refl app

/-- Pending confetti is started. -/
theorem startConfetti_confettiPending (app : WakerApp) (now : Instant) :
    (app.startConfetti now).confettiPending = false := by
  unfold WakerApp.startConfetti
  split
  · rfl
  · rename_i notPending
    exact Bool.not_eq_true _ ▸ notPending

/-- Starting the confetti leaves the host status check alone. -/
theorem startConfetti_hostStatus (app : WakerApp) (now : Instant) :
    (app.startConfetti now).hostStatus = app.hostStatus := by
  unfold WakerApp.startConfetti
  split <;> rfl

/-- Starting the confetti leaves the ping alone. -/
theorem startConfetti_ping (app : WakerApp) (now : Instant) :
    (app.startConfetti now).ping = app.ping := by
  unfold WakerApp.startConfetti
  split <;> rfl

/-- Painting the confetti touches no job. -/
theorem paintConfetti (app : WakerApp) (now : Instant) :
    SameJobs app (app.paintConfetti now).1 := by
  unfold WakerApp.paintConfetti
  split
  · exact refl app
  · split <;> exact ⟨rfl, rfl, rfl, rfl, rfl, fun _ => rfl, id⟩

/-- An operation that touches no job raises no confetti. -/
theorem confettiRaised_eq_nil
    {before after : WakerApp}
    (same : SameJobs before after) :
    AppSystem.confettiRaised before after = [] := by
  unfold AppSystem.confettiRaised
  split
  · rename_i raised
    simp only [Bool.and_eq_true, Bool.not_eq_true'] at raised
    have before := same.confettiPending raised.2
    rw [raised.1] at before
    cases before
  · rfl

end SameJobs

namespace AppSystem

/-- An operation without threads and attempts changes the application only. -/
theorem commit_eq
    {system : AppSystem}
    {outcome : WakerApp × List UiEffect}
    (noWake : spawnedWakes outcome.2 = [])
    (noCheck : spawnedChecks outcome.2 = [])
    (noAttempt : attemptEvents outcome.2 = [])
    (same : SameJobs system.app outcome.1) :
    system.commit outcome =
      { system with
        app := outcome.1
        repaint := system.repaint || requestsRepaint outcome.2 } := by
  simp [commit, foldl_perform, noWake, noCheck, noAttempt,
    same.confettiRaised_eq_nil]

/-- A check that received something, or the end, is finished. -/
theorem drain_finished
    {check : DiagnosticCheck}
    {received : Except TryRecvError (Except String Bool)}
    (something : received ≠ .error .empty)
    (lost : String)
    (now : Instant) :
    (check.drain lost now received).checkRx = none := by
  rcases received with ⟨_ | _⟩ | result
  · exact (something rfl).elim
  · rfl
  · rfl

/-- Draining the wake worker is one of the cases. -/
theorem drainState_cases
    {system : AppSystem}
    (inv : system.Invariant)
    (turn : system.phase = .drainState)
    (elapsedAt shownAt : Instant) :
    StepCase system (.drainState elapsedAt shownAt)
      { system.drainState elapsedAt shownAt with
        phase := .drainHostStatus } := by
  unfold AppSystem.drainState
  cases heard : listening? system.wakeThreads system.app.stateRx with
  | none =>
      exact .pass _ system.app _ system.repaint (by simp [turn])
        (by rw [turn]; rfl)
        (fun _ => inv.wakeListening.eq_none_of_listening? heard)
        (by simp [turn]) (by simp [turn]) (by simp [turn]) (.refl _) id
  | some found =>
      obtain ⟨channel, thread⟩ := found
      obtain ⟨receiver, present⟩ := listening?_eq_some heard
      have sound := inv.wakeSound thread (List.mem_of_getElem? present)
      have busy : system.app.busy = true := by
        rw [inv.ui.busy_stateRx, receiver, Option.isSome_some]
      rcases WakerApp.drainStateUpdates_cases elapsedAt shownAt sound busy
        with ⟨connected, progress, same⟩ | ⟨state, outcome, same⟩
      · simp only [same]
        have shown :
            thread.unread.getLast?.getD system.app.state ∈ thread.unread ∨
              thread.unread.getLast?.getD system.app.state =
                system.app.state := by
          cases last : thread.unread.getLast? with
          | none =>
              exact .inr rfl
          | some state =>
              exact .inl (List.mem_of_getLast? last)
        have plain :=
          StepCase.drainedProgress elapsedAt shownAt channel thread
            (thread.unread.getLast?.getD system.app.state) turn receiver
            present connected shown progress
        simpa [commit, confettiRaised] using plain
      · obtain ⟨active, isActive, finished⟩ :=
          inv.ui.exists_concluded elapsedAt shownAt busy
            outcome.isTerminal
        simp only [same, finished]
        have ended :=
          StepCase.drainedEnd elapsedAt shownAt channel thread state active
            { system.app.concluded state with
              activeAttempt := none
              lastAttempt :=
                some (WakerApp.summaryOf active elapsedAt state)
              confettiPending :=
                if state = .awake then
                  true
                else
                  system.app.confettiPending
              terminalStateDeadline :=
                some (shownAt + TERMINAL_STATE_DISPLAY_DURATION) }
            turn receiver present outcome isActive
            ⟨rfl, rfl, rfl, rfl, rfl, by
              by_cases awake : state = .awake <;> simp [awake]⟩
        simpa [commit, perform] using ended

/-- Draining the host status check is one of the cases. -/
theorem drainHostStatus_cases
    {system : AppSystem}
    (inv : system.Invariant)
    (turn : system.phase = .drainHostStatus)
    (now : Instant) :
    StepCase system (.drainHostStatus now)
      { system.drainHostStatus now with phase := .drainPing } := by
  unfold AppSystem.drainHostStatus
  cases heard :
      listening? system.checkThreads system.app.hostStatus.checkRx with
  | none =>
      exact .pass _ system.app _ system.repaint (by simp [turn])
        (by rw [turn]; rfl) (by simp [turn])
        (fun _ => inv.hostListening.eq_none_of_listening? heard)
        (by simp [turn]) (by simp [turn]) (.refl _) id
  | some found =>
      obtain ⟨channel, thread⟩ := found
      obtain ⟨receiver, present⟩ := listening?_eq_some heard
      simp only [WakerApp.drainHostStatusUpdate]
      by_cases nothing : thread.tryRecv = .error .empty
      · rw [nothing]
        exact .hostWaiting now channel thread turn receiver present nothing
      · exact .hostFinished now channel thread _ turn receiver present
          nothing (drain_finished nothing _ now)

/-- Draining the ping is one of the cases. -/
theorem drainPing_cases
    {system : AppSystem}
    (inv : system.Invariant)
    (turn : system.phase = .drainPing)
    (now : Instant) :
    StepCase system (.drainPing now)
      { system.drainPing now with phase := .timeouts } := by
  unfold AppSystem.drainPing
  cases heard : listening? system.checkThreads system.app.ping.checkRx with
  | none =>
      exact .pass _ system.app _ system.repaint (by simp [turn])
        (by rw [turn]; rfl) (by simp [turn]) (by simp [turn])
        (fun _ => inv.pingListening.eq_none_of_listening? heard)
        (by simp [turn]) (.refl _) id
  | some found =>
      obtain ⟨channel, thread⟩ := found
      obtain ⟨receiver, present⟩ := listening?_eq_some heard
      simp only [WakerApp.drainPingUpdate]
      by_cases nothing : thread.tryRecv = .error .empty
      · rw [nothing]
        exact .pingWaiting now channel thread turn receiver present nothing
      · exact .pingFinished now channel thread _ turn receiver present
          nothing (drain_finished nothing _ now)

/-- An operation without threads and attempts is a pass. -/
theorem pass_commit
    {system : AppSystem}
    {label : SystemStep}
    {following : FramePhase}
    {outcome : WakerApp × List UiEffect}
    (inFrame : system.phase ≠ .idle)
    (moved : system.phase.next = following)
    (plain :
      system.phase ≠ .drainState ∧
      system.phase ≠ .drainHostStatus ∧
      system.phase ≠ .drainPing ∧
      system.phase ≠ .wakeButton)
    (noWake : spawnedWakes outcome.2 = [])
    (noCheck : spawnedChecks outcome.2 = [])
    (noAttempt : attemptEvents outcome.2 = [])
    (same : SameJobs system.app outcome.1) :
    StepCase system label
      { system.commit outcome with phase := following } := by
  rw [commit_eq noWake noCheck noAttempt same]
  exact .pass label outcome.1 following _ inFrame moved
    (fun turn => (plain.1 turn).elim)
    (fun turn => (plain.2.1 turn).elim)
    (fun turn => (plain.2.2.1 turn).elim)
    (fun turn => (plain.2.2.2 turn).elim)
    same (fun outstanding => by simp [outstanding])

/-- The wake button is one of the cases. -/
theorem wakeButton_cases
    {system after : AppSystem}
    (inv : system.Invariant)
    (turn : system.phase = .wakeButton)
    {click : Option WakeClick}
    {now : Instant}
    (pressed : system.wakeButton click now = some after) :
    StepCase system (.wakeButton click now)
      { after with phase := .hostStatusButton } := by
  cases click with
  | none =>
      cases pressed
      exact .pass _ _ _ system.repaint (by simp [turn]) (by rw [turn]; rfl)
        (by simp [turn]) (by simp [turn]) (by simp [turn])
        (fun _ => SameJobs.startConfetti_confettiPending system.app now)
        (.startConfetti system.app now) id
  | some click =>
      simp only [AppSystem.wakeButton] at pressed
      split at pressed
      · rename_i enabled
        cases pressed
        have idle := (UiInvariant.idle_of_wakeEnabled enabled).1
        have noAttempt : system.app.activeAttempt = none := by
          rw [← Option.not_isSome_iff_eq_none, ← inv.ui.busy_activeAttempt,
            idle]
          exact Bool.false_ne_true
        rcases inv.ui.beginWake_cases enabled system.wakeThreads.length
            click.attempt click.elapsedAt click.shownAt click.started with
          ⟨failure, refusal, same⟩ | ⟨target, body, same⟩
        · rw [same]
          have kept :
              SameJobs system.app
                { system.app with
                  state := .failed failure
                  stateRx := none
                  busy := false
                  activeAttempt := none
                  lastAttempt :=
                    some (WakerApp.summaryOf click.attempt
                      click.elapsedAt (.failed failure))
                  terminalStateDeadline :=
                    some (click.shownAt +
                      TERMINAL_STATE_DISPLAY_DURATION) } :=
            ⟨(inv.ui.stateRx_eq_none idle).symm, rfl, rfl, idle.symm,
              noAttempt.symm, fun busy => by simp [idle] at busy, id⟩
          have refused :=
            StepCase.wakeRefused click now failure _ turn enabled refusal
              (SameJobs.startConfetti_confettiPending _ now)
              (kept.trans (.startConfetti _ now))
          simpa [commit, perform, confettiRaised] using refused
        · rw [same]
          have started :=
            SameJobs.startConfetti
              { system.app with
                state := .connecting
                stateRx := some system.wakeThreads.length
                busy := true
                activeAttempt := some click.attempt
                terminalStateDeadline := none }
              now
          have spawned :=
            StepCase.wakeSpawned click now _ body turn enabled
              started.stateRx (SameJobs.startConfetti_hostStatus _ now)
              (SameJobs.startConfetti_ping _ now) started.activeAttempt
              (started.state rfl)
              (SameJobs.startConfetti_confettiPending _ now)
          simpa [commit, perform, confettiRaised] using spawned
      · cases pressed

/-- The host status button is one of the cases. -/
theorem hostStatusButton_cases
    {system after : AppSystem}
    (turn : system.phase = .hostStatusButton)
    {click : Option CheckClick}
    (pressed : system.hostStatusButton click = some after) :
    StepCase system (.hostStatusButton click)
      { after with phase := .pingButton } := by
  have inFrame : system.phase ≠ .idle := by simp [turn]
  have moved : system.phase.next = .pingButton := by rw [turn]; rfl
  cases click with
  | none =>
      cases pressed
      exact .pass _ _ _ system.repaint inFrame moved (by simp [turn])
        (by simp [turn]) (by simp [turn]) (by simp [turn]) (.refl _) id
  | some click =>
      simp only [AppSystem.hostStatusButton] at pressed
      split at pressed
      · rename_i enabled
        cases pressed
        have noHost :=
          (UiInvariant.idle_of_diagnosticActionEnabled enabled).2.1
        rw [UiInvariant.beginHostStatusCheck_eq enabled]
        rcases click with ⟨clicked, message | ⟨job, error⟩ | ⟨job, body⟩⟩
        · exact pass_commit inFrame moved (by simp [turn]) rfl rfl rfl
            ⟨rfl, rfl, rfl, rfl, rfl, fun _ => rfl, id⟩
        · exact pass_commit inFrame moved (by simp [turn]) rfl rfl rfl
            ⟨rfl, noHost.symm, rfl, rfl, rfl, fun _ => rfl, id⟩
        · have spawned :=
            StepCase.hostSpawned ⟨clicked, .spawned job body⟩
              (system.app.hostStatus.start system.checkThreads.length
                clicked (.spawned job body)).1
              body turn enabled rfl
          simpa [commit, perform, confettiRaised, DiagnosticCheck.start]
            using spawned
      · cases pressed

/-- The ping button is one of the cases. -/
theorem pingButton_cases
    {system after : AppSystem}
    (turn : system.phase = .pingButton)
    {click : Option CheckClick}
    (pressed : system.pingButton click = some after) :
    StepCase system (.pingButton click)
      { after with phase := .paintConfetti } := by
  have inFrame : system.phase ≠ .idle := by simp [turn]
  have moved : system.phase.next = .paintConfetti := by rw [turn]; rfl
  cases click with
  | none =>
      cases pressed
      exact .pass _ _ _ system.repaint inFrame moved (by simp [turn])
        (by simp [turn]) (by simp [turn]) (by simp [turn]) (.refl _) id
  | some click =>
      simp only [AppSystem.pingButton] at pressed
      split at pressed
      · rename_i enabled
        cases pressed
        have noPing :=
          (UiInvariant.idle_of_diagnosticActionEnabled enabled).2.2
        rw [UiInvariant.beginPingCheck_eq enabled]
        rcases click with ⟨clicked, message | ⟨job, error⟩ | ⟨job, body⟩⟩
        · exact pass_commit inFrame moved (by simp [turn]) rfl rfl rfl
            ⟨rfl, rfl, rfl, rfl, rfl, fun _ => rfl, id⟩
        · exact pass_commit inFrame moved (by simp [turn]) rfl rfl rfl
            ⟨rfl, rfl, noPing.symm, rfl, rfl, fun _ => rfl, id⟩
        · have spawned :=
            StepCase.pingSpawned ⟨clicked, .spawned job body⟩
              (system.app.ping.start system.checkThreads.length
                clicked (.spawned job body)).1
              body turn enabled rfl
          simpa [commit, perform, confettiRaised, DiagnosticCheck.start]
            using spawned
      · cases pressed

/-- A step of a system that satisfies its invariant is one of the cases. -/
theorem step_cases
    {system next : AppSystem}
    (inv : system.Invariant)
    {label : SystemStep}
    (stepped : system.step? label = some next) :
    StepCase system label next := by
  cases label with
  | beginFrame input =>
      simp only [step?] at stepped
      split at stepped
      · rename_i possible
        cases stepped
        exact .beginFrame input possible.1
      · cases stepped
  | drainState elapsedAt shownAt =>
      obtain ⟨turn, after, ⟨⟩, rfl⟩ := inPhase_eq_some_iff.mp stepped
      exact drainState_cases inv turn elapsedAt shownAt
  | drainHostStatus now =>
      obtain ⟨turn, after, ⟨⟩, rfl⟩ := inPhase_eq_some_iff.mp stepped
      exact drainHostStatus_cases inv turn now
  | drainPing now =>
      obtain ⟨turn, after, ⟨⟩, rfl⟩ := inPhase_eq_some_iff.mp stepped
      exact drainPing_cases inv turn now
  | timeouts terminalNow diagnosticNow =>
      obtain ⟨turn, after, ⟨⟩, rfl⟩ := inPhase_eq_some_iff.mp stepped
      exact pass_commit (by simp [turn]) (by rw [turn]; rfl)
        (by simp [turn]) (by simp [spawnedWakes]) (by simp [spawnedChecks])
        (by simp [attemptEvents])
        ((SameJobs.updateTerminalStateTimeout inv.ui terminalNow).trans
          (.updateDiagnosticResultTimeouts _ diagnosticNow))
  | wakeButton click now =>
      obtain ⟨turn, after, pressed, rfl⟩ := inPhase_eq_some_iff.mp stepped
      exact wakeButton_cases inv turn pressed
  | hostStatusButton click =>
      obtain ⟨turn, after, pressed, rfl⟩ := inPhase_eq_some_iff.mp stepped
      exact hostStatusButton_cases turn pressed
  | pingButton click =>
      obtain ⟨turn, after, pressed, rfl⟩ := inPhase_eq_some_iff.mp stepped
      exact pingButton_cases turn pressed
  | paintConfetti now =>
      obtain ⟨turn, after, ⟨⟩, rfl⟩ := inPhase_eq_some_iff.mp stepped
      refine pass_commit (by simp [turn]) (by rw [turn]; rfl)
        (by simp [turn]) ?_ ?_ ?_ (.paintConfetti system.app now)
      all_goals
        unfold WakerApp.paintConfetti
        split
        · rfl
        · split <;> rfl
  | wakeThread channel =>
      obtain ⟨⟨threads, notified⟩, advanced, rfl⟩ :=
        Option.map_eq_some_iff.mp stepped
      obtain ⟨thread, next, present, taken, rfl⟩ :=
        advanceAt?_eq_some advanced
      exact .wakeAdvanced channel thread next notified present taken
  | checkThread channel =>
      obtain ⟨⟨threads, notified⟩, advanced, rfl⟩ :=
        Option.map_eq_some_iff.mp stepped
      obtain ⟨thread, next, present, taken, rfl⟩ :=
        advanceAt?_eq_some advanced
      exact .checkAdvanced channel thread next notified present taken
  | wakePanic channel =>
      obtain ⟨threads, panicked, rfl⟩ := Option.map_eq_some_iff.mp stepped
      obtain ⟨thread, next, present, taken, rfl⟩ :=
        panicAt?_eq_some panicked
      exact .wakePanicked channel thread next present taken
  | checkPanic channel =>
      obtain ⟨threads, panicked, rfl⟩ := Option.map_eq_some_iff.mp stepped
      obtain ⟨thread, next, present, taken, rfl⟩ :=
        panicAt?_eq_some panicked
      exact .checkPanicked channel thread next present taken

end AppSystem

end Waker
