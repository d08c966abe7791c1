import Waker.AppInvariant

namespace Waker

open ReportingThread

/-!
# The invariant of the running system

Together with the soundness of all worker threads the invariant of the
application state is preserved by every step of the system, so it holds between
any two operations of a frame and in particular at its end.
-/

/-- The invariant of the application and its threads. -/
structure SystemInvariant
    (app : WakerApp)
    (wakeThreads : List (ReportingThread WakeState))
    (checkThreads : List (ReportingThread (Except String Bool))) :
    Prop where
  ui : UiInvariant app
  wakeSound : PoolSound wakeProtocol wakeThreads
  checkSound : PoolSound checkProtocol checkThreads
  wakeListening : Listening wakeProtocol wakeThreads app.stateRx
  hostListening :
    Listening checkProtocol checkThreads app.hostStatus.checkRx
  pingListening : Listening checkProtocol checkThreads app.ping.checkRx

namespace AppSystem

/-- The invariant of a system. -/
def Invariant (system : AppSystem) : Prop :=
  SystemInvariant system.app system.wakeThreads system.checkThreads

/-- An operation is done exactly in its phase. -/
theorem inPhase_eq_some_iff
    {system next : AppSystem}
    {current following : FramePhase}
    {operation : Option AppSystem} :
    system.inPhase current following operation = some next ↔
      system.phase = current ∧
      ∃ after,
        operation = some after ∧
        next = { after with phase := following } := by
  unfold inPhase
  split
  · rename_i inTurn
    rw [Option.map_eq_some_iff]
    simp [inTurn, eq_comm]
  · rename_i notInTurn
    simp [notInTurn]

namespace Invariant

variable {system : AppSystem}

/-- A new application satisfies the invariant. -/
theorem initial : Invariant initial where
  ui := UiInvariant.new
  wakeSound _ member := by
    cases member
  checkSound _ member := by
    cases member
  wakeListening := listening_none
  hostListening := listening_none
  pingListening := listening_none

/-- Draining the wake worker keeps the invariant. -/
theorem drainState
    (inv : system.Invariant)
    (elapsedAt shownAt : Instant) :
    (system.drainState elapsedAt shownAt).Invariant := by
  unfold AppSystem.drainState
  split
  · exact inv
  · rename_i channel thread heard
    obtain ⟨receiver, present⟩ := listening?_eq_some heard
    have sound := inv.wakeSound thread (List.mem_of_getElem? present)
    have busy : system.app.busy = true := by
      rw [inv.ui.busy_stateRx, receiver, Option.isSome_some]
    have ui := inv.ui.drainStateUpdates elapsedAt shownAt sound busy
    rcases WakerApp.drainStateUpdates_cases elapsedAt shownAt sound busy
      with ⟨_, progress, same⟩ | ⟨state, outcome, same⟩
    · rw [same] at ui ⊢
      exact {
        ui := ui
        wakeSound := by
          simpa [spawnedWakes] using
            inv.wakeSound.set present (.taken _ rfl)
        checkSound := by
          simpa [spawnedChecks] using inv.checkSound
        wakeListening := by
          have kept :=
            inv.wakeListening.set present fun unfinished =>
              unfinished.take
                (fun message member =>
                  wakeProtocol.disjoint message (progress message member))
                thread.unread.length
          simpa [spawnedWakes] using kept
        hostListening := by
          simpa [spawnedChecks] using inv.hostListening
        pingListening := by
          simpa [spawnedChecks] using inv.pingListening
      }
    · obtain ⟨active, isActive, finished⟩ :=
        inv.ui.exists_concluded elapsedAt shownAt busy outcome.isTerminal
      rw [same] at ui ⊢
      rw [finished] at ui ⊢
      exact {
        ui := ui
        wakeSound := by
          simpa [spawnedWakes] using
            inv.wakeSound.set present (.taken _ rfl)
        checkSound := by
          simpa [spawnedChecks] using inv.checkSound
        wakeListening := listening_none
        hostListening := by
          simpa [spawnedChecks, WakerApp.concluded]
            using inv.hostListening
        pingListening := by
          simpa [spawnedChecks, WakerApp.concluded]
            using inv.pingListening
      }

/-- A check that is still running after a drain is still listened to. -/
theorem listening_drain
    {check : DiagnosticCheck}
    {threads : List (ReportingThread (Except String Bool))}
    {channel : Nat}
    {thread : ReportingThread (Except String Bool)}
    (listening : Listening checkProtocol threads check.checkRx)
    (present : threads[channel]? = some thread)
    (lost : String)
    (now : Instant) :
    Listening checkProtocol (threads.set channel (thread.take 1))
      (check.drain lost now thread.tryRecv).checkRx := by
  cases received : thread.tryRecv with
  | ok result =>
      exact listening_none
  | error error =>
      cases error with
      | disconnected =>
          exact listening_none
      | empty =>
          refine listening.set present fun unfinished =>
            unfinished.take (fun message member => ?_) 1
          rw [unread_eq_nil_of_tryRecv received] at member
          cases member

/-- Draining the host status check keeps the invariant. -/
theorem drainHostStatus
    (inv : system.Invariant)
    (now : Instant) :
    (system.drainHostStatus now).Invariant := by
  unfold AppSystem.drainHostStatus
  split
  · exact inv
  · rename_i channel thread heard
    obtain ⟨receiver, present⟩ := listening?_eq_some heard
    have noPing : system.app.ping.checkRx = none :=
      inv.ui.checkAlone (by rw [receiver, Option.isSome_some])
    exact {
      ui := inv.ui.drainHostStatusUpdate now thread.tryRecv
      wakeSound := inv.wakeSound
      checkSound := inv.checkSound.set present (.taken _ rfl)
      wakeListening := inv.wakeListening
      hostListening := listening_drain inv.hostListening present _ now
      pingListening := by
        rw [show (system.app.drainHostStatusUpdate now
          thread.tryRecv).ping = system.app.ping from rfl, noPing]
        exact listening_none
    }

/-- Draining the ping keeps the invariant. -/
theorem drainPing
    (inv : system.Invariant)
    (now : Instant) :
    (system.drainPing now).Invariant := by
  unfold AppSystem.drainPing
  split
  · exact inv
  · rename_i channel thread heard
    obtain ⟨receiver, present⟩ := listening?_eq_some heard
    have noHost : system.app.hostStatus.checkRx = none := by
      by_contra checking
      have noPing :=
        inv.ui.checkAlone (Option.isSome_iff_ne_none.mpr checking)
      rw [receiver] at noPing
      cases noPing
    exact {
      ui := inv.ui.drainPingUpdate now thread.tryRecv
      wakeSound := inv.wakeSound
      checkSound := inv.checkSound.set present (.taken _ rfl)
      wakeListening := inv.wakeListening
      hostListening := by
        rw [show (system.app.drainPingUpdate now
          thread.tryRecv).hostStatus = system.app.hostStatus from rfl,
          noHost]
        exact listening_none
      pingListening := listening_drain inv.pingListening present _ now
    }

/-- An operation that spawns nothing and keeps the receivers is harmless. -/
theorem commit
    (inv : system.Invariant)
    {outcome : WakerApp × List UiEffect}
    (ui : UiInvariant outcome.1)
    (noWake : spawnedWakes outcome.2 = [])
    (noCheck : spawnedChecks outcome.2 = [])
    (stateRx : outcome.1.stateRx = system.app.stateRx)
    (hostRx :
      outcome.1.hostStatus.checkRx = system.app.hostStatus.checkRx)
    (pingRx : outcome.1.ping.checkRx = system.app.ping.checkRx) :
    (system.commit outcome).Invariant where
  ui := ui
  wakeSound := by
    simpa [noWake] using inv.wakeSound
  checkSound := by
    simpa [noCheck] using inv.checkSound
  wakeListening := by
    simpa [noWake, stateRx] using inv.wakeListening
  hostListening := by
    simpa [noCheck, hostRx] using inv.hostListening
  pingListening := by
    simpa [noCheck, pingRx] using inv.pingListening

/-- The timeouts keep the invariant. -/
theorem timeouts
    (inv : system.Invariant)
    (terminalNow diagnosticNow : Instant) :
    (system.timeouts terminalNow diagnosticNow).Invariant := by
  have ui := inv.ui.updateTerminalStateTimeout terminalNow
  have kept :
      (system.app.updateTerminalStateTimeout terminalNow).1.stateRx =
          system.app.stateRx ∧
        (system.app.updateTerminalStateTimeout terminalNow).1.hostStatus =
          system.app.hostStatus ∧
        (system.app.updateTerminalStateTimeout terminalNow).1.ping =
          system.app.ping := by
    unfold WakerApp.updateTerminalStateTimeout
    split
    · exact ⟨rfl, rfl, rfl⟩
    · split
      · exact ⟨rfl, rfl, rfl⟩
      · split <;> exact ⟨rfl, rfl, rfl⟩
  obtain ⟨stateRx, hostStatus, ping⟩ := kept
  refine inv.commit (ui.updateDiagnosticResultTimeouts diagnosticNow)
    ?_ ?_ stateRx ?_ ?_
  · simp [spawnedWakes]
  · simp [spawnedChecks]
  · exact (UiInvariant.updateTimeout_consistent ui.hostStatus
      diagnosticNow).2.trans (congrArg DiagnosticCheck.checkRx hostStatus)
  · exact (UiInvariant.updateTimeout_consistent ui.ping
      diagnosticNow).2.trans (congrArg DiagnosticCheck.checkRx ping)

/-- Starting the confetti keeps the invariant. -/
theorem startConfetti
    (inv : system.Invariant)
    (now : Instant) :
    Invariant { system with app := system.app.startConfetti now } := by
  have ui := inv.ui.startConfetti now
  unfold WakerApp.startConfetti at ui ⊢
  split
  · rename_i pending
    rw [if_pos pending] at ui
    exact { inv with ui := ui }
  · exact inv

/-- Painting the confetti keeps the invariant. -/
theorem paintConfetti
    (inv : system.Invariant)
    (now : Instant) :
    (system.commit (system.app.paintConfetti now)).Invariant := by
  have ui := inv.ui.paintConfetti now
  unfold WakerApp.paintConfetti at ui ⊢
  cases falling : system.app.confetti with
  | none =>
      exact inv.commit inv.ui rfl rfl rfl rfl rfl
  | some started =>
      simp only [falling] at ui ⊢
      split
      · rename_i ended
        rw [if_pos ended] at ui
        exact inv.commit ui rfl rfl rfl rfl rfl
      · exact inv.commit inv.ui rfl rfl rfl rfl rfl

/-- The wake button keeps the invariant. -/
theorem wakeButton
    (inv : system.Invariant)
    {click : Option WakeClick}
    {now : Instant}
    {after : AppSystem}
    (pressed : system.wakeButton click now = some after) :
    after.Invariant := by
  cases click with
  | none =>
      cases pressed
      exact inv.startConfetti now
  | some click =>
      simp only [AppSystem.wakeButton] at pressed
      split at pressed
      · rename_i enabled
        cases pressed
        refine Invariant.startConfetti ?_ now
        have ui :=
          inv.ui.beginWake enabled system.wakeThreads.length click.attempt
            click.elapsedAt click.shownAt click.started
        rcases inv.ui.beginWake_cases enabled system.wakeThreads.length
            click.attempt click.elapsedAt click.shownAt click.started with
          ⟨failure, _, same⟩ | ⟨target, body, same⟩
        · rw [same] at ui ⊢
          exact inv.commit ui rfl rfl
            (inv.ui.stateRx_eq_none
              (UiInvariant.idle_of_wakeEnabled enabled).1).symm rfl rfl
        · rw [same] at ui ⊢
          exact {
            ui := ui
            wakeSound := by
              simpa [spawnedWakes] using inv.wakeSound.spawn body.admitted
            checkSound := by
              simpa [spawnedChecks] using inv.checkSound
            wakeListening := by
              simpa [spawnedWakes] using listening_spawn body.program
            hostListening := by
              simpa [spawnedChecks] using inv.hostListening
            pingListening := by
              simpa [spawnedChecks] using inv.pingListening
          }
      · cases pressed

/-- A started check spawns its worker or nothing. -/
theorem start_cases
    {check : DiagnosticCheck}
    (noReceiver : check.checkRx = none)
    (channel : Nat)
    (now : Instant)
    (started : CheckStart) :
    spawnedWakes (check.start channel now started).2 = [] ∧
      ((spawnedChecks (check.start channel now started).2 = [] ∧
          (check.start channel now started).1.checkRx = none) ∨
        ∃ body : CheckBody,
          spawnedChecks (check.start channel now started).2 =
              [body.program] ∧
            (check.start channel now started).1.checkRx = some channel) := by
  cases started with
  | rejected message =>
      exact ⟨rfl, .inl ⟨rfl, noReceiver⟩⟩
  | notSpawned job error =>
      exact ⟨rfl, .inl ⟨rfl, rfl⟩⟩
  | spawned job body =>
      exact ⟨rfl, .inr ⟨body, rfl, rfl⟩⟩

/-- A fresh check is listened to. -/
theorem listening_start
    {check : DiagnosticCheck}
    {threads : List (ReportingThread (Except String Bool))}
    (noReceiver : check.checkRx = none)
    (sound : PoolSound checkProtocol threads)
    (now : Instant)
    (started : CheckStart) :
    PoolSound checkProtocol
        (threads ++
          (spawnedChecks (check.start threads.length now started).2).map
            spawned) ∧
      Listening checkProtocol
        (threads ++
          (spawnedChecks (check.start threads.length now started).2).map
            spawned)
        (check.start threads.length now started).1.checkRx := by
  rcases (start_cases noReceiver threads.length now started).2 with
    ⟨none, unheard⟩ | ⟨body, one, heard⟩
  · rw [none, unheard]
    exact ⟨by simpa using sound, listening_none⟩
  · rw [one, heard]
    exact ⟨sound.spawn body.admitted, listening_spawn body.program⟩

/-- The host status button keeps the invariant. -/
theorem hostStatusButton
    (inv : system.Invariant)
    {click : Option CheckClick}
    {after : AppSystem}
    (pressed : system.hostStatusButton click = some after) :
    after.Invariant := by
  cases click with
  | none =>
      cases pressed
      exact inv
  | some click =>
      simp only [AppSystem.hostStatusButton] at pressed
      split at pressed
      · rename_i enabled
        cases pressed
        have ui :=
          inv.ui.beginHostStatusCheck enabled system.checkThreads.length
            click.now click.started
        obtain ⟨_, noHost, noPing⟩ :=
          UiInvariant.idle_of_diagnosticActionEnabled enabled
        obtain ⟨sound, listening⟩ :=
          listening_start noHost inv.checkSound click.now click.started
        have noWake :=
          (start_cases noHost system.checkThreads.length click.now
            click.started).1
        rw [UiInvariant.beginHostStatusCheck_eq enabled] at ui ⊢
        exact {
          ui := ui
          wakeSound := by
            simpa [noWake] using inv.wakeSound
          checkSound := by
            simpa using sound
          wakeListening := by
            simpa [noWake] using inv.wakeListening
          hostListening := by
            simpa using listening
          pingListening := by
            simpa [noPing] using listening_none
        }
      · cases pressed

/-- The ping button keeps the invariant. -/
theorem pingButton
    (inv : system.Invariant)
    {click : Option CheckClick}
    {after : AppSystem}
    (pressed : system.pingButton click = some after) :
    after.Invariant := by
  cases click with
  | none =>
      cases pressed
      exact inv
  | some click =>
      simp only [AppSystem.pingButton] at pressed
      split at pressed
      · rename_i enabled
        cases pressed
        have ui :=
          inv.ui.beginPingCheck enabled system.checkThreads.length
            click.now click.started
        obtain ⟨_, noHost, noPing⟩ :=
          UiInvariant.idle_of_diagnosticActionEnabled enabled
        obtain ⟨sound, listening⟩ :=
          listening_start noPing inv.checkSound click.now click.started
        have noWake :=
          (start_cases noPing system.checkThreads.length click.now
            click.started).1
        rw [UiInvariant.beginPingCheck_eq enabled] at ui ⊢
        exact {
          ui := ui
          wakeSound := by
            simpa [noWake] using inv.wakeSound
          checkSound := by
            simpa using sound
          wakeListening := by
            simpa [noWake] using inv.wakeListening
          hostListening := by
            simpa [noHost] using listening_none
          pingListening := by
            simpa using listening
        }
      · cases pressed

/-- An action of a wake worker keeps the invariant. -/
theorem wakeThread
    (inv : system.Invariant)
    {channel : Nat}
    {after : AppSystem}
    (stepped : system.wakeThread channel = some after) :
    after.Invariant := by
  obtain ⟨⟨threads, notified⟩, advanced, rfl⟩ :=
    Option.map_eq_some_iff.mp stepped
  obtain ⟨thread, next, present, taken, rfl⟩ :=
    advanceAt?_eq_some advanced
  have sound := inv.wakeSound thread (List.mem_of_getElem? present)
  exact { inv with
    wakeSound := inv.wakeSound.set present (.advanced notified taken)
    wakeListening :=
      inv.wakeListening.set present fun unfinished =>
        unfinished.advance sound taken }

/-- An action of a diagnostic worker keeps the invariant. -/
theorem checkThread
    (inv : system.Invariant)
    {channel : Nat}
    {after : AppSystem}
    (stepped : system.checkThread channel = some after) :
    after.Invariant := by
  obtain ⟨⟨threads, notified⟩, advanced, rfl⟩ :=
    Option.map_eq_some_iff.mp stepped
  obtain ⟨thread, next, present, taken, rfl⟩ :=
    advanceAt?_eq_some advanced
  have sound := inv.checkSound thread (List.mem_of_getElem? present)
  have kept (unfinished : Unfinished checkProtocol thread) :
      Unfinished checkProtocol next :=
    unfinished.advance sound taken
  exact { inv with
    checkSound := inv.checkSound.set present (.advanced notified taken)
    hostListening := inv.hostListening.set present kept
    pingListening := inv.pingListening.set present kept }

/-- The panic of a wake worker keeps the invariant. -/
theorem wakePanic
    (inv : system.Invariant)
    {channel : Nat}
    {after : AppSystem}
    (stepped : system.wakePanic channel = some after) :
    after.Invariant := by
  obtain ⟨threads, panicked, rfl⟩ := Option.map_eq_some_iff.mp stepped
  obtain ⟨thread, next, present, taken, rfl⟩ :=
    panicAt?_eq_some panicked
  exact { inv with
    wakeSound := inv.wakeSound.set present (.panicked taken)
    wakeListening :=
      inv.wakeListening.set present fun unfinished =>
        unfinished.panic taken }

/-- The panic of a diagnostic worker keeps the invariant. -/
theorem checkPanic
    (inv : system.Invariant)
    {channel : Nat}
    {after : AppSystem}
    (stepped : system.checkPanic channel = some after) :
    after.Invariant := by
  obtain ⟨threads, panicked, rfl⟩ := Option.map_eq_some_iff.mp stepped
  obtain ⟨thread, next, present, taken, rfl⟩ :=
    panicAt?_eq_some panicked
  have kept (unfinished : Unfinished checkProtocol thread) :
      Unfinished checkProtocol next :=
    unfinished.panic taken
  exact { inv with
    checkSound := inv.checkSound.set present (.panicked taken)
    hostListening := inv.hostListening.set present kept
    pingListening := inv.pingListening.set present kept }

/-- Every step keeps the invariant. -/
theorem step
    (inv : system.Invariant)
    {label : SystemStep}
    {next : AppSystem}
    (stepped : system.step? label = some next) :
    next.Invariant := by
  cases label with
  | beginFrame input =>
      simp only [step?] at stepped
      split at stepped
      · cases stepped
        exact inv
      · cases stepped
  | drainState elapsedAt shownAt =>
      obtain ⟨_, after, ⟨⟩, rfl⟩ := inPhase_eq_some_iff.mp stepped
      exact inv.drainState elapsedAt shownAt
  | drainHostStatus now =>
      obtain ⟨_, after, ⟨⟩, rfl⟩ := inPhase_eq_some_iff.mp stepped
      exact inv.drainHostStatus now
  | drainPing now =>
      obtain ⟨_, after, ⟨⟩, rfl⟩ := inPhase_eq_some_iff.mp stepped
      exact inv.drainPing now
  | timeouts terminalNow diagnosticNow =>
      obtain ⟨_, after, ⟨⟩, rfl⟩ := inPhase_eq_some_iff.mp stepped
      exact inv.timeouts terminalNow diagnosticNow
  | wakeButton click now =>
      obtain ⟨_, after, pressed, rfl⟩ := inPhase_eq_some_iff.mp stepped
      have kept : after.Invariant := inv.wakeButton pressed
      exact kept
  | hostStatusButton click =>
      obtain ⟨_, after, pressed, rfl⟩ := inPhase_eq_some_iff.mp stepped
      have kept : after.Invariant := inv.hostStatusButton pressed
      exact kept
  | pingButton click =>
      obtain ⟨_, after, pressed, rfl⟩ := inPhase_eq_some_iff.mp stepped
      have kept : after.Invariant := inv.pingButton pressed
      exact kept
  | paintConfetti now =>
      obtain ⟨_, after, ⟨⟩, rfl⟩ := inPhase_eq_some_iff.mp stepped
      exact inv.paintConfetti now
  | wakeThread channel =>
      exact inv.wakeThread stepped
  | checkThread channel =>
      exact inv.checkThread stepped
  | wakePanic channel =>
      exact inv.wakePanic stepped
  | checkPanic channel =>
      exact inv.checkPanic stepped

/-- Whenever a button is enabled, the application is idle. -/
theorem idle
    (inv : system.Invariant)
    (enabled :
      system.app.wakeEnabled ∨ system.app.diagnosticActionEnabled) :
    system.app.stateRx = none ∧
      system.app.hostStatus.checkRx = none ∧
      system.app.ping.checkRx = none := by
  have idle :
      system.app.busy = false ∧ system.app.hostStatus.checkRx = none ∧
        system.app.ping.checkRx = none :=
    enabled.elim UiInvariant.idle_of_wakeEnabled
      UiInvariant.idle_of_diagnosticActionEnabled
  exact ⟨inv.ui.stateRx_eq_none idle.1, idle.2⟩

/-- Whenever a button is enabled, no attempt is active. -/
theorem noAttempt
    (inv : system.Invariant)
    (enabled : system.app.wakeEnabled = true) :
    system.app.activeAttempt = none := by
  rw [← Option.not_isSome_iff_eq_none, ← inv.ui.busy_activeAttempt,
    (UiInvariant.idle_of_wakeEnabled enabled).1]
  exact Bool.false_ne_true

/-- While a ping is awaited, no host status check is. -/
theorem hostIdle
    {channel : Nat}
    (inv : system.Invariant)
    (receiver : system.app.ping.checkRx = some channel) :
    system.app.hostStatus.checkRx = none := by
  by_contra checking
  have noPing :=
    inv.ui.checkAlone (Option.isSome_iff_ne_none.mpr checking)
  rw [receiver] at noPing
  cases noPing

end Invariant

/-- The invariant of the application holds at the end of every frame. -/
theorem uiInvariant_always (labels : List SystemStep) :
    StepSystem.Always step?
      (fun system => system.phase = .idle → UiInvariant system.app)
      initial labels :=
  StepSystem.always_of_invariant
    (fun _ _ _ inv stepped => inv.step stepped)
    (fun _ inv _ => inv.ui)
    Invariant.initial labels

end AppSystem

end Waker
