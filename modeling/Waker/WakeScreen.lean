import Waker.AttemptHistory
import Waker.Screen
import Waker.Substring

namespace Waker

open ReportingThread

/-!
# What the screen says about the attempts

The wake button, the error line below it and the line about the last wake.  In
every run they tell of the running attempt what its own worker has reported,
and of the last one how it ended.
-/

/-- `friendly_failure_message`. -/
def friendlyFailureMessage (failure : WakeFailure) : String :=
  if
      Text.contains "Cisco Umbrella/OpenDNS block-page address".toList
        failure.detail.toList then
    "Network DNS is blocking the WireGuard endpoint"
  else if
      Text.contains "WireGuard endpoint DNS".toList
        failure.detail.toList then
    "Could not resolve the WireGuard endpoint"
  else
    failure.userMessage

/-- The label of the wake button in a state. -/
def WakeState.buttonLabel : WakeState → String
  | .idle | .failed _ => "Wake"
  | .connecting => "Connecting…"
  | .resolvingPc => "Finding PC…"
  | .waking => "Sending wake request…"
  | .waitingForPc _ => "Waiting for PC…"
  | .awake => "PC awake!"

/--
`format_duration`, with what formatting the seconds to one decimal gives.
-/
def formatDuration
    (formatSeconds : Duration → String)
    (duration : Duration) : String :=
  if duration.asMillis < 10 then
    "<10 ms"
  else if duration.asMillis < 1000 then
    toString duration.asMillis ++ " ms"
  else
    formatSeconds duration ++ " s"

/-- The line about an attempt that is over, if there is one. -/
def summaryLine
    (formatSeconds : Duration → String) : Option AttemptSummary → String
  | some summary =>
      let outcome :=
        if summary.failure.isSome then "failed" else "succeeded"
      "Last wake " ++ outcome ++ " in " ++
        formatDuration formatSeconds summary.elapsed
  | none => "No wake has completed in this session."

/-- Only an attempt that has succeeded is shown as awake. -/
theorem WakeState.buttonLabel_eq_awake_iff (state : WakeState) :
    state.buttonLabel = "PC awake!" ↔ state = .awake := by
  cases state <;> simp [buttonLabel]

/-- A new attempt is offered exactly when none runs or has succeeded. -/
theorem WakeState.buttonLabel_eq_wake_iff (state : WakeState) :
    state.buttonLabel = "Wake" ↔
      state.isProgress = false ∧ state ≠ .awake := by
  cases state <;> simp [buttonLabel, isProgress]

namespace WakerApp

/-- `wake_button_label`. -/
def wakeButtonLabel (app : WakerApp) : String :=
  app.state.buttonLabel

/-- `render_wake_error`. -/
def wakeErrorLine (app : WakerApp) : Option String :=
  app.state.failure?.map friendlyFailureMessage

/-- The line about the last wake in `render_diagnostics`. -/
def lastWakeLine
    (formatSeconds : Duration → String)
    (app : WakerApp) : String :=
  summaryLine formatSeconds app.lastAttempt

end WakerApp

/-- The summary of an attempt that is over. -/
def HistoryEvent.summary? : HistoryEvent → Option AttemptSummary
  | .finished _ summary => some summary
  | _ => none

/-- The summary of the last attempt that is over. -/
def lastSummary (history : List HistoryEvent) : Option AttemptSummary :=
  (history.filterMap HistoryEvent.summary?).getLast?

section LastSummary

variable {history more : List HistoryEvent}

/-- Events that end no attempt change nothing. -/
theorem lastSummary_append_of_nil
    (none : more.filterMap HistoryEvent.summary? = []) :
    lastSummary (history ++ more) = lastSummary history := by
  rw [lastSummary, List.filterMap_append, none, List.append_nil]
  rfl

/-- The last attempt that ends is the last one. -/
theorem lastSummary_append_of_singleton
    {summary : AttemptSummary}
    (ended : more.filterMap HistoryEvent.summary? = [summary]) :
    lastSummary (history ++ more) = some summary := by
  simp [lastSummary, ended]

/-- Confetti ends no attempt. -/
theorem summary?_confettiRaised (before after : WakerApp) :
    (AppSystem.confettiRaised before after).filterMap
      HistoryEvent.summary? = [] := by
  unfold AppSystem.confettiRaised
  split <;> rfl

end LastSummary

/-- A running attempt has the label of a state that its worker reported. -/
structure RunningShown
    (system : AppSystem)
    (attempt : ActiveAttempt) : Prop where
  began :
    ∃ channel earlier state,
      system.history = earlier ++ [.began attempt (.worker channel)] ∧
      system.app.wakeButtonLabel = WakeState.buttonLabel state ∧
      state.isProgress = true ∧
      (state = .connecting ∨
        (Origin.worker channel).Reported system.wakeThreads state)
  disabled : system.app.wakeEnabled = false
  diagnosticDisabled : system.app.diagnosticActionEnabled = false

/--
The wake button, the error line and the line about the last wake tell the truth
about the attempts, and the buttons are enabled when nothing is running.
-/
structure WakeTruthful (system : AppSystem) : Prop where
  running :
    ∀ attempt,
      system.app.activeAttempt = some attempt →
      RunningShown system attempt
  resting :
    system.app.activeAttempt = none →
      system.app.wakeButtonLabel = "Wake" ∨
        system.app.wakeButtonLabel = "PC awake!"
  awake :
    system.app.wakeButtonLabel = "PC awake!" →
      ∃ summary,
        lastSummary system.history = some summary ∧
        summary.failure = none ∧
        system.app.activeAttempt = none
  failed :
    ∀ line,
      system.app.wakeErrorLine = some line →
      ∃ summary failure,
        lastSummary system.history = some summary ∧
        summary.failure = some failure ∧
        line = friendlyFailureMessage failure ∧
        system.app.activeAttempt = none
  lastWake :
    ∀ formatSeconds,
      system.app.lastWakeLine formatSeconds =
        summaryLine formatSeconds (lastSummary system.history)
  enabled :
    system.app.wakeEnabled = true ↔
      system.app.wakeButtonLabel = "Wake" ∧
      system.app.hostStatusButtonLabel ≠ hostStatusTexts.running ∧
      system.app.pingButtonLabel ≠ pingTexts.running
  diagnosticEnabled :
    system.app.diagnosticActionEnabled = true ↔
      system.app.activeAttempt = none ∧
      system.app.hostStatusButtonLabel ≠ hostStatusTexts.running ∧
      system.app.pingButtonLabel ≠ pingTexts.running

namespace AppSystem

variable {system after : AppSystem}

/-- The last summary is that of the last attempt, and of the state shown. -/
structure TellsAttempt (system : AppSystem) : Prop where
  lastAttempt : system.app.lastAttempt = lastSummary system.history
  terminal :
    system.app.state.isTerminal = true →
      system.app.lastAttempt.map (·.failure) =
        some system.app.state.failure?

namespace TellsAttempt

/-- At first no attempt is over. -/
theorem initial : TellsAttempt initial where
  lastAttempt := rfl
  terminal finished := by cases finished

/-- A step that ends no attempt may only leave a terminal state. -/
theorem keep
    (tells : system.TellsAttempt)
    (lastAttempt : after.app.lastAttempt = system.app.lastAttempt)
    (history : lastSummary after.history = lastSummary system.history)
    (state :
      after.app.state.isTerminal = true →
      after.app.state = system.app.state) :
    after.TellsAttempt where
  lastAttempt := by rw [lastAttempt, history, tells.lastAttempt]
  terminal finished := by
    have same := state finished
    rw [lastAttempt, same]
    exact tells.terminal (same ▸ finished)

/-- A step that ends an attempt shows its outcome. -/
theorem finish
    (active : ActiveAttempt)
    (elapsedAt : Instant)
    {state : WakeState}
    (history :
      lastSummary after.history =
        some (WakerApp.summaryOf active elapsedAt state))
    (lastAttempt :
      after.app.lastAttempt =
        some (WakerApp.summaryOf active elapsedAt state))
    (shown : after.app.state = state) :
    after.TellsAttempt where
  lastAttempt := by rw [lastAttempt, history]
  terminal _ := by
    rw [lastAttempt, shown]
    rfl

/-- Draining the worker's channel shows progress or the outcome. -/
theorem drainState
    (tells : system.TellsAttempt)
    (inv : system.Invariant)
    (elapsedAt shownAt : Instant) :
    (system.drainState elapsedAt shownAt).TellsAttempt := by
  unfold AppSystem.drainState
  split
  · exact tells
  · rename_i channel thread heard
    obtain ⟨receiver, present⟩ := listening?_eq_some heard
    have sound := inv.wakeSound thread (List.mem_of_getElem? present)
    have busy : system.app.busy = true := by
      rw [inv.ui.busy_stateRx, receiver, Option.isSome_some]
    rcases WakerApp.drainStateUpdates_cases elapsedAt shownAt sound busy
      with ⟨_, progress, same⟩ | ⟨state, outcome, same⟩
    · rw [same]
      refine tells.keep rfl ?_ fun finished => ?_
      · rw [commit_history, List.append_assoc]
        exact lastSummary_append_of_nil (by
          simp [attemptEvents, summary?_confettiRaised])
      · cases last : thread.unread.getLast? with
        | none =>
            rfl
        | some state =>
            have running := progress state (List.mem_of_getLast? last)
            simp [last, WakeState.not_isTerminal_of_isProgress running]
              at finished
    · obtain ⟨active, isActive, finished⟩ :=
        inv.ui.exists_concluded elapsedAt shownAt busy outcome.isTerminal
      rw [same, finished]
      refine finish active elapsedAt ?_ rfl rfl
      rw [commit_history, List.append_assoc]
      exact lastSummary_append_of_singleton (by
        rw [List.filterMap_append, summary?_confettiRaised]
        rfl)

/-- An operation that touches neither the state nor the last summary. -/
theorem commit
    (tells : system.TellsAttempt)
    (outcome : WakerApp × List UiEffect)
    (lastAttempt : outcome.1.lastAttempt = system.app.lastAttempt)
    (noAttempt : attemptEvents outcome.2 = [])
    (state :
      outcome.1.state.isTerminal = true →
      outcome.1.state = system.app.state) :
    (system.commit outcome).TellsAttempt :=
  tells.keep lastAttempt
    (by
      rw [commit_history, noAttempt, List.append_nil]
      exact lastSummary_append_of_nil (summary?_confettiRaised _ _))
    state

/-- When its display time is over, a terminal state is left. -/
theorem timeouts
    (tells : system.TellsAttempt)
    (terminalNow diagnosticNow : Instant) :
    (system.timeouts terminalNow diagnosticNow).TellsAttempt := by
  refine tells.commit _ ?_ ?_ ?_
  · show (system.app.updateTerminalStateTimeout
      terminalNow).1.lastAttempt = _
    unfold WakerApp.updateTerminalStateTimeout
    split
    · rfl
    · split
      · rfl
      · split <;> rfl
  · simp [attemptEvents]
  · show (system.app.updateTerminalStateTimeout
      terminalNow).1.state.isTerminal = true → _
    unfold WakerApp.updateTerminalStateTimeout
    split
    · exact fun _ => rfl
    · split
      · exact fun _ => rfl
      · split
        · intro finished
          cases finished
        · exact fun _ => rfl

/-- Starting the confetti touches no attempt. -/
theorem startConfetti
    (tells : system.TellsAttempt)
    (now : Instant) :
    TellsAttempt { system with app := system.app.startConfetti now } := by
  unfold WakerApp.startConfetti
  split
  · exact tells.keep rfl rfl fun _ => rfl
  · exact tells

/-- The wake button starts an attempt or shows why it could not. -/
theorem wakeButton
    (tells : system.TellsAttempt)
    (inv : system.Invariant)
    {click : Option WakeClick}
    {now : Instant}
    (pressed : system.wakeButton click now = some after) :
    after.TellsAttempt := by
  cases click with
  | none =>
      cases pressed
      exact tells.startConfetti now
  | some click =>
      simp only [AppSystem.wakeButton] at pressed
      split at pressed
      · rename_i enabled
        cases pressed
        refine TellsAttempt.startConfetti ?_ now
        rcases inv.ui.beginWake_cases enabled system.wakeThreads.length
            click.attempt click.elapsedAt click.shownAt click.started with
          ⟨failure, _, same⟩ | ⟨target, body, same⟩
        · rw [same]
          refine finish click.attempt click.elapsedAt ?_ rfl rfl
          rw [commit_history, List.append_assoc]
          exact lastSummary_append_of_singleton (by
            rw [List.filterMap_append, summary?_confettiRaised]
            rfl)
        · rw [same]
          refine tells.keep rfl ?_ fun finished => by cases finished
          rw [commit_history, List.append_assoc]
          exact lastSummary_append_of_nil (by
            rw [List.filterMap_append, summary?_confettiRaised]
            rfl)
      · cases pressed

/-- The start of a check touches no attempt. -/
theorem attemptEvents_start
    (check : DiagnosticCheck)
    (channel : Nat)
    (now : Instant)
    (started : CheckStart) :
    attemptEvents (check.start channel now started).2 = [] := by
  cases started <;> rfl

/-- Every step shows the outcome of the last attempt. -/
theorem step
    (tells : system.TellsAttempt)
    (inv : system.Invariant)
    {label : SystemStep}
    (stepped : system.step? label = some after) :
    after.TellsAttempt := by
  cases label with
  | beginFrame input =>
      simp only [step?, Option.ite_none_right_eq_some] at stepped
      obtain ⟨_, ⟨⟩⟩ := stepped
      exact tells.keep rfl rfl fun _ => rfl
  | drainState elapsedAt shownAt =>
      obtain ⟨turn, drained, ⟨⟩, rfl⟩ := inPhase_eq_some_iff.mp stepped
      exact (tells.drainState inv elapsedAt shownAt).keep rfl rfl
        fun _ => rfl
  | drainHostStatus now =>
      obtain ⟨turn, drained, ⟨⟩, rfl⟩ := inPhase_eq_some_iff.mp stepped
      unfold AppSystem.drainHostStatus
      split
      · exact tells.keep rfl rfl fun _ => rfl
      · exact tells.keep rfl rfl fun _ => rfl
  | drainPing now =>
      obtain ⟨turn, drained, ⟨⟩, rfl⟩ := inPhase_eq_some_iff.mp stepped
      unfold AppSystem.drainPing
      split
      · exact tells.keep rfl rfl fun _ => rfl
      · exact tells.keep rfl rfl fun _ => rfl
  | timeouts terminalNow diagnosticNow =>
      obtain ⟨turn, passed, ⟨⟩, rfl⟩ := inPhase_eq_some_iff.mp stepped
      exact (tells.timeouts terminalNow diagnosticNow).keep rfl rfl
        fun _ => rfl
  | wakeButton click now =>
      obtain ⟨turn, next, pressed, rfl⟩ := inPhase_eq_some_iff.mp stepped
      exact (tells.wakeButton inv pressed).keep rfl rfl fun _ => rfl
  | hostStatusButton click =>
      obtain ⟨turn, next, pressed, rfl⟩ := inPhase_eq_some_iff.mp stepped
      cases click with
      | none =>
          cases pressed
          exact tells.keep rfl rfl fun _ => rfl
      | some click =>
          simp only [AppSystem.hostStatusButton,
            Option.ite_none_right_eq_some] at pressed
          obtain ⟨enabled, ⟨⟩⟩ := pressed
          rw [UiInvariant.beginHostStatusCheck_eq enabled]
          exact (tells.commit _ rfl (attemptEvents_start _ _ _ _)
            fun _ => rfl).keep rfl rfl fun _ => rfl
  | pingButton click =>
      obtain ⟨turn, next, pressed, rfl⟩ := inPhase_eq_some_iff.mp stepped
      cases click with
      | none =>
          cases pressed
          exact tells.keep rfl rfl fun _ => rfl
      | some click =>
          simp only [AppSystem.pingButton,
            Option.ite_none_right_eq_some] at pressed
          obtain ⟨enabled, ⟨⟩⟩ := pressed
          rw [UiInvariant.beginPingCheck_eq enabled]
          exact (tells.commit _ rfl (attemptEvents_start _ _ _ _)
            fun _ => rfl).keep rfl rfl fun _ => rfl
  | paintConfetti now =>
      obtain ⟨turn, painted, ⟨⟩, rfl⟩ := inPhase_eq_some_iff.mp stepped
      refine (tells.commit (system.app.paintConfetti now) ?_ ?_ ?_).keep
        rfl rfl fun _ => rfl
      all_goals
        unfold WakerApp.paintConfetti
        split
        · simp [attemptEvents]
        · split <;> simp [attemptEvents]
  | wakeThread channel =>
      obtain ⟨_, advanced, rfl⟩ := Option.map_eq_some_iff.mp stepped
      exact tells.keep rfl rfl fun _ => rfl
  | checkThread channel =>
      obtain ⟨_, advanced, rfl⟩ := Option.map_eq_some_iff.mp stepped
      exact tells.keep rfl rfl fun _ => rfl
  | wakePanic channel =>
      obtain ⟨_, panicked, rfl⟩ := Option.map_eq_some_iff.mp stepped
      exact tells.keep rfl rfl fun _ => rfl
  | checkPanic channel =>
      obtain ⟨_, panicked, rfl⟩ := Option.map_eq_some_iff.mp stepped
      exact tells.keep rfl rfl fun _ => rfl

end TellsAttempt

/-- A history that ends in a running attempt ends in its beginning. -/
theorem history_began
    {verdict : Origin → AttemptSummary → Prop}
    {attempt : ActiveAttempt}
    {origin : Origin}
    {events : List HistoryEvent}
    (history : History verdict (some (attempt, origin)) events) :
    ∃ earlier, events = earlier ++ [.began attempt origin] := by
  cases history with
  | began attempt origin earlier =>
      exact ⟨_, rfl⟩

/-- What a running attempt shows. -/
theorem runningShown
    (recorded : system.Recorded)
    {attempt : ActiveAttempt}
    (isActive : system.app.activeAttempt = some attempt) :
    RunningShown system attempt := by
  have busy : system.app.busy = true := by
    rw [recorded.inv.ui.busy_activeAttempt, isActive, Option.isSome_some]
  obtain ⟨current, history, underway⟩ := recorded.outcome.history
  refine ⟨?_, by simp [WakerApp.wakeEnabled, busy],
    by simp [WakerApp.diagnosticActionEnabled, busy]⟩
  cases current with
  | none =>
      rw [Underway, isActive] at underway
      cases underway
  | some running =>
      obtain ⟨own, origin⟩ := running
      obtain ⟨sameAttempt, channel, rfl, _, reported⟩ := underway
      cases isActive.symm.trans sameAttempt
      obtain ⟨earlier, began⟩ := history_began history
      exact ⟨channel, earlier, system.app.state, began, rfl,
        recorded.inv.ui.busy_state ▸ busy, reported⟩

/-- A button is ready exactly when its check does not run. -/
theorem label_ne_running_iff
    {texts : CheckTexts}
    (distinct : texts.Distinct)
    (check : DiagnosticCheck) :
    check.buttonLabel texts ≠ texts.running ↔ check.checkRx = none := by
  cases receiver : check.checkRx with
  | some channel =>
      simp [DiagnosticCheck.buttonLabel, receiver]
  | none =>
      refine iff_of_true ?_ rfl
      simp only [DiagnosticCheck.buttonLabel, receiver, Option.isSome_none,
        Bool.false_eq_true, if_false]
      split
      · split
        · exact distinct.answer_running _
        · exact distinct.running.symm
        · exact distinct.running.symm
      · exact distinct.running.symm

/-- What is shown of the attempts is truthful. -/
theorem TellsAttempt.truthful
    (tells : system.TellsAttempt)
    (recorded : system.Recorded) :
    WakeTruthful system := by
  have ui := recorded.inv.ui
  have inactive :
      system.app.activeAttempt = none ↔ system.app.busy = false := by
    rw [ui.busy_activeAttempt, Option.isSome_eq_false_iff,
      Option.isNone_iff_eq_none]
  have rests (terminal : system.app.state.isTerminal = true) :
      system.app.activeAttempt = none := by
    rw [inactive, ui.busy_state]
    exact UiInvariant.isProgress_of_isTerminal terminal
  exact {
    running := fun attempt isActive => runningShown recorded isActive
    resting := fun noAttempt => by
      rcases ui.resting (inactive.mp noAttempt) with idle | terminal
      · exact .inl (by rw [WakerApp.wakeButtonLabel, idle]; rfl)
      · rw [WakerApp.wakeButtonLabel]
        cases shown : system.app.state with
        | awake =>
            exact .inr rfl
        | failed failure =>
            exact .inl rfl
        | _ =>
            rw [shown] at terminal
            cases terminal
    awake := fun label => by
      have shown := (WakeState.buttonLabel_eq_awake_iff _).mp label
      have terminal : system.app.state.isTerminal = true := by
        rw [shown]
        rfl
      have outcome := tells.terminal terminal
      rw [tells.lastAttempt, shown] at outcome
      obtain ⟨summary, last, noFailure⟩ := Option.map_eq_some_iff.mp outcome
      exact ⟨summary, last, noFailure, rests terminal⟩
    failed := fun line shown => by
      obtain ⟨failure, failed, rfl⟩ := Option.map_eq_some_iff.mp shown
      have terminal : system.app.state.isTerminal = true := by
        cases state : system.app.state <;> rw [state] at failed <;>
          first
            | rfl
            | cases failed
      have outcome := tells.terminal terminal
      rw [tells.lastAttempt, failed] at outcome
      obtain ⟨summary, last, sameFailure⟩ :=
        Option.map_eq_some_iff.mp outcome
      exact ⟨summary, failure, last, sameFailure, rfl, rests terminal⟩
    lastWake := fun formatSeconds => by
      rw [WakerApp.lastWakeLine, tells.lastAttempt]
    enabled := by
      rw [WakerApp.wakeButtonLabel, WakeState.buttonLabel_eq_wake_iff,
        WakerApp.hostStatusButtonLabel, WakerApp.pingButtonLabel,
        label_ne_running_iff hostStatusTexts_distinct,
        label_ne_running_iff pingTexts_distinct, ← ui.busy_state]
      simp [WakerApp.wakeEnabled, and_assoc]
    diagnosticEnabled := by
      rw [inactive, WakerApp.hostStatusButtonLabel, WakerApp.pingButtonLabel,
        label_ne_running_iff hostStatusTexts_distinct,
        label_ne_running_iff pingTexts_distinct]
      simp [WakerApp.diagnosticActionEnabled, and_assoc]
  }

/-- In every run the screen tells the truth about the attempts. -/
theorem wakeTruthful_always (labels : List SystemStep) :
    StepSystem.Always step? WakeTruthful initial labels := by
  have preserved
      (system : AppSystem)
      (label : SystemStep)
      (after : AppSystem)
      (held : system.TellsAttempt ∧ system.Recorded)
      (stepped : system.step? label = some after) :
      after.TellsAttempt ∧ after.Recorded :=
    ⟨held.1.step held.2.inv stepped, held.2.step stepped⟩
  exact StepSystem.always_of_invariant preserved
    (fun _ held => held.1.truthful held.2)
    ⟨TellsAttempt.initial, Recorded.initial⟩ labels

end AppSystem

end Waker
