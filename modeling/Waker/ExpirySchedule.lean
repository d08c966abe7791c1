import Mathlib.Order.MinMax
import Waker.SystemInvariant

namespace Waker

/-!
# Repaints for the results on display

A result on display has a deadline, and the frame that shows it must ask for a
repaint no later than that.  An observer notes the times for which the code of
the current frame has requested a repaint; a delay counts from the clock
reading it was computed from, and what the workers request does not count.
`begin_wake` is the one place that sets a deadline after the frame's timeout
updates and requests nothing itself.
-/

/-- The times for which effects request a repaint, counted from a reading. -/
def timesOf (now : Instant) (effects : List UiEffect) : List Instant :=
  effects.filterMap fun effect =>
    match effect with
    | .requestRepaintAfter delay => some (now + delay)
    | _ => none

/-- Some repaint is requested for a time no later than the deadline. -/
def RequestedBy (requests : List Instant) (deadline : Instant) : Prop :=
  ∃ time ∈ requests, time ≤ deadline

instance (requests : List Instant) (deadline : Instant) :
    Decidable (RequestedBy requests deadline) :=
  inferInstanceAs (Decidable (∃ time ∈ requests, time ≤ deadline))

/-- A deadline that is set has a repaint requested. -/
def Scheduled
    (requests : List Instant)
    (deadline? : Option Instant) : Prop :=
  ∀ deadline, deadline? = some deadline → RequestedBy requests deadline

/-- Every deadline of the application has a repaint requested. -/
structure ExpiriesScheduled
    (requests : List Instant)
    (app : WakerApp) : Prop where
  terminal : Scheduled requests app.terminalStateDeadline
  hostStatus : Scheduled requests app.hostStatus.statusDeadline
  ping : Scheduled requests app.ping.statusDeadline

/-- A wake attempt is given up before a worker exists. -/
def WakeStart.isRefused : WakeStart → Bool
  | .spawned _ _ => false
  | _ => true

/-- A diagnostic check is given up before a worker exists. -/
def CheckStart.isRefused : CheckStart → Bool
  | .spawned _ _ => false
  | _ => true

namespace WakerApp

/-- The deadlines of the results on display. -/
def deadlines (app : WakerApp) : List Instant :=
  app.terminalStateDeadline.toList ++ app.hostStatus.statusDeadline.toList ++
    app.ping.statusDeadline.toList

/-- The confetti is still falling. -/
def confettiFalling (now : Instant) (app : WakerApp) : Bool :=
  app.confetti.any fun started => now.durationSince started < CONFETTI_DURATION

end WakerApp

/-- What is noted about the current frame. -/
structure FrameRecord where
  requests : List Instant
  uncovered : Option Instant
  deriving DecidableEq

namespace FrameRecord

/-- Nothing has happened in the frame. -/
def empty : FrameRecord where
  requests := []
  uncovered := none

/-- The times for which a step of the frame's code requests a repaint. -/
def requestTimes (system : AppSystem) : SystemStep → List Instant
  | .drainState elapsedAt shownAt =>
      match
        ReportingThread.listening? system.wakeThreads system.app.stateRx
      with
      | none => []
      | some (_, thread) =>
          timesOf shownAt
            (system.app.drainStateUpdates elapsedAt shownAt thread.unread
              thread.disconnected).2
  | .timeouts terminalNow diagnosticNow =>
      let terminal := system.app.updateTerminalStateTimeout terminalNow
      let diagnostic :=
        terminal.1.updateDiagnosticResultTimeouts diagnosticNow
      timesOf terminalNow (terminal.2.toList.map .requestRepaintAfter) ++
        timesOf diagnosticNow (diagnostic.2.toList.map .requestRepaintAfter)
  | .wakeButton (some click) _ =>
      timesOf click.shownAt
        (system.app.beginWake system.wakeThreads.length click.attempt
          click.elapsedAt click.shownAt click.started).2
  | .hostStatusButton (some click) =>
      timesOf click.now
        (system.app.beginHostStatusCheck system.checkThreads.length click.now
          click.started).2
  | .pingButton (some click) =>
      timesOf click.now
        (system.app.beginPingCheck system.checkThreads.length click.now
          click.started).2
  | .paintConfetti now => timesOf now (system.app.paintConfetti now).2
  | _ => []

/-- A check click that is refused at once covers a later deadline. -/
def coverByCheck
    (click : CheckClick)
    (uncovered : Option Instant) : Option Instant :=
  uncovered.filter fun deadline =>
    !(click.started.isRefused &&
      click.now + TERMINAL_STATE_DISPLAY_DURATION ≤ deadline)

/--
The deadline of an attempt refused in this frame, unless another result on
display expires no later, a check is refused no later in the same frame, or
confetti is painted before it.
-/
def leftUncovered (system : AppSystem) :
    SystemStep → Option Instant → Option Instant
  | .beginFrame _, _ => none
  | .wakeButton (some click) _, uncovered =>
      let deadline := click.shownAt + TERMINAL_STATE_DISPLAY_DURATION
      if click.started.isRefused &&
          !system.app.deadlines.any (fun shown => shown ≤ deadline) then
        some deadline
      else
        uncovered
  | .hostStatusButton (some click), uncovered => coverByCheck click uncovered
  | .pingButton (some click), uncovered => coverByCheck click uncovered
  | .paintConfetti now, uncovered =>
      uncovered.filter fun deadline =>
        !(system.app.confettiFalling now && now ≤ deadline)
  | _, uncovered => uncovered

/-- Note a step of the frame. -/
def observe
    (system : AppSystem)
    (label : SystemStep)
    (record : FrameRecord) : FrameRecord where
  requests :=
    match label with
    | .beginFrame _ => []
    | _ => record.requests ++ requestTimes system label
  uncovered := leftUncovered system label record.uncovered

end FrameRecord

section Requests

variable {requests : List Instant}
variable {deadline : Instant}
variable {deadline? : Option Instant}

/-- A request stays when others are added. -/
theorem RequestedBy.append
    (requested : RequestedBy requests deadline)
    (more : List Instant) :
    RequestedBy (requests ++ more) deadline := by
  obtain ⟨time, member, inTime⟩ := requested
  exact ⟨time, List.mem_append_left more member, inTime⟩

/-- A deadline stays scheduled when other requests are added. -/
theorem Scheduled.append
    (scheduled : Scheduled requests deadline?)
    (more : List Instant) :
    Scheduled (requests ++ more) deadline? :=
  fun deadline isSet => (scheduled deadline isSet).append more

/-- There is nothing to schedule without a deadline. -/
theorem Scheduled.none (requests : List Instant) :
    Scheduled requests none :=
  fun _ isSet => by cases isSet

/-- A deadline that is set is scheduled by a request before it. -/
theorem scheduled_some_iff :
    Scheduled requests (some deadline) ↔ RequestedBy requests deadline := by
  simp [Scheduled]

/-- The requests of two lists. -/
theorem requestedBy_append_iff {more : List Instant} :
    RequestedBy (requests ++ more) deadline ↔
      RequestedBy requests deadline ∨ RequestedBy more deadline := by
  simp only [RequestedBy, List.mem_append, or_and_right, exists_or]

/-- A single request. -/
theorem requestedBy_singleton_iff {time : Instant} :
    RequestedBy [time] deadline ↔ time ≤ deadline := by
  simp [RequestedBy]

/-- No request. -/
theorem not_requestedBy_nil : ¬ RequestedBy [] deadline := by
  simp [RequestedBy]

end Requests

section Timeouts

/-- A delay that may be needed is requested from its reading on. -/
theorem timesOf_toList
    (now : Instant)
    (delay? : Option Duration) :
    timesOf now (delay?.toList.map .requestRepaintAfter) =
      (delay?.map fun delay => now + delay).toList := by
  cases delay? <;> rfl

/-- Waiting for the remaining time ends at the deadline. -/
theorem add_durationSince
    {now deadline : Nat}
    (later : ¬ deadline ≤ now) :
    now + Instant.durationSince deadline now = deadline := by
  unfold Instant.durationSince
  omega

/-- The timeout of a check asks for its deadline. -/
theorem DiagnosticCheck.map_updateTimeout
    (now : Instant)
    (check : DiagnosticCheck) :
    ((check.updateTimeout now).2.map fun delay => now + delay) =
      (check.updateTimeout now).1.statusDeadline := by
  unfold DiagnosticCheck.updateTimeout
  cases isSet : check.statusDeadline with
  | none =>
      exact isSet.symm
  | some deadline =>
      by_cases expired : deadline ≤ now
      · simp [expired]
      · simp [expired, isSet, add_durationSince expired]

namespace WakerApp

/-- The timeout of a terminal state asks for its deadline. -/
theorem map_updateTerminalStateTimeout
    (now : Instant)
    (app : WakerApp) :
    ((app.updateTerminalStateTimeout now).2.map fun delay => now + delay) =
      (app.updateTerminalStateTimeout now).1.terminalStateDeadline := by
  unfold updateTerminalStateTimeout
  cases isSet : app.terminalStateDeadline with
  | none =>
      exact isSet.symm
  | some deadline =>
      cases terminal : app.state.isTerminal with
      | false =>
          rfl
      | true =>
          by_cases expired : deadline ≤ now
          · simp [expired]
          · simp [expired, isSet, add_durationSince expired]

/-- The earlier of the two diagnostic deadlines. -/
def nextDiagnosticDeadline (app : WakerApp) : Option Instant :=
  Option.merge min app.hostStatus.statusDeadline app.ping.statusDeadline

/-- The timeouts of the diagnostic results ask for the earlier deadline. -/
theorem map_updateDiagnosticResultTimeouts
    (now : Instant)
    (app : WakerApp) :
    ((app.updateDiagnosticResultTimeouts now).2.map
        fun delay => now + delay) =
      (app.updateDiagnosticResultTimeouts now).1.nextDiagnosticDeadline := by
  have host := app.hostStatus.map_updateTimeout now
  have ping := app.ping.map_updateTimeout now
  simp only [updateDiagnosticResultTimeouts, nextDiagnosticDeadline, ← host,
    ← ping]
  cases (app.hostStatus.updateTimeout now).2 <;>
    cases (app.ping.updateTimeout now).2 <;>
      simp [Option.merge, Nat.add_min_add_left]

/-- The timeouts of the diagnostic results leave the terminal state alone. -/
@[simp] theorem updateDiagnosticResultTimeouts_terminalStateDeadline
    (now : Instant)
    (app : WakerApp) :
    (app.updateDiagnosticResultTimeouts now).1.terminalStateDeadline =
      app.terminalStateDeadline :=
  rfl

/-- What a frame has requested when its timeouts were updated. -/
def shownRequests (app : WakerApp) : List Instant :=
  app.terminalStateDeadline.toList ++ app.nextDiagnosticDeadline.toList

/-- A request is no later than an instant when some shown deadline is. -/
theorem requestedBy_shownRequests_iff
    {app : WakerApp}
    {deadline : Instant} :
    RequestedBy app.shownRequests deadline ↔
      app.deadlines.any (fun shown => shown ≤ deadline) = true := by
  simp only [shownRequests, nextDiagnosticDeadline, deadlines,
    requestedBy_append_iff, List.any_append, Bool.or_eq_true, or_assoc]
  refine or_congr ?_ ?_
  · cases app.terminalStateDeadline <;> simp [RequestedBy]
  · cases app.hostStatus.statusDeadline <;>
      cases app.ping.statusDeadline <;>
        simp [RequestedBy, Option.merge]

/-- After the timeouts everything on display is scheduled. -/
theorem expiriesScheduled_shownRequests (app : WakerApp) :
    ExpiriesScheduled app.shownRequests app := by
  constructor <;>
    · intro deadline isSet
      rw [requestedBy_shownRequests_iff]
      simp [deadlines, isSet]

end WakerApp

end Timeouts

namespace FrameRecord

open AppSystem

/--
Late in the frame only the terminal state can lack a request, and it does so
exactly while its deadline is noted as uncovered.
-/
structure Tracks
    (record : FrameRecord)
    (app : WakerApp) : Prop where
  hostStatus : Scheduled record.requests app.hostStatus.statusDeadline
  ping : Scheduled record.requests app.ping.statusDeadline
  covered :
    record.uncovered = none →
    Scheduled record.requests app.terminalStateDeadline
  uncovered :
    ∀ deadline,
      record.uncovered = some deadline →
      app.terminalStateDeadline = some deadline ∧
      ¬ RequestedBy record.requests deadline

/-- The record says exactly when everything on display is scheduled. -/
theorem Tracks.iff
    {record : FrameRecord}
    {app : WakerApp}
    (tracks : record.Tracks app) :
    ExpiriesScheduled record.requests app ↔ record.uncovered = none := by
  constructor
  · intro scheduled
    by_contra notNone
    obtain ⟨deadline, isUncovered⟩ := Option.ne_none_iff_exists'.mp notNone
    obtain ⟨isSet, unrequested⟩ := tracks.uncovered deadline isUncovered
    exact unrequested (scheduled.terminal deadline isSet)
  · intro covered
    exact ⟨tracks.covered covered, tracks.hostStatus, tracks.ping⟩

/-- What holds of the record at each point of a frame. -/
def Follows (record : FrameRecord) (system : AppSystem) : Prop :=
  match system.phase with
  | .drainState => record = empty
  | .drainHostStatus => record = empty
  | .drainPing => record = empty
  | .timeouts => record = empty
  | .wakeButton =>
      record.uncovered = none ∧
      record.requests = system.app.shownRequests
  | _ => record.Tracks system.app

namespace Tracks

variable {record : FrameRecord}
variable {app after : WakerApp}

/-- Right after the wake button, when nothing new is on display. -/
theorem ofShown
    (covered : record.uncovered = none)
    (requests : record.requests = app.shownRequests) :
    record.Tracks app := by
  have scheduled := app.expiriesScheduled_shownRequests
  rw [← requests] at scheduled
  exact {
    hostStatus := scheduled.hostStatus
    ping := scheduled.ping
    covered := fun _ => scheduled.terminal
    uncovered := by simp [covered]
  }

/-- Later requests cover what they are in time for. -/
theorem more
    (tracks : record.Tracks app)
    {requests : List Instant}
    {uncovered : Option Instant}
    (terminal : after.terminalStateDeadline = app.terminalStateDeadline)
    (hostStatus :
      Scheduled (record.requests ++ requests) after.hostStatus.statusDeadline)
    (ping : Scheduled (record.requests ++ requests) after.ping.statusDeadline)
    (kept :
      ∀ deadline,
        uncovered = some deadline ↔
          record.uncovered = some deadline ∧
          ¬ RequestedBy requests deadline) :
    Tracks ⟨record.requests ++ requests, uncovered⟩ after where
  hostStatus := hostStatus
  ping := ping
  covered covered := by
    rw [terminal]
    cases before : record.uncovered with
    | none =>
        exact (tracks.covered before).append requests
    | some deadline =>
        rw [(tracks.uncovered deadline before).1, scheduled_some_iff,
          requestedBy_append_iff]
        by_contra unrequested
        simp only at covered
        rw [not_or] at unrequested
        have still := (kept deadline).mpr ⟨before, unrequested.2⟩
        rw [covered] at still
        cases still
  uncovered deadline isUncovered := by
    obtain ⟨before, unrequested⟩ := (kept deadline).mp isUncovered
    obtain ⟨isSet, earlier⟩ := tracks.uncovered deadline before
    rw [terminal, requestedBy_append_iff, not_or]
    exact ⟨isSet, earlier, unrequested⟩

end Tracks

section Operations

variable (app : WakerApp)

/-- Finishing an attempt requests nothing. -/
theorem timesOf_finishAttempt (elapsedAt shownAt : Instant) :
    timesOf shownAt (app.finishAttempt elapsedAt shownAt).2 = [] := by
  unfold WakerApp.finishAttempt
  split <;> rfl

/-- Draining the wake worker's channel requests nothing. -/
theorem timesOf_drainStateUpdates
    (elapsedAt shownAt : Instant)
    (messages : List WakeState)
    (disconnected : Bool) :
    timesOf shownAt
        (app.drainStateUpdates elapsedAt shownAt messages
          disconnected).2 =
      [] := by
  simp only [WakerApp.drainStateUpdates]
  split
  · exact timesOf_finishAttempt _ elapsedAt shownAt
  · rfl

/-- What beginning an attempt displays and requests. -/
theorem beginWake_deadlines
    (channel : Nat)
    (attempt : ActiveAttempt)
    (elapsedAt shownAt : Instant)
    (started : WakeStart) :
    let begun := app.beginWake channel attempt elapsedAt shownAt started
    begun.1.terminalStateDeadline =
        (if started.isRefused then
          some (shownAt + TERMINAL_STATE_DISPLAY_DURATION)
        else
          none) ∧
      begun.1.hostStatus = app.hostStatus ∧
      begun.1.ping = app.ping ∧
      timesOf shownAt begun.2 = [] := by
  cases started <;> exact ⟨rfl, rfl, rfl, rfl⟩

/-- Starting the confetti displays no result. -/
theorem startConfetti_deadlines (now : Instant) :
    (app.startConfetti now).terminalStateDeadline =
        app.terminalStateDeadline ∧
      (app.startConfetti now).hostStatus = app.hostStatus ∧
      (app.startConfetti now).ping = app.ping := by
  unfold WakerApp.startConfetti
  split <;> exact ⟨rfl, rfl, rfl⟩

/-- A check that is refused at once requests its own deadline. -/
theorem start_scheduled
    (channel : Nat)
    (now : Instant)
    (started : CheckStart)
    (check : DiagnosticCheck) :
    Scheduled (timesOf now (check.start channel now started).2)
      (check.start channel now started).1.statusDeadline := by
  cases started with
  | rejected message =>
      exact scheduled_some_iff.mpr
        (requestedBy_singleton_iff.mpr (Nat.le_refl _))
  | notSpawned job error =>
      exact scheduled_some_iff.mpr
        (requestedBy_singleton_iff.mpr (Nat.le_refl _))
  | spawned job body =>
      exact Scheduled.none _

/-- A click on a diagnostic button covers what its refusal is in time for. -/
theorem coverByCheck_eq_some_iff
    (channel : Nat)
    (click : CheckClick)
    (check : DiagnosticCheck)
    (uncovered : Option Instant)
    (deadline : Instant) :
    coverByCheck click uncovered = some deadline ↔
      uncovered = some deadline ∧
      ¬ RequestedBy
        (timesOf click.now (check.start channel click.now click.started).2)
        deadline := by
  rw [coverByCheck, Option.filter_eq_some_iff]
  refine and_congr_right fun _ => ?_
  rcases click with ⟨now, _ | _ | _⟩ <;>
    simp [CheckStart.isRefused, DiagnosticCheck.start,
      DiagnosticCheck.reject, timesOf, RequestedBy]

/-- Painting the confetti displays no result. -/
theorem paintConfetti_deadlines (now : Instant) :
    (app.paintConfetti now).1.terminalStateDeadline =
        app.terminalStateDeadline ∧
      (app.paintConfetti now).1.hostStatus = app.hostStatus ∧
      (app.paintConfetti now).1.ping = app.ping := by
  unfold WakerApp.paintConfetti
  split
  · exact ⟨rfl, rfl, rfl⟩
  · split <;> exact ⟨rfl, rfl, rfl⟩

/-- Falling confetti requests a repaint at once. -/
theorem timesOf_paintConfetti (now : Instant) :
    timesOf now (app.paintConfetti now).2 =
      if app.confettiFalling now then [now] else [] := by
  unfold WakerApp.paintConfetti WakerApp.confettiFalling
  cases app.confetti with
  | none =>
      rfl
  | some started =>
      by_cases ended : CONFETTI_DURATION ≤ now.durationSince started
      · simp [ended, Nat.not_lt.mpr ended, timesOf]
      · simp [ended, Nat.lt_of_not_le ended, timesOf]

end Operations

section Steps

variable {record : FrameRecord}
variable {system after : AppSystem}

/-- The timeout updates request a repaint for everything on display. -/
theorem requestTimes_timeouts (terminalNow diagnosticNow : Instant) :
    requestTimes system (.timeouts terminalNow diagnosticNow) =
      (system.timeouts terminalNow diagnosticNow).app.shownRequests := by
  simp only [requestTimes, timesOf_toList,
    WakerApp.map_updateTerminalStateTimeout,
    WakerApp.map_updateDiagnosticResultTimeouts]
  rfl

/-- Whether a refused attempt lacks a request. -/
theorem leftUncovered_wakeButton
    (requests : record.requests = system.app.shownRequests)
    (click : WakeClick)
    (now : Instant) :
    leftUncovered system (.wakeButton (some click) now) none =
      if click.started.isRefused = true ∧
          ¬ RequestedBy record.requests
            (click.shownAt + TERMINAL_STATE_DISPLAY_DURATION) then
        some (click.shownAt + TERMINAL_STATE_DISPLAY_DURATION)
      else
        none := by
  simp [leftUncovered, requests, WakerApp.requestedBy_shownRequests_iff]

/-- After the wake button only a refused attempt can lack a request. -/
theorem tracks_wakeButton
    (covered : record.uncovered = none)
    (requests : record.requests = system.app.shownRequests)
    {click : Option WakeClick}
    {now : Instant}
    (pressed : system.wakeButton click now = some after) :
    (observe system (.wakeButton click now) record).Tracks after.app := by
  have tracks : record.Tracks system.app := .ofShown covered requests
  cases click with
  | none =>
      cases pressed
      obtain ⟨terminal, hostStatus, ping⟩ :=
        startConfetti_deadlines system.app now
      refine tracks.more terminal ?_ ?_ ?_
      · rw [hostStatus]
        exact tracks.hostStatus.append []
      · rw [ping]
        exact tracks.ping.append []
      · simp [leftUncovered, requestTimes, not_requestedBy_nil]
  | some click =>
      simp only [AppSystem.wakeButton, Option.ite_none_right_eq_some]
        at pressed
      obtain ⟨_, ⟨⟩⟩ := pressed
      obtain ⟨begunTerminal, begunHost, begunPing, unrequested⟩ :=
        beginWake_deadlines system.app system.wakeThreads.length
          click.attempt click.elapsedAt click.shownAt click.started
      obtain ⟨terminal, hostStatus, ping⟩ :=
        startConfetti_deadlines
          (system.app.beginWake system.wakeThreads.length click.attempt
            click.elapsedAt click.shownAt click.started).1
          now
      rw [begunTerminal] at terminal
      rw [begunHost] at hostStatus
      rw [begunPing] at ping
      simp only [observe, requestTimes, unrequested, List.append_nil, covered,
        leftUncovered_wakeButton requests, commit_app]
      constructor
      · rw [hostStatus]
        exact tracks.hostStatus
      · rw [ping]
        exact tracks.ping
      · intro notLeft deadline isSet
        rw [terminal, Option.ite_none_right_eq_some] at isSet
        obtain ⟨refused, ⟨⟩⟩ := isSet
        by_contra late
        simp only [refused, late, not_false_eq_true, and_self, if_true]
          at notLeft
        cases notLeft
      · intro deadline left
        rw [Option.ite_none_right_eq_some] at left
        obtain ⟨⟨refused, late⟩, ⟨⟩⟩ := left
        exact ⟨by rw [terminal, if_pos refused], late⟩

/-- A click on the host status button schedules what it displays. -/
theorem tracks_hostStatusButton
    (tracks : record.Tracks system.app)
    {click : Option CheckClick}
    (pressed : system.hostStatusButton click = some after) :
    (observe system (.hostStatusButton click) record).Tracks after.app := by
  cases click with
  | none =>
      cases pressed
      exact tracks.more rfl (tracks.hostStatus.append [])
        (tracks.ping.append [])
        (by simp [leftUncovered, requestTimes, not_requestedBy_nil])
  | some click =>
      simp only [AppSystem.hostStatusButton, Option.ite_none_right_eq_some]
        at pressed
      obtain ⟨enabled, ⟨⟩⟩ := pressed
      simp only [observe, requestTimes, leftUncovered, commit_app,
        UiInvariant.beginHostStatusCheck_eq enabled]
      refine tracks.more rfl ?_ (tracks.ping.append _)
        (coverByCheck_eq_some_iff _ _ _ _)
      intro deadline isSet
      exact requestedBy_append_iff.mpr
        (.inr (start_scheduled _ _ _ _ deadline isSet))

/-- A click on the ping button schedules what it displays. -/
theorem tracks_pingButton
    (tracks : record.Tracks system.app)
    {click : Option CheckClick}
    (pressed : system.pingButton click = some after) :
    (observe system (.pingButton click) record).Tracks after.app := by
  cases click with
  | none =>
      cases pressed
      exact tracks.more rfl (tracks.hostStatus.append [])
        (tracks.ping.append [])
        (by simp [leftUncovered, requestTimes, not_requestedBy_nil])
  | some click =>
      simp only [AppSystem.pingButton, Option.ite_none_right_eq_some]
        at pressed
      obtain ⟨enabled, ⟨⟩⟩ := pressed
      simp only [observe, requestTimes, leftUncovered, commit_app,
        UiInvariant.beginPingCheck_eq enabled]
      refine tracks.more rfl (tracks.hostStatus.append _) ?_
        (coverByCheck_eq_some_iff _ _ _ _)
      intro deadline isSet
      exact requestedBy_append_iff.mpr
        (.inr (start_scheduled _ _ _ _ deadline isSet))

/-- The confetti covers what it is painted in time for. -/
theorem tracks_paintConfetti
    (tracks : record.Tracks system.app)
    (now : Instant) :
    (observe system (.paintConfetti now) record).Tracks
      (system.commit (system.app.paintConfetti now)).app := by
  obtain ⟨terminal, hostStatus, ping⟩ :=
    paintConfetti_deadlines system.app now
  simp only [observe, requestTimes, leftUncovered, commit_app,
    timesOf_paintConfetti]
  refine tracks.more terminal ?_ ?_ fun deadline => ?_
  · rw [hostStatus]
    exact tracks.hostStatus.append _
  · rw [ping]
    exact tracks.ping.append _
  · rw [Option.filter_eq_some_iff]
    cases system.app.confettiFalling now <;>
      simp [requestedBy_singleton_iff, not_requestedBy_nil]

/-- Until the timeouts are updated, nothing is requested. -/
theorem Follows.eq_empty
    (follows : record.Follows system)
    (early :
      system.phase ∈
        [.drainState, .drainHostStatus, .drainPing, .timeouts]) :
    record = empty := by
  unfold Follows at follows
  cases phase : system.phase <;> simp_all

/-- After the wake button, the record tracks what is on display. -/
theorem Follows.tracks
    (follows : record.Follows system)
    (late :
      system.phase ∈
        [.hostStatusButton, .pingButton, .paintConfetti, .idle]) :
    record.Tracks system.app := by
  unfold Follows at follows
  cases phase : system.phase <;> simp_all

/-- Every step keeps the record in step with the frame. -/
theorem Follows.step
    (follows : record.Follows system)
    {label : SystemStep}
    (stepped : system.step? label = some after) :
    (observe system label record).Follows after := by
  cases label with
  | beginFrame input =>
      simp only [step?, Option.ite_none_right_eq_some] at stepped
      obtain ⟨_, ⟨⟩⟩ := stepped
      rfl
  | drainState elapsedAt shownAt =>
      obtain ⟨inTurn, after, ⟨⟩, rfl⟩ := inPhase_eq_some_iff.mp stepped
      cases follows.eq_empty (by simp [inTurn])
      simp only [Follows, observe, requestTimes, leftUncovered,
        timesOf_drainStateUpdates]
      split <;> rfl
  | drainHostStatus now =>
      obtain ⟨inTurn, after, ⟨⟩, rfl⟩ := inPhase_eq_some_iff.mp stepped
      cases follows.eq_empty (by simp [inTurn])
      rfl
  | drainPing now =>
      obtain ⟨inTurn, after, ⟨⟩, rfl⟩ := inPhase_eq_some_iff.mp stepped
      cases follows.eq_empty (by simp [inTurn])
      rfl
  | timeouts terminalNow diagnosticNow =>
      obtain ⟨inTurn, after, ⟨⟩, rfl⟩ := inPhase_eq_some_iff.mp stepped
      cases follows.eq_empty (by simp [inTurn])
      exact ⟨rfl, requestTimes_timeouts terminalNow diagnosticNow⟩
  | wakeButton click now =>
      obtain ⟨inTurn, after, pressed, rfl⟩ := inPhase_eq_some_iff.mp stepped
      have shown :
          record.uncovered = none ∧
          record.requests = system.app.shownRequests := by
        simpa [Follows, inTurn] using follows
      have tracks :
          (observe system (.wakeButton click now) record).Tracks after.app :=
        tracks_wakeButton shown.1 shown.2 pressed
      exact tracks
  | hostStatusButton click =>
      obtain ⟨inTurn, after, pressed, rfl⟩ := inPhase_eq_some_iff.mp stepped
      have tracks := follows.tracks (by simp [inTurn])
      have tracked :
          (observe system (.hostStatusButton click) record).Tracks
            after.app :=
        tracks_hostStatusButton tracks pressed
      exact tracked
  | pingButton click =>
      obtain ⟨inTurn, after, pressed, rfl⟩ := inPhase_eq_some_iff.mp stepped
      have tracks := follows.tracks (by simp [inTurn])
      have tracked :
          (observe system (.pingButton click) record).Tracks after.app :=
        tracks_pingButton tracks pressed
      exact tracked
  | paintConfetti now =>
      obtain ⟨inTurn, after, ⟨⟩, rfl⟩ := inPhase_eq_some_iff.mp stepped
      have tracks := follows.tracks (by simp [inTurn])
      exact tracks_paintConfetti tracks now
  | wakeThread channel =>
      simp only [step?, AppSystem.wakeThread, Option.map_eq_some_iff] at stepped
      obtain ⟨_, _, rfl⟩ := stepped
      simp only [observe, requestTimes, leftUncovered, List.append_nil]
      exact follows
  | checkThread channel =>
      simp only [step?, AppSystem.checkThread, Option.map_eq_some_iff]
        at stepped
      obtain ⟨_, _, rfl⟩ := stepped
      simp only [observe, requestTimes, leftUncovered, List.append_nil]
      exact follows
  | wakePanic channel =>
      simp only [step?, AppSystem.wakePanic, Option.map_eq_some_iff] at stepped
      obtain ⟨_, _, rfl⟩ := stepped
      simp only [observe, requestTimes, leftUncovered, List.append_nil]
      exact follows
  | checkPanic channel =>
      simp only [step?, AppSystem.checkPanic, Option.map_eq_some_iff]
        at stepped
      obtain ⟨_, _, rfl⟩ := stepped
      simp only [observe, requestTimes, leftUncovered, List.append_nil]
      exact follows

end Steps

/-- A new application displays nothing. -/
theorem Follows.initial : empty.Follows initial where
  hostStatus := Scheduled.none []
  ping := Scheduled.none []
  covered _ := Scheduled.none []
  uncovered _ isUncovered := by cases isUncovered

end FrameRecord

namespace AppSystem

/-- Between two frames every deadline was scheduled by the last frame. -/
def ScheduledWhenIdle (observed : AppSystem × FrameRecord) : Prop :=
  observed.1.phase = .idle →
    ExpiriesScheduled observed.2.requests observed.1.app

/-- A frame schedules every deadline exactly when it leaves none uncovered. -/
def ScheduledIffCovered (observed : AppSystem × FrameRecord) : Prop :=
  observed.1.phase = .idle →
    (ExpiriesScheduled observed.2.requests observed.1.app ↔
      observed.2.uncovered = none)

/-- Every frame of every run schedules exactly the expiries that it covers. -/
theorem scheduled_iff_covered (labels : List SystemStep) :
    StepSystem.Always (StepSystem.observing step? FrameRecord.observe)
      ScheduledIffCovered (initial, .empty) labels := by
  have preserved
      (observed : AppSystem × FrameRecord)
      (label : SystemStep)
      (after : AppSystem × FrameRecord)
      (follows : observed.2.Follows observed.1)
      (stepped :
        StepSystem.observing step? FrameRecord.observe observed label =
          some after) :
      after.2.Follows after.1 := by
    obtain ⟨taken, seen⟩ := StepSystem.observing_eq_some_iff.mp stepped
    rw [seen]
    exact follows.step taken
  have implied
      (observed : AppSystem × FrameRecord)
      (follows : observed.2.Follows observed.1) :
      ScheduledIffCovered observed := by
    intro idle
    exact (follows.tracks (by simp [idle])).iff
  exact StepSystem.always_of_invariant preserved implied
    FrameRecord.Follows.initial labels

/-- In the first frame the wake button is clicked with an unusable profile. -/
def refusedRun : List SystemStep :=
  frame 0 (some (firstClick (.rejected "could not read WireGuard profile")))
    none

/-- The failure is displayed, and the frame has requested no repaint. -/
theorem refusedRun_unscheduled :
    ¬ StepSystem.Always (StepSystem.observing step? FrameRecord.observe)
      ScheduledWhenIdle (initial, .empty) refusedRun := by
  intro always
  have displayed :
      (StepSystem.run? (StepSystem.observing step? FrameRecord.observe)
          (initial, .empty) refusedRun).map
          (fun final =>
            (final.1.phase, final.1.app.terminalStateDeadline,
              final.2.requests)) =
        some (.idle, some TERMINAL_STATE_DISPLAY_DURATION, []) := by
    decide
  obtain ⟨final, returned, same⟩ := Option.map_eq_some_iff.mp displayed
  simp only [Prod.mk.injEq] at same
  obtain ⟨idle, isSet, unrequested⟩ := same
  have scheduled := (always.last returned idle).terminal _ isSet
  rw [unrequested] at scheduled
  exact not_requestedBy_nil scheduled

end AppSystem

end Waker
