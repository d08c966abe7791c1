import Waker.SystemSteps
import Waker.ThreadOutcome

namespace Waker

open ReportingThread

/-!
# The latest check

What the app keeps of a diagnostic check amounts to the latest check that was
asked for: how it was refused, or which worker was spawned for it, and what the
frames have found in that worker's channel.  An observer of the system keeps
this record without looking at the app.
-/

/-- The result that a diagnostic worker reports. -/
def CheckBody.result : CheckBody → Except String Bool
  | .noRuntime error =>
      .error ("could not start networking runtime: " ++ error)
  | .check (.error error) _ => .error error
  | .check (.ok ()) answer => answer

/-- A diagnostic worker sends its result and nothing else. -/
theorem CheckBody.sends_program (body : CheckBody) :
    sends body.program = [body.result] := by
  rcases body with error | ⟨error | _, answer⟩ <;> rfl

/-- How a check came to an end. -/
inductive CheckEnd where
  | refused (message : String)
  | reported (channel : Nat) (body : CheckBody)
  | lost (channel : Nat)

/-- The result of a check, given what is said of a worker that is lost. -/
def CheckEnd.result (lost : String) : CheckEnd → Except String Bool
  | .refused message => .error message
  | .reported _ body => body.result
  | .lost _ => .error lost

/-- The latest check, when its end was noticed, and whether it is displayed. -/
inductive CheckRecord where
  | never
  | running (channel : Nat) (body : CheckBody)
  | finished (ended : CheckEnd) (noticed : Instant) (displayed : Bool)

namespace CheckRecord

/-- A check was asked for; a worker would get the given channel. -/
def ofStart (channel : Nat) (now : Instant) : CheckStart → CheckRecord
  | .rejected message => .finished (.refused message) now true
  | .notSpawned _ error =>
      .finished (.refused ("Could not create worker thread: " ++ error)) now
        true
  | .spawned _ body => .running channel body

/-- A frame looks into the channel of the worker. -/
def collect
    (threads : List (ReportingThread (Except String Bool)))
    (now : Instant) : CheckRecord → CheckRecord
  | .running channel body =>
      match threads[channel]?.map tryRecv with
      | some (.ok _) => .finished (.reported channel body) now true
      | some (.error .disconnected) => .finished (.lost channel) now true
      | some (.error .empty) | none => .running channel body
  | record => record

/-- A frame looks at the clock. -/
def expire (now : Instant) : CheckRecord → CheckRecord
  | .finished ended noticed displayed =>
      .finished ended noticed
        (displayed && now < noticed + TERMINAL_STATE_DISPLAY_DURATION)
  | record => record

/-- What the app keeps of the check. -/
def check (lost : String) : CheckRecord → DiagnosticCheck
  | .never => .initial
  | .running channel _ => ⟨some channel, none, none⟩
  | .finished ended noticed displayed =>
      ⟨none, some (ended.result lost),
        if displayed then
          some (noticed + TERMINAL_STATE_DISPLAY_DURATION)
        else
          none⟩

/-- The workers bear out what is recorded of the check. -/
def Genuine
    (threads : List (ReportingThread (Except String Bool))) :
    CheckRecord → Prop
  | .never | .finished (.refused _) _ _ => True
  | .running channel body =>
      ∃ thread,
        threads[channel]? = some thread ∧
        SendsOnly (· = body.result) thread
  | .finished (.reported channel body) _ _ =>
      ∃ thread,
        threads[channel]? = some thread ∧
        thread.sent = [body.result]
  | .finished (.lost channel) _ _ =>
      ∃ thread,
        threads[channel]? = some thread ∧
        thread.disconnected = true ∧
        thread.sent = []

variable {threads after : List (ReportingThread (Except String Bool))}
variable {record : CheckRecord}

/-- A worker that has sent something has sent its only message. -/
theorem sent_eq_singleton
    {thread : ReportingThread (Except String Bool)}
    (sound : Sound checkProtocol thread)
    {message : Except String Bool}
    (member : message ∈ thread.sent) :
    thread.sent = [message] := by
  obtain ⟨rest, earlier, last, same, progress, _⟩ := sound.started
  have alone : earlier = [] :=
    List.eq_nil_iff_forall_not_mem.mpr fun other early => by
      cases progress other early
  rw [alone, List.nil_append, List.append_eq_singleton_iff] at same
  rcases same with ⟨nothing, _⟩ | ⟨single, _⟩
  · rw [nothing] at member
    cases member
  · rw [single, List.mem_singleton] at member
    rw [single, member]

/-- What the workers do later does not contradict the record. -/
theorem Genuine.evolves
    (genuine : record.Genuine threads)
    (sound : PoolSound checkProtocol threads)
    (evolves : PoolEvolves threads after) :
    record.Genuine after := by
  rcases record with _ | ⟨channel, body⟩ |
    ⟨message | ⟨channel, body⟩ | channel, noticed, displayed⟩
  · trivial
  · obtain ⟨thread, present, only⟩ := genuine
    obtain ⟨next, nextPresent, rfl | change⟩ := evolves _ _ present
    · exact ⟨_, nextPresent, only⟩
    · exact ⟨next, nextPresent, only.evolves change⟩
  · trivial
  · obtain ⟨thread, present, sent⟩ := genuine
    obtain ⟨next, nextPresent, rfl | change⟩ := evolves _ _ present
    · exact ⟨_, nextPresent, sent⟩
    · have decided : Decided checkProtocol thread :=
        .inl ⟨body.result, sent ▸ List.mem_singleton_self _, rfl⟩
      exact ⟨next, nextPresent,
        (decided.sent_evolves (sound _ (List.mem_of_getElem? present))
          change).trans sent⟩
  · obtain ⟨thread, present, ended, sent⟩ := genuine
    obtain ⟨next, nextPresent, rfl | change⟩ := evolves _ _ present
    · exact ⟨_, nextPresent, ended, sent⟩
    · have decided : Decided checkProtocol thread := .inr ended
      exact ⟨next, nextPresent, disconnected_evolves change ended,
        (decided.sent_evolves (sound _ (List.mem_of_getElem? present))
          change).trans sent⟩

/-- Starting a check starts the record anew. -/
theorem start_check
    {lost : String}
    {check : DiagnosticCheck}
    (idle : check.checkRx = none)
    (channel : Nat)
    (now : Instant)
    (started : CheckStart) :
    (check.start channel now started).1 =
      (ofStart channel now started).check lost := by
  cases started <;>
    simp [DiagnosticCheck.start, DiagnosticCheck.reject, ofStart,
      CheckRecord.check, CheckEnd.result, idle]

/-- The worker of a check that was started bears out the new record. -/
theorem genuine_ofStart
    (now : Instant)
    (started : CheckStart) :
    (ofStart threads.length now started).Genuine
      (threads ++
        (AppSystem.spawnedChecks
          (DiagnosticCheck.initial.start threads.length now
            started).2).map spawned) := by
  cases started with
  | rejected message =>
      trivial
  | notSpawned job error =>
      trivial
  | spawned job body =>
      refine ⟨spawned body.program, by simp [DiagnosticCheck.start,
        AppSystem.spawnedChecks], sendsOnly_spawned ?_⟩
      rw [body.sends_program]
      exact fun message member => List.mem_singleton.mp member

/-- The worker of a check does not depend on the check before it. -/
theorem effects_start
    (check : DiagnosticCheck)
    (channel : Nat)
    (now : Instant)
    (started : CheckStart) :
    (check.start channel now started).2 =
      (DiagnosticCheck.initial.start channel now started).2 := by
  cases started <;> rfl

/-- The clock takes nothing back. -/
theorem Genuine.expire
    (genuine : record.Genuine threads)
    (now : Instant) :
    (record.expire now).Genuine threads := by
  rcases record with _ | ⟨channel, body⟩ |
    ⟨message | ⟨channel, body⟩ | channel, noticed, displayed⟩
  all_goals exact genuine

/-- The display time of a result runs out in the record as in the app. -/
theorem updateTimeout_check
    (lost : String)
    (now : Instant)
    (record : CheckRecord) :
    ((record.check lost).updateTimeout now).1 =
      (record.expire now).check lost := by
  rcases record with _ | ⟨channel, body⟩ | ⟨ended, noticed, displayed⟩
  · rfl
  · rfl
  · cases displayed with
    | false =>
        rfl
    | true =>
        by_cases passed :
            noticed + TERMINAL_STATE_DISPLAY_DURATION ≤ now
        · simp [CheckRecord.check, DiagnosticCheck.updateTimeout, expire,
            passed]
        · simp [CheckRecord.check, DiagnosticCheck.updateTimeout, expire,
            passed, Nat.lt_of_not_le passed]

/-- Nothing was taken yet from a worker that is waited for. -/
theorem sent_eq_unread
    {thread : ReportingThread (Except String Bool)}
    (unfinished : Unfinished checkProtocol thread) :
    thread.sent = thread.unread := by
  have untaken : thread.sent.take thread.taken = [] :=
    List.eq_nil_iff_forall_not_mem.mpr fun message member => by
      cases unfinished message member
  rw [unread, ← List.nil_append (thread.sent.drop thread.taken), ← untaken,
    List.take_append_drop]

section Collect

variable {lost : String}
variable {channel : Nat}
variable {thread : ReportingThread (Except String Bool)}
variable {now : Instant}

/-- Only the worker of a running check is listened to. -/
theorem listening?_check
    (heard :
      listening? threads (record.check lost).checkRx =
        some (channel, thread)) :
    ∃ body,
      record = running channel body ∧ threads[channel]? = some thread := by
  obtain ⟨receiver, present⟩ := listening?_eq_some heard
  rcases record with _ | ⟨own, body⟩ | ⟨ended, noticed, displayed⟩
  · cases receiver
  · cases receiver
    exact ⟨body, rfl, present⟩
  · cases receiver

/-- A frame that listens to nobody collects nothing. -/
theorem collect_of_unheard
    (genuine : record.Genuine threads)
    (unheard : listening? threads (record.check lost).checkRx = none) :
    record.collect threads now = record := by
  rcases record with _ | ⟨own, body⟩ | ⟨ended, noticed, displayed⟩
  · rfl
  · obtain ⟨thread, present, _⟩ := genuine
    simp [listening?, CheckRecord.check, present] at unheard
  · rfl

/-- What a frame finds in the channel is what the record says. -/
theorem drain_check
    (sound : Sound checkProtocol thread)
    (unfinished : Unfinished checkProtocol thread)
    (genuine : record.Genuine threads)
    (heard :
      listening? threads (record.check lost).checkRx =
        some (channel, thread)) :
    (record.check lost).drain lost now thread.tryRecv =
        (record.collect threads now).check lost ∧
      (record.collect threads now).Genuine threads := by
  obtain ⟨body, rfl, present⟩ := listening?_check heard
  obtain ⟨same, samePresent, only⟩ := genuine
  cases samePresent.symm.trans present
  have whole := sent_eq_unread unfinished
  cases waiting : thread.unread with
  | cons message rest =>
      rw [waiting] at whole
      have member : message ∈ thread.sent := by
        rw [whole]
        exact List.mem_cons_self
      have own : message = body.result :=
        only message (List.mem_append_left _ member)
      subst own
      have received : thread.tryRecv = .ok body.result := by
        simp [tryRecv, waiting]
      simp only [collect, present, Option.map_some, received]
      exact ⟨rfl, thread, present, sent_eq_singleton sound member⟩
  | nil =>
      rw [waiting] at whole
      cases ended : thread.disconnected with
      | false =>
          have received : thread.tryRecv = .error .empty := by
            simp [tryRecv, waiting, ended]
          simp only [collect, present, Option.map_some, received]
          exact ⟨rfl, thread, present, only⟩
      | true =>
          have received : thread.tryRecv = .error .disconnected := by
            simp [tryRecv, waiting, ended]
          simp only [collect, present, Option.map_some, received]
          exact ⟨rfl, thread, present, ended, whole⟩

end Collect

/-- What the app keeps of a check is what is recorded of it. -/
structure Tells
    (lost : String)
    (threads : List (ReportingThread (Except String Bool)))
    (check : DiagnosticCheck)
    (record : CheckRecord) : Prop where
  kept : check = record.check lost
  genuine : record.Genuine threads

namespace Tells

variable {lost : String}
variable {check : DiagnosticCheck}

/-- The workers go on without contradicting the record. -/
theorem evolves
    (tells : record.Tells lost threads check)
    (sound : PoolSound checkProtocol threads)
    (evolves : PoolEvolves threads after) :
    record.Tells lost after check :=
  ⟨tells.kept, tells.genuine.evolves sound evolves⟩

/-- The clock takes nothing back. -/
theorem expire
    (tells : record.Tells lost threads check)
    (now : Instant) :
    (record.expire now).Tells lost threads (check.updateTimeout now).1 where
  kept := by rw [tells.kept, updateTimeout_check]
  genuine := tells.genuine.expire now

/-- A frame that listens to nobody collects nothing. -/
theorem collect_of_unheard
    (tells : record.Tells lost threads check)
    (unheard : listening? threads check.checkRx = none)
    (now : Instant) :
    (record.collect threads now).Tells lost threads check := by
  rw [tells.kept] at unheard
  rw [CheckRecord.collect_of_unheard tells.genuine unheard]
  exact tells

/-- A frame collects what it finds in the channel. -/
theorem collect_of_heard
    (tells : record.Tells lost threads check)
    (sound : PoolSound checkProtocol threads)
    (listening : Listening checkProtocol threads check.checkRx)
    {channel : Nat}
    {thread : ReportingThread (Except String Bool)}
    (heard :
      listening? threads check.checkRx = some (channel, thread))
    (now : Instant) :
    (record.collect threads now).Tells lost
      (threads.set channel (thread.take 1))
      (check.drain lost now thread.tryRecv) := by
  obtain ⟨receiver, present⟩ := listening?_eq_some heard
  have own := sound thread (List.mem_of_getElem? present)
  have unfinished := listening.unfinished receiver present
  rw [tells.kept] at heard ⊢
  obtain ⟨collected, genuine⟩ :=
    drain_check own unfinished tells.genuine heard
  exact ⟨collected,
    genuine.evolves sound (poolEvolves_set present (.taken 1 rfl))⟩

/-- A check that is started is recorded anew. -/
theorem start
    (idle : check.checkRx = none)
    (now : Instant)
    (started : CheckStart) :
    (ofStart threads.length now started).Tells lost
      (threads ++
        (AppSystem.spawnedChecks
          (check.start threads.length now started).2).map spawned)
      (check.start threads.length now started).1 where
  kept := start_check idle threads.length now started
  genuine := by
    rw [effects_start]
    exact genuine_ofStart now started

end Tells

end CheckRecord

/-- The latest check of each kind, and when a frame last read the clock. -/
structure LatestChecks where
  hostStatus : CheckRecord
  ping : CheckRecord
  timeoutsAt : Instant

namespace LatestChecks

/-- No check was asked for yet. -/
def initial : LatestChecks where
  hostStatus := .never
  ping := .never
  timeoutsAt := 0

/-- Note what a step does to the latest checks. -/
def observe
    (system : AppSystem)
    (step : SystemStep)
    (seen : LatestChecks) : LatestChecks :=
  match step with
  | .drainHostStatus now =>
      { seen with
        hostStatus := seen.hostStatus.collect system.checkThreads now }
  | .drainPing now =>
      { seen with ping := seen.ping.collect system.checkThreads now }
  | .timeouts _ now =>
      {
        hostStatus := seen.hostStatus.expire now
        ping := seen.ping.expire now
        timeoutsAt := now
      }
  | .hostStatusButton (some click) =>
      { seen with
        hostStatus :=
          .ofStart system.checkThreads.length click.now click.started }
  | .pingButton (some click) =>
      { seen with
        ping := .ofStart system.checkThreads.length click.now click.started }
  | _ => seen

end LatestChecks

namespace AppSystem

/-- What is said of a host status worker that is lost. -/
def hostStatusLost : String :=
  "Host status worker stopped without reporting a result"

/-- What is said of a ping worker that is lost. -/
def pingLost : String :=
  "Ping worker stopped without reporting a result"

/-- A step that leaves the checks and their workers alone. -/
structure SameChecks (before after : AppSystem) : Prop where
  hostStatus : after.app.hostStatus = before.app.hostStatus
  ping : after.app.ping = before.app.ping
  checkThreads : after.checkThreads = before.checkThreads

/-- The app keeps of both checks what the record says. -/
structure TellsLatest
    (system : AppSystem)
    (seen : LatestChecks) : Prop where
  hostStatus :
    seen.hostStatus.Tells hostStatusLost system.checkThreads
      system.app.hostStatus
  ping : seen.ping.Tells pingLost system.checkThreads system.app.ping

variable {system after : AppSystem}
variable {seen : LatestChecks}

/-- An operation without diagnostic effects leaves the checks alone. -/
theorem sameChecks_commit
    {outcome : WakerApp × List UiEffect}
    (hostStatus : outcome.1.hostStatus = system.app.hostStatus)
    (ping : outcome.1.ping = system.app.ping)
    (noCheck : spawnedChecks outcome.2 = []) :
    SameChecks system (system.commit outcome) where
  hostStatus := hostStatus
  ping := ping
  checkThreads := by simp [noCheck]

/-- Draining the wake worker leaves the checks alone. -/
theorem sameChecks_drainState
    (inv : system.Invariant)
    (elapsedAt shownAt : Instant) :
    SameChecks system (system.drainState elapsedAt shownAt) := by
  unfold AppSystem.drainState
  split
  · exact ⟨rfl, rfl, rfl⟩
  · rename_i channel thread heard
    obtain ⟨receiver, present⟩ := listening?_eq_some heard
    have sound := inv.wakeSound thread (List.mem_of_getElem? present)
    have busy : system.app.busy = true := by
      rw [inv.ui.busy_stateRx, receiver, Option.isSome_some]
    rcases WakerApp.drainStateUpdates_cases elapsedAt shownAt sound busy
      with ⟨_, _, same⟩ | ⟨state, outcome, same⟩
    · rw [same]
      exact ⟨rfl, rfl, by simp [spawnedChecks]⟩
    · obtain ⟨active, isActive, finished⟩ :=
        inv.ui.exists_concluded elapsedAt shownAt busy outcome.isTerminal
      rw [same, finished]
      exact ⟨rfl, rfl, by simp [spawnedChecks]⟩

/-- The wake button leaves the checks alone. -/
theorem sameChecks_wakeButton
    (inv : system.Invariant)
    {click : Option WakeClick}
    {now : Instant}
    (pressed : system.wakeButton click now = some after) :
    SameChecks system after := by
  cases click with
  | none =>
      cases pressed
      exact ⟨SameJobs.startConfetti_hostStatus _ now,
        SameJobs.startConfetti_ping _ now, rfl⟩
  | some click =>
      simp only [AppSystem.wakeButton] at pressed
      split at pressed
      · rename_i enabled
        cases pressed
        refine ⟨(SameJobs.startConfetti_hostStatus _ now).trans ?_,
          (SameJobs.startConfetti_ping _ now).trans ?_, ?_⟩
        all_goals
          rcases inv.ui.beginWake_cases enabled system.wakeThreads.length
              click.attempt click.elapsedAt click.shownAt click.started with
            ⟨failure, _, same⟩ | ⟨target, body, same⟩ <;>
          simp [same, spawnedChecks]
      · cases pressed

/-- The display time of an attempt is no concern of the checks. -/
theorem checks_updateTerminalStateTimeout
    (app : WakerApp)
    (now : Instant) :
    (app.updateTerminalStateTimeout now).1.hostStatus = app.hostStatus ∧
      (app.updateTerminalStateTimeout now).1.ping = app.ping := by
  unfold WakerApp.updateTerminalStateTimeout
  split
  · exact ⟨rfl, rfl⟩
  · split
    · exact ⟨rfl, rfl⟩
    · split <;> exact ⟨rfl, rfl⟩

/-- Painting the confetti leaves the checks alone. -/
theorem sameChecks_paintConfetti (now : Instant) :
    SameChecks system (system.commit (system.app.paintConfetti now)) := by
  unfold WakerApp.paintConfetti
  split
  · exact sameChecks_commit rfl rfl rfl
  · split <;> exact sameChecks_commit rfl rfl rfl

namespace TellsLatest

/-- At first no check was asked for. -/
theorem initial : TellsLatest initial .initial where
  hostStatus := ⟨rfl, trivial⟩
  ping := ⟨rfl, trivial⟩

/-- A step that leaves the checks alone leaves the record right. -/
theorem same
    (tells : system.TellsLatest seen)
    (same : SameChecks system after) :
    after.TellsLatest seen where
  hostStatus := by
    rw [same.hostStatus, same.checkThreads]
    exact tells.hostStatus
  ping := by
    rw [same.ping, same.checkThreads]
    exact tells.ping

/-- The workers of the checks go on without contradicting the record. -/
theorem evolves
    (tells : system.TellsLatest seen)
    (inv : system.Invariant)
    (evolves : PoolEvolves system.checkThreads after.checkThreads)
    (app : after.app = system.app) :
    after.TellsLatest seen where
  hostStatus := by
    rw [app]
    exact tells.hostStatus.evolves inv.checkSound evolves
  ping := by
    rw [app]
    exact tells.ping.evolves inv.checkSound evolves

/-- A frame collects the result of the host status check. -/
theorem drainHostStatus
    (tells : system.TellsLatest seen)
    (inv : system.Invariant)
    (now : Instant) :
    (system.drainHostStatus now).TellsLatest
      { seen with
        hostStatus := seen.hostStatus.collect system.checkThreads now } := by
  unfold AppSystem.drainHostStatus
  split
  · rename_i unheard
    exact ⟨tells.hostStatus.collect_of_unheard unheard now, tells.ping⟩
  · rename_i channel thread heard
    have moved :=
      poolEvolves_set (listening?_eq_some heard).2 (.taken 1 rfl)
    exact {
      hostStatus :=
        tells.hostStatus.collect_of_heard inv.checkSound inv.hostListening
          heard now
      ping := tells.ping.evolves inv.checkSound moved
    }

/-- A frame collects the result of the ping. -/
theorem drainPing
    (tells : system.TellsLatest seen)
    (inv : system.Invariant)
    (now : Instant) :
    (system.drainPing now).TellsLatest
      { seen with ping := seen.ping.collect system.checkThreads now } := by
  unfold AppSystem.drainPing
  split
  · rename_i unheard
    exact ⟨tells.hostStatus, tells.ping.collect_of_unheard unheard now⟩
  · rename_i channel thread heard
    have moved :=
      poolEvolves_set (listening?_eq_some heard).2 (.taken 1 rfl)
    exact {
      hostStatus := tells.hostStatus.evolves inv.checkSound moved
      ping :=
        tells.ping.collect_of_heard inv.checkSound inv.pingListening heard
          now
    }

/-- A frame looks at the clock. -/
theorem timeouts
    (tells : system.TellsLatest seen)
    (terminalNow diagnosticNow : Instant) :
    (system.timeouts terminalNow diagnosticNow).TellsLatest {
      hostStatus := seen.hostStatus.expire diagnosticNow
      ping := seen.ping.expire diagnosticNow
      timeoutsAt := diagnosticNow } := by
  obtain ⟨hostStatus, ping⟩ :=
    checks_updateTerminalStateTimeout system.app terminalNow
  have threads :
      (system.timeouts terminalNow diagnosticNow).checkThreads =
        system.checkThreads := by
    simp [AppSystem.timeouts, spawnedChecks]
  have hostTells := tells.hostStatus.expire diagnosticNow
  have pingTells := tells.ping.expire diagnosticNow
  rw [← hostStatus, ← threads] at hostTells
  rw [← ping, ← threads] at pingTells
  exact ⟨hostTells, pingTells⟩

/-- The host status button starts a new record. -/
theorem hostStatusButton
    (tells : system.TellsLatest seen)
    (inv : system.Invariant)
    {click : Option CheckClick}
    (pressed : system.hostStatusButton click = some after) :
    after.TellsLatest
      (seen.observe system (.hostStatusButton click)) := by
  cases click with
  | none =>
      cases pressed
      exact tells
  | some click =>
      simp only [AppSystem.hostStatusButton] at pressed
      split at pressed
      · rename_i enabled
        cases pressed
        have noHost :=
          (UiInvariant.idle_of_diagnosticActionEnabled enabled).2.1
        rw [UiInvariant.beginHostStatusCheck_eq enabled]
        constructor
        · rw [commit_checkThreads]
          exact .start noHost click.now click.started
        · rw [commit_checkThreads]
          exact tells.ping.evolves inv.checkSound (poolEvolves_append _)
      · cases pressed

/-- The ping button starts a new record. -/
theorem pingButton
    (tells : system.TellsLatest seen)
    (inv : system.Invariant)
    {click : Option CheckClick}
    (pressed : system.pingButton click = some after) :
    after.TellsLatest (seen.observe system (.pingButton click)) := by
  cases click with
  | none =>
      cases pressed
      exact tells
  | some click =>
      simp only [AppSystem.pingButton] at pressed
      split at pressed
      · rename_i enabled
        cases pressed
        have noPing :=
          (UiInvariant.idle_of_diagnosticActionEnabled enabled).2.2
        rw [UiInvariant.beginPingCheck_eq enabled]
        constructor
        · rw [commit_checkThreads]
          exact tells.hostStatus.evolves inv.checkSound
            (poolEvolves_append _)
        · rw [commit_checkThreads]
          exact .start noPing click.now click.started
      · cases pressed

/-- Every step of the system keeps the record right. -/
theorem step
    (tells : system.TellsLatest seen)
    (inv : system.Invariant)
    {label : SystemStep}
    (stepped : system.step? label = some after) :
    after.TellsLatest (seen.observe system label) := by
  cases label with
  | beginFrame input =>
      simp only [step?] at stepped
      split at stepped
      · cases stepped
        exact tells.same ⟨rfl, rfl, rfl⟩
      · cases stepped
  | drainState elapsedAt shownAt =>
      obtain ⟨turn, drained, ⟨⟩, rfl⟩ := inPhase_eq_some_iff.mp stepped
      exact (tells.same (sameChecks_drainState inv elapsedAt shownAt)).same
        ⟨rfl, rfl, rfl⟩
  | drainHostStatus now =>
      obtain ⟨turn, drained, ⟨⟩, rfl⟩ := inPhase_eq_some_iff.mp stepped
      exact (tells.drainHostStatus inv now).same ⟨rfl, rfl, rfl⟩
  | drainPing now =>
      obtain ⟨turn, drained, ⟨⟩, rfl⟩ := inPhase_eq_some_iff.mp stepped
      exact (tells.drainPing inv now).same ⟨rfl, rfl, rfl⟩
  | timeouts terminalNow diagnosticNow =>
      obtain ⟨turn, passed, ⟨⟩, rfl⟩ := inPhase_eq_some_iff.mp stepped
      exact (tells.timeouts terminalNow diagnosticNow).same ⟨rfl, rfl, rfl⟩
  | wakeButton click now =>
      obtain ⟨turn, next, pressed, rfl⟩ := inPhase_eq_some_iff.mp stepped
      exact (tells.same (sameChecks_wakeButton inv pressed)).same
        ⟨rfl, rfl, rfl⟩
  | hostStatusButton click =>
      obtain ⟨turn, next, pressed, rfl⟩ := inPhase_eq_some_iff.mp stepped
      exact (tells.hostStatusButton inv pressed).same ⟨rfl, rfl, rfl⟩
  | pingButton click =>
      obtain ⟨turn, next, pressed, rfl⟩ := inPhase_eq_some_iff.mp stepped
      exact (tells.pingButton inv pressed).same ⟨rfl, rfl, rfl⟩
  | paintConfetti now =>
      obtain ⟨turn, painted, ⟨⟩, rfl⟩ := inPhase_eq_some_iff.mp stepped
      exact (tells.same (sameChecks_paintConfetti now)).same ⟨rfl, rfl, rfl⟩
  | wakeThread channel =>
      obtain ⟨_, advanced, rfl⟩ := Option.map_eq_some_iff.mp stepped
      exact tells.same ⟨rfl, rfl, rfl⟩
  | checkThread channel =>
      obtain ⟨⟨threads, notified⟩, advanced, rfl⟩ :=
        Option.map_eq_some_iff.mp stepped
      obtain ⟨thread, next, present, taken, rfl⟩ :=
        advanceAt?_eq_some advanced
      exact tells.evolves inv
        (poolEvolves_set present (.advanced notified taken)) rfl
  | wakePanic channel =>
      obtain ⟨_, panicked, rfl⟩ := Option.map_eq_some_iff.mp stepped
      exact tells.same ⟨rfl, rfl, rfl⟩
  | checkPanic channel =>
      obtain ⟨threads, panicked, rfl⟩ := Option.map_eq_some_iff.mp stepped
      obtain ⟨thread, next, present, taken, rfl⟩ :=
        panicAt?_eq_some panicked
      exact tells.evolves inv (poolEvolves_set present (.panicked taken)) rfl

end TellsLatest

end AppSystem

end Waker
