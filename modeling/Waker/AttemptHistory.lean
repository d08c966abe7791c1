import Waker.SystemSteps
import Waker.ThreadOutcome

namespace Waker

open ReportingThread

/-!
# One outcome for every attempt

The history of the attempts alternates between beginnings and ends, every end
carries the outcome that the attempt's own worker has reported, and only
successful ends raise confetti.
-/

/-- The worker that was spawned for an attempt that began. -/
def HistoryEvent.worker? : HistoryEvent → Option Nat
  | .began _ (.worker channel) => some channel
  | _ => none

/-- The workers of the attempts in a history. -/
def workers (history : List HistoryEvent) : List Nat :=
  history.filterMap HistoryEvent.worker?

/-- The state came from the worker of an attempt, or from its refusal. -/
def Origin.Reported
    (threads : List (ReportingThread WakeState)) :
    Origin → WakeState → Prop
  | .refused failure, state => state = .failed failure
  | .worker channel, state =>
      ∃ thread, threads[channel]? = some thread ∧ state ∈ thread.sent

/-- The worker of an attempt has ended without reporting a terminal state. -/
def Origin.ClosedSilently
    (threads : List (ReportingThread WakeState)) : Origin → Prop
  | .refused _ => False
  | .worker channel =>
      ∃ thread,
        threads[channel]? = some thread ∧
        thread.disconnected = true ∧
        ∀ state, state ∈ thread.sent → state.isTerminal = false

/-- The failures of an attempt whose worker could not get going. -/
def IsStartFailure (failure : WakeFailure) : Prop :=
  ∃ error,
    failure = noRuntimeFailure error ∨ failure = notSpawnedFailure error

/-- The recorded summary is the outcome of the attempt. -/
structure Verdict
    (threads : List (ReportingThread WakeState))
    (origin : Origin)
    (summary : AttemptSummary) : Prop where
  awake : summary.failure = none ↔ origin.Reported threads .awake
  failed :
    ∀ failure,
      summary.failure = some failure ↔
        origin.Reported threads (.failed failure) ∨
          (failure = lostWorkerFailure ∧ origin.ClosedSilently threads)
  lost :
    summary.failure = some lostWorkerFailure ↔
      origin.ClosedSilently threads
  runtime :
    (∃ failure,
        summary.failure = some failure ∧ failure.stage = .runtime) ↔
      origin.ClosedSilently threads ∨
        ∃ failure,
          IsStartFailure failure ∧ origin.Reported threads (.failed failure)

/--
A history in which every attempt that began was finished once, with a summary
that satisfies the verdict, before the next one began.  The index is the
attempt that is still running.
-/
inductive History (verdict : Origin → AttemptSummary → Prop) :
    Option (ActiveAttempt × Origin) → List HistoryEvent → Prop where
  | new : History verdict none []
  | began
      {events : List HistoryEvent}
      (attempt : ActiveAttempt)
      (origin : Origin)
      (earlier : History verdict none events) :
      History verdict (some (attempt, origin))
        (events ++ [.began attempt origin])
  | failed
      {events : List HistoryEvent}
      {attempt : ActiveAttempt}
      {origin : Origin}
      (summary : AttemptSummary)
      (earlier : History verdict (some (attempt, origin)) events)
      (judged : verdict origin summary)
      (failure : summary.failure ≠ none) :
      History verdict none (events ++ [.finished attempt summary])
  | awake
      {events : List HistoryEvent}
      {attempt : ActiveAttempt}
      {origin : Origin}
      (summary : AttemptSummary)
      (earlier : History verdict (some (attempt, origin)) events)
      (judged : verdict origin summary)
      (noFailure : summary.failure = none) :
      History verdict none
        (events ++ [.finished attempt summary, .confetti])

/-- A weaker verdict is satisfied as well. -/
theorem History.mono
    {verdict weaker : Origin → AttemptSummary → Prop}
    {current : Option (ActiveAttempt × Origin)}
    {events : List HistoryEvent}
    (history : History verdict current events)
    (implied :
      ∀ origin summary, verdict origin summary → weaker origin summary) :
    History weaker current events := by
  induction history with
  | new =>
      exact .new
  | began attempt origin earlier inductionHypothesis =>
      exact .began attempt origin inductionHypothesis
  | failed summary earlier judged failure inductionHypothesis =>
      exact .failed summary inductionHypothesis
        (implied _ summary judged) failure
  | awake summary earlier judged noFailure inductionHypothesis =>
      exact .awake summary inductionHypothesis
        (implied _ summary judged) noFailure

/-- The running attempt ends in a terminal state, with confetti when awake. -/
theorem History.finish
    {verdict : Origin → AttemptSummary → Prop}
    {active : ActiveAttempt}
    {origin : Origin}
    {events : List HistoryEvent}
    {state : WakeState}
    (earlier : History verdict (some (active, origin)) events)
    (elapsedAt : Instant)
    (terminal : state.isTerminal = true)
    (judged :
      verdict origin (WakerApp.summaryOf active elapsedAt state)) :
    History verdict none
      (events ++
        [.finished active (WakerApp.summaryOf active elapsedAt state)] ++
        if state = .awake then [.confetti] else []) := by
  cases state with
  | awake =>
      rw [if_pos rfl, List.append_assoc]
      exact .awake _ earlier judged rfl
  | failed failure =>
      rw [if_neg (by simp), List.append_nil]
      exact .failed _ earlier judged (by
        simp [WakerApp.summaryOf, WakeState.failure?])
  | _ =>
      cases terminal

/-- Every end in a history belongs to a beginning and was judged. -/
theorem History.judged
    {verdict : Origin → AttemptSummary → Prop}
    {current : Option (ActiveAttempt × Origin)}
    {events : List HistoryEvent}
    (history : History verdict current events) :
    (∀ attempt origin,
        current = some (attempt, origin) →
        .began attempt origin ∈ events) ∧
      ∀ attempt summary,
        .finished attempt summary ∈ events →
        ∃ origin, .began attempt origin ∈ events ∧ verdict origin summary := by
  induction history with
  | new =>
      simp
  | began attempt origin earlier inductionHypothesis =>
      constructor
      · simp
      · intro other summary member
        obtain ⟨found, began, judged⟩ :=
          inductionHypothesis.2 other summary (by simpa using member)
        exact ⟨found, List.mem_append_left _ began, judged⟩
  | failed summary earlier judged failure inductionHypothesis =>
      refine ⟨by simp, fun other ended member => ?_⟩
      rcases List.mem_append.mp member with before | last
      · obtain ⟨found, began, verdict⟩ :=
          inductionHypothesis.2 other ended before
        exact ⟨found, List.mem_append_left _ began, verdict⟩
      · cases List.mem_singleton.mp last
        exact ⟨_, List.mem_append_left _ (inductionHypothesis.1 _ _ rfl),
          judged⟩
  | awake summary earlier judged noFailure inductionHypothesis =>
      refine ⟨by simp, fun other ended member => ?_⟩
      rcases List.mem_append.mp member with before | last
      · obtain ⟨found, began, verdict⟩ :=
          inductionHypothesis.2 other ended before
        exact ⟨found, List.mem_append_left _ began, verdict⟩
      · have same : HistoryEvent.finished other ended = _ :=
          (List.mem_cons.mp last).resolve_right (by simp)
        cases same
        exact ⟨_, List.mem_append_left _ (inductionHypothesis.1 _ _ rfl),
          judged⟩

namespace AppSystem

/--
The running attempt is the active one, and the state shown for it comes from
its own worker.
-/
def Underway (system : AppSystem) :
    Option (ActiveAttempt × Origin) → Prop
  | none => system.app.activeAttempt = none
  | some (attempt, origin) =>
      system.app.activeAttempt = some attempt ∧
      ∃ channel,
        origin = .worker channel ∧
        system.app.stateRx = some channel ∧
        (system.app.state = .connecting ∨
          origin.Reported system.wakeThreads system.app.state)

/--
Every attempt has exactly one outcome, which comes from a worker that no other
attempt has.
-/
structure OneOutcomeEach (system : AppSystem) : Prop where
  history :
    ∃ current,
      History (Verdict system.wakeThreads) current system.history ∧
      system.Underway current
  workers :
    workers system.history = List.range system.wakeThreads.length

/-- A failure of the runtime stage means that there was no runtime. -/
def ExplainsRuntime (state : WakeState) : Prop :=
  ∀ failure,
    state = .failed failure →
    failure.stage = .runtime →
    ∃ error, failure = noRuntimeFailure error

/-- The invariant behind the outcomes. -/
structure Recorded (system : AppSystem) : Prop where
  inv : system.Invariant
  explained :
    ∀ thread,
      thread ∈ system.wakeThreads →
      SendsOnly ExplainsRuntime thread
  outcome : system.OneOutcomeEach
  confettiPending :
    system.app.confettiPending = true →
    system.phase = .drainHostStatus ∨ system.phase = .drainPing ∨
      system.phase = .timeouts ∨ system.phase = .wakeButton

end AppSystem

section Workers

/-- A wake worker explains its failures of the runtime stage. -/
theorem WakeBody.explainsRuntime
    {target : WakeTarget}
    (body : WakeBody target)
    {state : WakeState}
    (member : state ∈ sends body.program) :
    AppSystem.ExplainsRuntime state := by
  rintro failure rfl stage
  cases body with
  | noRuntime error =>
      simp only [program, sends_work, sends_send, sends_notify, sends_nil,
        List.mem_singleton, WakeState.failed.injEq] at member
      exact ⟨error, member⟩
  | attempt script =>
      rw [program, sends_work, sends_flatMap_wakeActions,
        script.trace.reports, List.mem_append] at member
      rcases member with progress | last
      · obtain ⟨index, _, same⟩ := List.mem_map.mp progress
        have isProgress := announcement_isProgress index
        rw [same] at isProgress
        cases isProgress
      · have same := List.mem_singleton.mp last
        cases result : script.result with
        | ok done =>
            rw [result] at same
            cases same
        | error other =>
            rw [result] at same
            cases same
            exact (script.trace.stage_ne_runtime _ result stage).elim

/-- A sound wake worker has reported only progress and proper ends. -/
theorem terminal_of_isTerminal
    {thread : ReportingThread WakeState}
    (sound : Sound wakeProtocol thread)
    {state : WakeState}
    (member : state ∈ thread.sent)
    (terminal : state.isTerminal = true) :
    wakeProtocol.terminal state = true := by
  refine (sound.kind member).resolve_left fun progress => ?_
  rw [WakeState.not_isTerminal_of_isProgress progress] at terminal
  cases terminal

/-- A wake worker never reports that it has vanished. -/
theorem not_reported_lostWorkerFailure
    {thread : ReportingThread WakeState}
    (sound : Sound wakeProtocol thread) :
    .failed lostWorkerFailure ∉ thread.sent := by
  intro member
  have terminal := terminal_of_isTerminal sound member rfl
  simp [wakeProtocol] at terminal

end Workers

section Verdicts

variable {threads after : List (ReportingThread WakeState)}
variable {channel : Nat}
variable {thread : ReportingThread WakeState}

/-- What a worker has reported is what it has sent. -/
theorem reported_iff
    (present : threads[channel]? = some thread)
    (state : WakeState) :
    (Origin.worker channel).Reported threads state ↔
      state ∈ thread.sent := by
  simp [Origin.Reported, present]

/-- A worker's channel closed silently when it sent nothing terminal. -/
theorem closedSilently_iff
    (present : threads[channel]? = some thread) :
    (Origin.worker channel).ClosedSilently threads ↔
      thread.disconnected = true ∧
      ∀ state, state ∈ thread.sent → state.isTerminal = false := by
  simp [Origin.ClosedSilently, present]

/-- The verdict on a worker that has reported its result. -/
theorem verdict_of_terminal
    (present : threads[channel]? = some thread)
    (sound : Sound wakeProtocol thread)
    (explained : SendsOnly AppSystem.ExplainsRuntime thread)
    {state : WakeState}
    (member : state ∈ thread.sent)
    (terminal : wakeProtocol.terminal state = true)
    (active : ActiveAttempt)
    (elapsedAt : Instant) :
    Verdict threads (.worker channel)
      (WakerApp.summaryOf active elapsedAt state) := by
  have isTerminal := isTerminal_of_terminal terminal
  have unique
      {other : WakeState}
      (otherMember : other ∈ thread.sent)
      (otherTerminal : other.isTerminal = true) :
      other = state :=
    sound.terminal_unique otherMember member
      (terminal_of_isTerminal sound otherMember otherTerminal) terminal
  have notSilent : ¬ (Origin.worker channel).ClosedSilently threads := by
    rw [closedSilently_iff present]
    rintro ⟨_, silent⟩
    rw [silent state member] at isTerminal
    cases isTerminal
  have failureOf (failure : WakeFailure) :
      state.failure? = some failure ↔
        (Origin.worker channel).Reported threads (.failed failure) := by
    rw [reported_iff present]
    constructor
    · intro failed
      cases state <;> cases failed
      exact member
    · intro failed
      rw [← unique failed rfl]
      rfl
  refine {
    awake := ?_
    failed := fun failure => by
      rw [WakerApp.summaryOf, failureOf]
      simp [notSilent]
    lost := ?_
    runtime := ?_
  }
  · rw [WakerApp.summaryOf, reported_iff present]
    constructor
    · intro noFailure
      cases state with
      | awake =>
          exact member
      | failed failure =>
          cases noFailure
      | _ =>
          cases isTerminal
    · intro awake
      rw [← unique awake rfl]
      rfl
  · rw [WakerApp.summaryOf, failureOf, reported_iff present]
    exact iff_of_false (not_reported_lostWorkerFailure sound) notSilent
  · simp only [WakerApp.summaryOf, failureOf, notSilent, false_or]
    constructor
    · rintro ⟨failure, reported, stage⟩
      have sent := (reported_iff present _).mp reported
      obtain ⟨error, same⟩ :=
        explained _ (List.mem_append_left _ sent) failure rfl stage
      exact ⟨failure, ⟨error, .inl same⟩, reported⟩
    · rintro ⟨failure, ⟨error, rfl | rfl⟩, reported⟩ <;>
        exact ⟨_, reported, rfl⟩

/-- The verdict on a worker that has ended without a result. -/
theorem verdict_of_silent
    (present : threads[channel]? = some thread)
    (ended : thread.disconnected = true)
    (silent :
      ∀ state, state ∈ thread.sent → state.isTerminal = false)
    (active : ActiveAttempt)
    (elapsedAt : Instant) :
    Verdict threads (.worker channel)
      (WakerApp.summaryOf active elapsedAt (.failed lostWorkerFailure)) := by
  have closed : (Origin.worker channel).ClosedSilently threads :=
    (closedSilently_iff present).mpr ⟨ended, silent⟩
  have notReported
      {state : WakeState}
      (terminal : state.isTerminal = true) :
      ¬ (Origin.worker channel).Reported threads state := by
    rw [reported_iff present]
    intro member
    rw [silent state member] at terminal
    cases terminal
  exact {
    awake := iff_of_false (fun none => by cases none) (notReported rfl)
    failed := fun failure => by
      have other : ¬ (Origin.worker channel).Reported threads
          (.failed failure) := notReported rfl
      simp [WakerApp.summaryOf, WakeState.failure?, other, closed, eq_comm]
    lost := iff_of_true rfl closed
    runtime := iff_of_true ⟨_, rfl, rfl⟩ (.inl closed)
  }

/-- The verdict on an attempt that was given up at once. -/
theorem verdict_of_refusal
    {failure : WakeFailure}
    (refusal : UiInvariant.IsRefusal failure)
    (attempt : ActiveAttempt)
    (elapsedAt : Instant) :
    Verdict threads (.refused failure)
      (WakerApp.summaryOf attempt elapsedAt (.failed failure)) where
  awake := iff_of_false (fun none => by cases none) (fun same => by
    cases same)
  failed other := by
    simp [WakerApp.summaryOf, WakeState.failure?, Origin.Reported,
      Origin.ClosedSilently, eq_comm]
  lost := iff_of_false
    (fun same =>
      refusal.ne_lostWorkerFailure (Option.some.inj same)) id
  runtime := by
    simp only [WakerApp.summaryOf, WakeState.failure?, Origin.Reported,
      Origin.ClosedSilently, false_or]
    constructor
    · rintro ⟨_, ⟨⟩, stage⟩
      rcases refusal with configuration | ⟨error, same⟩
      · rw [configuration] at stage
        cases stage
      · exact ⟨failure, ⟨error, .inr same⟩, rfl⟩
    · rintro ⟨other, ⟨error, rfl | rfl⟩, same⟩ <;> cases same <;>
        exact ⟨_, rfl, rfl⟩

/-- A verdict says that the worker's outcome is known. -/
theorem Verdict.decided
    {summary : AttemptSummary}
    (sound : PoolSound wakeProtocol threads)
    (verdict : Verdict threads (.worker channel) summary) :
    ∃ thread,
      threads[channel]? = some thread ∧ Decided wakeProtocol thread := by
  have ofReported
      {state : WakeState}
      (reported : (Origin.worker channel).Reported threads state)
      (terminal : state.isTerminal = true) :
      ∃ thread,
        threads[channel]? = some thread ∧ Decided wakeProtocol thread := by
    obtain ⟨thread, present, member⟩ := reported
    have proper :=
      terminal_of_isTerminal (sound thread (List.mem_of_getElem? present))
        member terminal
    exact ⟨thread, present, .inl ⟨state, member, proper⟩⟩
  cases outcome : summary.failure with
  | none =>
      exact ofReported (verdict.awake.mp outcome) rfl
  | some failure =>
      rcases (verdict.failed failure).mp outcome with
        reported | ⟨_, thread, present, ended, _⟩
      · exact ofReported reported rfl
      · exact ⟨thread, present, .inr ended⟩

/-- What is known of an origin does not change any more. -/
theorem Verdict.evolves
    {origin : Origin}
    {summary : AttemptSummary}
    (verdict : Verdict threads origin summary)
    (sound : PoolSound wakeProtocol threads)
    (evolves : PoolEvolves threads after) :
    Verdict after origin summary := by
  cases origin with
  | refused failure =>
      exact ⟨verdict.awake, verdict.failed, verdict.lost, verdict.runtime⟩
  | worker channel =>
      obtain ⟨thread, present, decided⟩ := verdict.decided sound
      obtain ⟨next, nextPresent, change⟩ := evolves channel thread present
      have sameSent : next.sent = thread.sent := by
        rcases change with rfl | change
        · rfl
        · exact decided.sent_evolves
            (sound thread (List.mem_of_getElem? present)) change
      have sameReported (state : WakeState) :
          (Origin.worker channel).Reported after state ↔
            (Origin.worker channel).Reported threads state := by
        rw [reported_iff nextPresent, reported_iff present, sameSent]
      have sameClosed :
          (Origin.worker channel).ClosedSilently after ↔
            (Origin.worker channel).ClosedSilently threads := by
        rw [closedSilently_iff nextPresent, closedSilently_iff present,
          sameSent]
        refine and_congr_left fun silent => ?_
        rcases decided with ⟨state, member, terminal⟩ | ended
        · have isTerminal := isTerminal_of_terminal terminal
          rw [silent state member] at isTerminal
          cases isTerminal
        · refine iff_of_true ?_ ended
          rcases change with rfl | change
          · exact ended
          · exact disconnected_evolves change ended
      exact {
        awake := by
          rw [sameReported]
          exact verdict.awake
        failed := fun failure => by
          rw [sameReported, sameClosed]
          exact verdict.failed failure
        lost := by
          rw [sameClosed]
          exact verdict.lost
        runtime := by
          simp only [sameReported, sameClosed]
          exact verdict.runtime
      }

end Verdicts

namespace AppSystem

/-- What a worker has reported stays reported. -/
theorem reported_evolves
    {threads after : List (ReportingThread WakeState)}
    {channel : Nat}
    {state : WakeState}
    (reported : (Origin.worker channel).Reported threads state)
    (evolves : PoolEvolves threads after) :
    (Origin.worker channel).Reported after state := by
  obtain ⟨thread, present, member⟩ := reported
  obtain ⟨next, nextPresent, change⟩ := evolves channel thread present
  refine ⟨next, nextPresent, ?_⟩
  rcases change with rfl | change
  · exact member
  · exact (sent_prefix_evolves change).subset member

/-- The running attempt stays the active one. -/
theorem Underway.keep
    {system next : AppSystem}
    {current : Option (ActiveAttempt × Origin)}
    (underway : system.Underway current)
    (inv : system.Invariant)
    (evolves : PoolEvolves system.wakeThreads next.wakeThreads)
    (stateRx : next.app.stateRx = system.app.stateRx)
    (activeAttempt : next.app.activeAttempt = system.app.activeAttempt)
    (state :
      system.app.busy = true → next.app.state = system.app.state) :
    next.Underway current := by
  cases current with
  | none =>
      exact activeAttempt.trans underway
  | some attempt =>
      obtain ⟨isActive, channel, origin, receiver, shown⟩ := underway
      have busy : system.app.busy = true := by
        rw [inv.ui.busy_stateRx, receiver, Option.isSome_some]
      refine ⟨activeAttempt.trans isActive, channel, origin,
        stateRx.trans receiver, ?_⟩
      rw [state busy]
      refine shown.imp_right fun reported => ?_
      rw [origin] at reported ⊢
      exact reported_evolves reported evolves

/-- A step that touches no attempt keeps the history. -/
theorem OneOutcomeEach.keep
    {system next : AppSystem}
    (outcome : system.OneOutcomeEach)
    (inv : system.Invariant)
    (evolves : PoolEvolves system.wakeThreads next.wakeThreads)
    (length : next.wakeThreads.length = system.wakeThreads.length)
    (same : next.history = system.history)
    (underway :
      ∀ current, system.Underway current → next.Underway current) :
    next.OneOutcomeEach := by
  obtain ⟨⟨current, history, running⟩, workers⟩ := outcome
  refine ⟨⟨current, ?_, underway current running⟩, ?_⟩
  · rw [same]
    exact history.mono fun _ _ verdict =>
      verdict.evolves inv.wakeSound evolves
  · rw [same, length]
    exact workers

/-- Without an active attempt nothing is running. -/
theorem Underway.eq_none
    {system : AppSystem}
    {current : Option (ActiveAttempt × Origin)}
    (underway : system.Underway current)
    (noAttempt : system.app.activeAttempt = none) :
    current = none := by
  cases current with
  | none =>
      rfl
  | some attempt =>
      rw [underway.1] at noAttempt
      cases noAttempt

/-- The verdict on the worker of an attempt that ends in a drain. -/
theorem verdict_of_outcome
    {threads : List (ReportingThread WakeState)}
    {channel : Nat}
    {thread : ReportingThread WakeState}
    {state : WakeState}
    (present : threads[channel]? = some thread)
    (sound : Sound wakeProtocol thread)
    (unfinished : Unfinished wakeProtocol thread)
    (explained : SendsOnly ExplainsRuntime thread)
    (outcome : EndsIn thread state)
    (active : ActiveAttempt)
    (elapsedAt : Instant) :
    Verdict threads (.worker channel)
      (WakerApp.summaryOf active elapsedAt state) := by
  cases outcome with
  | reported waiting terminal =>
      have member := mem_sent_iff.mpr (.inr waiting)
      exact verdict_of_terminal present sound explained member terminal
        active elapsedAt
  | lost disconnected progress =>
      apply verdict_of_silent present disconnected
      intro state member
      by_contra terminal
      rw [Bool.not_eq_false] at terminal
      have proper := terminal_of_isTerminal sound member terminal
      rw [unfinished.not_terminal _ member] at proper
      · cases proper
      · intro waiting unread
        exact wakeProtocol.disjoint waiting (progress waiting unread)

/-- Ending the running attempt completes the history. -/
theorem OneOutcomeEach.finish
    {system next : AppSystem}
    {channel : Nat}
    {thread : ReportingThread WakeState}
    {state : WakeState}
    {active : ActiveAttempt}
    (before : system.OneOutcomeEach)
    (inv : system.Invariant)
    (explained : SendsOnly ExplainsRuntime thread)
    (receiver : system.app.stateRx = some channel)
    (present : system.wakeThreads[channel]? = some thread)
    (outcome : EndsIn thread state)
    (isActive : system.app.activeAttempt = some active)
    (elapsedAt : Instant)
    (threads :
      next.wakeThreads =
        system.wakeThreads.set channel (thread.take thread.unread.length))
    (noAttempt : next.app.activeAttempt = none)
    (history :
      next.history =
        system.history ++
          [.finished active (WakerApp.summaryOf active elapsedAt state)] ++
          if state = .awake then [.confetti] else []) :
    next.OneOutcomeEach := by
  obtain ⟨⟨current, earlier, running⟩, sameWorkers⟩ := before
  have evolves : PoolEvolves system.wakeThreads next.wakeThreads := by
    rw [threads]
    exact poolEvolves_set present (.taken _ rfl)
  have judged :=
    verdict_of_outcome present
      (inv.wakeSound thread (List.mem_of_getElem? present))
      (inv.wakeListening.unfinished receiver present) explained outcome
      active elapsedAt
  cases current with
  | none =>
      rw [running] at isActive
      cases isActive
  | some attempt =>
      obtain ⟨sameActive, other, origin, sameReceiver, _⟩ := running
      cases sameActive.symm.trans isActive
      cases sameReceiver.symm.trans receiver
      rw [← origin] at judged
      have later := earlier.mono fun _ _ verdict =>
        verdict.evolves inv.wakeSound evolves
      refine ⟨⟨none, ?_, noAttempt⟩, ?_⟩
      · rw [history]
        exact later.finish elapsedAt outcome.isTerminal
          (judged.evolves inv.wakeSound evolves)
      · rw [history, threads, List.length_set, ← sameWorkers]
        by_cases awake : state = .awake <;>
          simp [Waker.workers, HistoryEvent.worker?, awake]

/-- Replacing a thread by its evolution explains no less. -/
theorem explained_set
    {threads : List (ReportingThread WakeState)}
    {channel : Nat}
    {thread next : ReportingThread WakeState}
    (explained :
      ∀ thread, thread ∈ threads → SendsOnly ExplainsRuntime thread)
    (present : threads[channel]? = some thread)
    (evolves : Evolves thread next) :
    ∀ thread,
      thread ∈ threads.set channel next →
      SendsOnly ExplainsRuntime thread := by
  intro held member
  rcases List.mem_or_eq_of_mem_set member with earlier | rfl
  · exact explained held earlier
  · exact (explained thread (List.mem_of_getElem? present)).evolves evolves

/-- Nothing has happened before the first frame. -/
theorem Recorded.initial : Recorded initial where
  inv := Invariant.initial
  explained _ member := by
    cases member
  outcome := ⟨⟨none, .new, rfl⟩, rfl⟩
  confettiPending pending := by
    cases pending

/-- Only an attempt that ends awake raises confetti. -/
theorem confettiRaised_ended
    {state : WakeState}
    {before after : WakerApp}
    (ended : Ended state before after)
    (notPending : before.confettiPending = false) :
    confettiRaised before after =
      if state = .awake then [.confetti] else [] := by
  simp [confettiRaised, ended.confettiPending, notPending]

/-- An operation that touches no attempt keeps the outcomes. -/
theorem OneOutcomeEach.keepThreads
    {system : AppSystem}
    (outcome : system.OneOutcomeEach)
    (inv : system.Invariant)
    (app : WakerApp)
    (stateRx : app.stateRx = system.app.stateRx)
    (activeAttempt : app.activeAttempt = system.app.activeAttempt)
    (state : system.app.busy = true → app.state = system.app.state)
    {phase : FramePhase}
    {repaint : Bool}
    {checkThreads : List (ReportingThread (Except String Bool))} :
    OneOutcomeEach { system with
      app := app
      phase := phase
      repaint := repaint
      checkThreads := checkThreads } :=
  outcome.keep inv poolEvolves_rfl rfl rfl fun _ underway =>
    underway.keep inv poolEvolves_rfl stateRx activeAttempt state

/-- What a worker does on its own keeps the outcomes. -/
theorem OneOutcomeEach.setThread
    {system : AppSystem}
    (outcome : system.OneOutcomeEach)
    (inv : system.Invariant)
    {channel : Nat}
    {thread next : ReportingThread WakeState}
    (present : system.wakeThreads[channel]? = some thread)
    (evolves : Evolves thread next)
    {repaint : Bool} :
    OneOutcomeEach { system with
      wakeThreads := system.wakeThreads.set channel next
      repaint := repaint } :=
  have pool := poolEvolves_set present evolves
  outcome.keep inv pool List.length_set rfl fun _ underway =>
    underway.keep inv pool rfl rfl fun _ => rfl

/-- Showing a report of the running attempt's worker keeps the outcomes. -/
theorem OneOutcomeEach.showReport
    {system : AppSystem}
    (outcome : system.OneOutcomeEach)
    (inv : system.Invariant)
    {channel : Nat}
    {thread : ReportingThread WakeState}
    {state : WakeState}
    (receiver : system.app.stateRx = some channel)
    (present : system.wakeThreads[channel]? = some thread)
    (shown : state ∈ thread.unread ∨ state = system.app.state)
    {phase : FramePhase} :
    OneOutcomeEach { system with
      app := { system.app with state := state }
      phase := phase
      wakeThreads :=
        system.wakeThreads.set channel
          (thread.take thread.unread.length) } := by
  have pool :
      PoolEvolves system.wakeThreads
        (system.wakeThreads.set channel
          (thread.take thread.unread.length)) :=
    poolEvolves_set present (.taken _ rfl)
  refine outcome.keep inv pool List.length_set rfl fun current underway => ?_
  rcases shown with fresh | rfl
  · cases current with
    | none =>
        exact underway
    | some attempt =>
        obtain ⟨isActive, other, origin, sameReceiver, _⟩ := underway
        cases sameReceiver.symm.trans receiver
        refine ⟨isActive, channel, origin, receiver, .inr ?_⟩
        rw [origin]
        exact reported_evolves
          ⟨thread, present, mem_sent_iff.mpr (.inr fresh)⟩ pool
  · exact underway.keep inv pool rfl rfl fun _ => rfl

/-- Giving up an attempt at once completes the history. -/
theorem OneOutcomeEach.refuse
    {system : AppSystem}
    (outcome : system.OneOutcomeEach)
    (noAttempt : system.app.activeAttempt = none)
    {failure : WakeFailure}
    (refusal : UiInvariant.IsRefusal failure)
    (attempt : ActiveAttempt)
    (elapsedAt : Instant)
    {app : WakerApp}
    (activeAttempt : app.activeAttempt = system.app.activeAttempt)
    {phase : FramePhase} :
    OneOutcomeEach { system with
      app := app
      phase := phase
      history :=
        system.history ++
          [.began attempt (.refused failure),
            .finished attempt
              (WakerApp.summaryOf attempt elapsedAt
                (.failed failure))] } := by
  obtain ⟨⟨current, earlier, running⟩, sameWorkers⟩ := outcome
  cases running.eq_none noAttempt
  refine ⟨⟨none, ?_, activeAttempt.trans noAttempt⟩, ?_⟩
  · have finished :=
      (earlier.began attempt (.refused failure)).failed
        (WakerApp.summaryOf attempt elapsedAt (.failed failure))
        (verdict_of_refusal refusal attempt elapsedAt) (by
          simp [WakerApp.summaryOf, WakeState.failure?])
    simpa using finished
  · simpa [Waker.workers, HistoryEvent.worker?, List.filterMap_cons]
      using sameWorkers

/-- Spawning the worker of an attempt begins it. -/
theorem OneOutcomeEach.spawn
    {system : AppSystem}
    (outcome : system.OneOutcomeEach)
    (inv : system.Invariant)
    (noAttempt : system.app.activeAttempt = none)
    (attempt : ActiveAttempt)
    (program : List (Action WakeState))
    {app : WakerApp}
    (stateRx : app.stateRx = some system.wakeThreads.length)
    (activeAttempt : app.activeAttempt = some attempt)
    (state : app.state = .connecting)
    {phase : FramePhase} :
    OneOutcomeEach { system with
      app := app
      phase := phase
      wakeThreads := system.wakeThreads ++ [spawned program]
      history :=
        system.history ++
          [.began attempt (.worker system.wakeThreads.length)] } := by
  obtain ⟨⟨current, earlier, running⟩, sameWorkers⟩ := outcome
  cases running.eq_none noAttempt
  refine ⟨⟨some (attempt, .worker system.wakeThreads.length), ?_,
    activeAttempt, _, rfl, stateRx, .inl state⟩, ?_⟩
  · exact .began attempt _ (earlier.mono fun _ _ verdict =>
      verdict.evolves inv.wakeSound (poolEvolves_append [spawned program]))
  · have same := congrArg (· ++ [system.wakeThreads.length]) sameWorkers
    simpa [Waker.workers, HistoryEvent.worker?, List.range_succ] using same

/-- Every step keeps the record of the attempts. -/
theorem Recorded.step
    {system next : AppSystem}
    {label : SystemStep}
    (recorded : system.Recorded)
    (stepped : system.step? label = some next) :
    next.Recorded := by
  have after := recorded.inv.step stepped
  obtain ⟨inv, explained, outcome, pending⟩ := recorded
  cases step_cases inv stepped with
  | beginFrame input idle =>
      exact {
        inv := after
        explained := explained
        outcome := outcome.keepThreads inv system.app rfl rfl fun _ => rfl
        confettiPending := fun raised => by
          simpa [idle] using pending raised
      }
  | pass label app following repaint inFrame moved stateDrained
      hostDrained pingDrained celebrated same repaintKept =>
      exact {
        inv := after
        explained := explained
        outcome :=
          outcome.keepThreads inv app same.stateRx same.activeAttempt
            same.state
        confettiPending := fun raised => by
          subst moved
          rcases pending (same.confettiPending raised) with
            turn | turn | turn | turn
          · simp [turn, FramePhase.next]
          · simp [turn, FramePhase.next]
          · simp [turn, FramePhase.next]
          · rw [celebrated turn] at raised
            cases raised
      }
  | drainedProgress elapsedAt shownAt channel thread state turn receiver
      present connected shown progress =>
      exact {
        inv := after
        explained := explained_set explained present (.taken _ rfl)
        outcome := outcome.showReport inv receiver present shown
        confettiPending := fun _ => .inl rfl
      }
  | drainedEnd elapsedAt shownAt channel thread state active app turn
      receiver present result isActive ended =>
      have notPending : system.app.confettiPending = false := by
        by_contra raised
        rw [Bool.not_eq_false] at raised
        simpa [turn] using pending raised
      exact {
        inv := after
        explained := explained_set explained present (.taken _ rfl)
        outcome :=
          outcome.finish inv
            (explained thread (List.mem_of_getElem? present)) receiver
            present result isActive elapsedAt rfl ended.activeAttempt
            (by rw [confettiRaised_ended ended notPending])
        confettiPending := fun _ => .inl rfl
      }
  | hostWaiting now channel thread turn receiver present nothing =>
      exact {
        inv := after
        explained := explained
        outcome := outcome.keepThreads inv system.app rfl rfl fun _ => rfl
        confettiPending := fun _ => .inr (.inl rfl)
      }
  | hostFinished now channel thread check turn receiver present something
      finished =>
      exact {
        inv := after
        explained := explained
        outcome :=
          outcome.keepThreads inv { system.app with hostStatus := check } rfl rfl
            fun _ => rfl
        confettiPending := fun _ => .inr (.inl rfl)
      }
  | pingWaiting now channel thread turn receiver present nothing =>
      exact {
        inv := after
        explained := explained
        outcome := outcome.keepThreads inv system.app rfl rfl fun _ => rfl
        confettiPending := fun _ => .inr (.inr (.inl rfl))
      }
  | pingFinished now channel thread check turn receiver present something
      finished =>
      exact {
        inv := after
        explained := explained
        outcome :=
          outcome.keepThreads inv { system.app with ping := check } rfl rfl
            fun _ => rfl
        confettiPending := fun _ => .inr (.inr (.inl rfl))
      }
  | wakeRefused click now failure app turn enabled refusal celebrated same =>
      exact {
        inv := after
        explained := explained
        outcome :=
          outcome.refuse (inv.noAttempt enabled) refusal click.attempt
            click.elapsedAt same.activeAttempt
        confettiPending := fun raised => by
          simp [celebrated] at raised
      }
  | wakeSpawned click now app body turn enabled stateRx sameHost samePing
      activeAttempt state celebrated =>
      exact {
        inv := after
        explained := fun thread member => by
          rcases List.mem_append.mp member with earlier | fresh
          · exact explained thread earlier
          · rw [List.mem_singleton.mp fresh]
            exact sendsOnly_spawned fun _ => body.explainsRuntime
        outcome :=
          outcome.spawn inv (inv.noAttempt enabled) click.attempt
            body.program stateRx activeAttempt state
        confettiPending := fun raised => by
          simp [celebrated] at raised
      }
  | hostSpawned click check body turn enabled checkRx =>
      exact {
        inv := after
        explained := explained
        outcome :=
          outcome.keepThreads inv { system.app with hostStatus := check } rfl rfl
            fun _ => rfl
        confettiPending := fun raised => by
          simpa [turn] using pending raised
      }
  | pingSpawned click check body turn enabled checkRx =>
      exact {
        inv := after
        explained := explained
        outcome :=
          outcome.keepThreads inv { system.app with ping := check } rfl rfl
            fun _ => rfl
        confettiPending := fun raised => by
          simpa [turn] using pending raised
      }
  | wakeAdvanced channel thread next notified present advanced =>
      exact {
        inv := after
        explained := explained_set explained present (.advanced _ advanced)
        outcome := outcome.setThread inv present (.advanced _ advanced)
        confettiPending := pending
      }
  | checkAdvanced channel thread next notified present advanced =>
      exact {
        inv := after
        explained := explained
        outcome := outcome.keepThreads inv system.app rfl rfl fun _ => rfl
        confettiPending := pending
      }
  | wakePanicked channel thread next present panicked =>
      exact {
        inv := after
        explained := explained_set explained present (.panicked panicked)
        outcome := outcome.setThread inv present (.panicked panicked)
        confettiPending := pending
      }
  | checkPanicked channel thread next present panicked =>
      exact {
        inv := after
        explained := explained
        outcome := outcome.keepThreads inv system.app rfl rfl fun _ => rfl
        confettiPending := pending
      }

/-- At every moment every attempt has exactly one outcome, its own. -/
theorem oneOutcomeEach_always (labels : List SystemStep) :
    StepSystem.Always step? OneOutcomeEach initial labels :=
  StepSystem.always_of_invariant
    (fun _ _ _ recorded stepped => recorded.step stepped)
    (fun _ recorded => recorded.outcome)
    Recorded.initial labels

/-- What a verdict would be if only silent workers had no runtime. -/
structure SilentVerdict
    (threads : List (ReportingThread WakeState))
    (origin : Origin)
    (summary : AttemptSummary) : Prop where
  awake : summary.failure = none ↔ origin.Reported threads .awake
  failed :
    ∀ failure,
      summary.failure = some failure ↔
        origin.Reported threads (.failed failure)
  runtime :
    (∃ failure,
        summary.failure = some failure ∧ failure.stage = .runtime) ↔
      origin.ClosedSilently threads

/-- A wake worker that reports that it cannot start its runtime. -/
def noRuntimeRun : List SystemStep :=
  frame 0
      (some (firstClick (.spawned homeJob
        (.noRuntime "Resource temporarily unavailable"))))
      none ++
    List.replicate 3 (.wakeThread 0) ++
    frame 1 none none

/-- Its attempt fails at the runtime stage, and its worker was not silent. -/
theorem noRuntimeRun_reported :
    ¬ StepSystem.Always step?
      (fun system =>
        ∃ current,
          History (SilentVerdict system.wakeThreads) current system.history)
      initial noRuntimeRun := by
  intro always
  let failure := noRuntimeFailure "Resource temporarily unavailable"
  have ended :
      (StepSystem.run? step? initial noRuntimeRun).map
          (fun final => (final.history, final.wakeThreads.map (·.sent))) =
        some
          ([.began ⟨1, 0⟩ (.worker 0),
            .finished ⟨1, 0⟩ ⟨1, some failure⟩],
            [[.failed failure]]) := by
    rfl
  obtain ⟨final, returned, same⟩ := Option.map_eq_some_iff.mp ended
  obtain ⟨history, sent⟩ := Prod.mk.inj same
  obtain ⟨current, judged⟩ := always.last returned
  obtain ⟨origin, began, verdict⟩ :=
    judged.judged.2 ⟨1, 0⟩ ⟨1, some failure⟩ (by simp [history])
  have isWorker : origin = .worker 0 := by
    simpa [history] using began
  have silent := verdict.runtime.mp ⟨failure, rfl, rfl⟩
  rw [isWorker] at silent
  obtain ⟨thread, present, _, nothing⟩ := silent
  have reported : thread.sent = [.failed failure] := by
    have first := congrArg (·[0]?) sent
    simpa [present] using first
  have notTerminal := nothing (.failed failure) (by simp [reported])
  cases notTerminal

end AppSystem

end Waker
