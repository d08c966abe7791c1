import Waker.CheckRecord

namespace Waker

open ReportingThread

/-!
# What the screen says about the checks

The buttons and the error lines of the two diagnostic checks.  In every run they
tell of the latest check what its own worker has reported, or how it was
refused or lost, and a result is gone when its five seconds are over.
-/

/-- The texts of one kind of check. -/
structure CheckTexts where
  ready : String
  running : String
  answer : Bool → String
  failed : String
  lost : String

/-- The texts of the host status check. -/
def hostStatusTexts : CheckTexts where
  ready := "Check PC via FRITZ!Box API"
  running := "Checking FRITZ!Box…"
  answer
    | true => "PC online"
    | false => "PC offline"
  failed := "Status check failed: "
  lost := AppSystem.hostStatusLost

/-- The texts of the ping. -/
def pingTexts : CheckTexts where
  ready := "Ping PC through tunnel"
  running := "Pinging PC…"
  answer
    | true => "PC replied"
    | false => "No ICMP reply"
  failed := "Ping failed: "
  lost := AppSystem.pingLost

namespace DiagnosticCheck

/-- The label of the button of a check. -/
def buttonLabel (texts : CheckTexts) (check : DiagnosticCheck) : String :=
  if check.checkRx.isSome then
    texts.running
  else if check.statusDeadline.isSome then
    match check.status with
    | some (.ok answer) => texts.answer answer
    | some (.error _) | none => texts.ready
  else
    texts.ready

/-- The error line below the button of a check. -/
def errorLine
    (texts : CheckTexts)
    (check : DiagnosticCheck) : Option String :=
  if check.statusDeadline.isSome then
    match check.status with
    | some (.error error) => some (texts.failed ++ error)
    | some (.ok _) | none => none
  else
    none

end DiagnosticCheck

namespace WakerApp

/-- `host_status_button_label`. -/
def hostStatusButtonLabel (app : WakerApp) : String :=
  app.hostStatus.buttonLabel hostStatusTexts

/-- `ping_button_label`. -/
def pingButtonLabel (app : WakerApp) : String :=
  app.ping.buttonLabel pingTexts

/-- The error line of `render_fritz_status_diagnostic`. -/
def hostStatusErrorLine (app : WakerApp) : Option String :=
  app.hostStatus.errorLine hostStatusTexts

/-- The error line of `render_ping_diagnostic`. -/
def pingErrorLine (app : WakerApp) : Option String :=
  app.ping.errorLine pingTexts

end WakerApp

/-- No two situations have the same label. -/
structure CheckTexts.Distinct (texts : CheckTexts) : Prop where
  running : texts.running ≠ texts.ready
  answer : ∀ answer, texts.answer answer ≠ texts.ready
  answer_running : ∀ answer, texts.answer answer ≠ texts.running
  answers :
    ∀ first second,
      texts.answer first = texts.answer second →
      first = second

/-- The labels of the host status check differ. -/
theorem hostStatusTexts_distinct : hostStatusTexts.Distinct where
  running := by decide
  answer := by decide
  answer_running := by decide
  answers := by decide

/-- The labels of the ping differ. -/
theorem pingTexts_distinct : pingTexts.Distinct where
  running := by decide
  answer := by decide
  answer_running := by decide
  answers := by decide

/--
The label and the error line tell of the latest check what its own worker has
reported, or how it was refused or lost.
-/
structure CheckTruthful
    (texts : CheckTexts)
    (threads : List (ReportingThread (Except String Bool)))
    (label : String)
    (errorLine : Option String)
    (record : CheckRecord) : Prop where
  running :
    label = texts.running ↔
      ∃ channel body, record = .running channel body
  answered :
    ∀ answer,
      label = texts.answer answer ↔
        ∃ channel body noticed,
          record = .finished (.reported channel body) noticed true ∧
          body.result = .ok answer
  failed :
    ∀ line,
      errorLine = some line ↔
        ∃ ended noticed error,
          record = .finished ended noticed true ∧
          ended.result texts.lost = .error error ∧
          line = texts.failed ++ error
  genuine : record.Genuine threads

namespace CheckRecord

variable {texts : CheckTexts}
variable {threads : List (ReportingThread (Except String Bool))}

/-- Only a worker can report an answer. -/
theorem result_eq_ok_iff
    {lost : String}
    {ended : CheckEnd}
    {answer : Bool} :
    ended.result lost = .ok answer ↔
      ∃ channel body,
        ended = .reported channel body ∧ body.result = .ok answer := by
  constructor
  · intro answered
    cases ended with
    | reported channel body =>
        exact ⟨channel, body, rfl, answered⟩
    | _ =>
        cases answered
  · rintro ⟨channel, body, rfl, answered⟩
    exact answered

/-- Without a check, or when its result is gone, the button is ready. -/
theorem truthful_ready
    (distinct : texts.Distinct)
    {record : CheckRecord}
    (notRunning : ∀ channel body, record ≠ .running channel body)
    (notDisplayed : ∀ ended noticed, record ≠ .finished ended noticed true)
    (genuine : record.Genuine threads) :
    CheckTruthful texts threads texts.ready none record where
  running :=
    iff_of_false distinct.running.symm fun ⟨channel, body, same⟩ =>
      notRunning channel body same
  answered answer :=
    iff_of_false (distinct.answer answer).symm
      fun ⟨_, _, noticed, same, _⟩ => notDisplayed _ noticed same
  failed line :=
    iff_of_false (fun some => by cases some)
      fun ⟨ended, noticed, _, same, _⟩ => notDisplayed ended noticed same
  genuine := genuine

/-- While a result is displayed, the button or the error line tells it. -/
theorem truthful_displayed
    (distinct : texts.Distinct)
    {ended : CheckEnd}
    {noticed : Instant}
    (genuine : (finished ended noticed true).Genuine threads) :
    CheckTruthful texts threads
      (((finished ended noticed true).check texts.lost).buttonLabel texts)
      (((finished ended noticed true).check texts.lost).errorLine texts)
      (.finished ended noticed true) := by
  have onlyThis
      {other : CheckEnd}
      {since : Instant}
      (same :
        finished ended noticed true = .finished other since true) :
      other = ended := by
    cases same
    rfl
  cases result : ended.result texts.lost with
  | ok shown =>
      obtain ⟨channel, body, rfl, own⟩ := result_eq_ok_iff.mp result
      have label :
          ((finished (.reported channel body) noticed true).check
            texts.lost).buttonLabel texts = texts.answer shown := by
        simp [check, DiagnosticCheck.buttonLabel, result]
      have line :
          ((finished (.reported channel body) noticed true).check
            texts.lost).errorLine texts = none := by
        simp [check, DiagnosticCheck.errorLine, result]
      rw [label, line]
      refine ⟨?_, fun answer => ⟨?_, ?_⟩, fun line => ?_, genuine⟩
      · refine iff_of_false (distinct.answer_running shown) ?_
        rintro ⟨_, _, same⟩
        cases same
      · intro same
        rw [← distinct.answers shown answer same]
        exact ⟨channel, body, noticed, rfl, own⟩
      · rintro ⟨_, other, _, same, answered⟩
        cases onlyThis same
        rw [own, Except.ok.injEq] at answered
        rw [answered]
      · refine iff_of_false (fun some => by cases some) ?_
        rintro ⟨other, since, error, same, failed, _⟩
        rw [onlyThis same, result] at failed
        cases failed
  | error error =>
      have label :
          ((finished ended noticed true).check
            texts.lost).buttonLabel texts = texts.ready := by
        simp [check, DiagnosticCheck.buttonLabel, result]
      have line :
          ((finished ended noticed true).check texts.lost).errorLine texts =
            some (texts.failed ++ error) := by
        simp [check, DiagnosticCheck.errorLine, result]
      rw [label, line]
      refine ⟨?_, fun answer => ?_, fun line => ⟨?_, ?_⟩, genuine⟩
      · refine iff_of_false distinct.running.symm ?_
        rintro ⟨_, _, same⟩
        cases same
      · refine iff_of_false (distinct.answer answer).symm ?_
        rintro ⟨channel, body, since, same, answered⟩
        rw [← onlyThis same, CheckEnd.result, answered] at result
        cases result
      · rintro ⟨⟩
        exact ⟨ended, noticed, error, rfl, result, rfl⟩
      · rintro ⟨other, since, reason, same, failed, rfl⟩
        rw [onlyThis same, result, Except.error.injEq] at failed
        rw [failed]

/-- The app tells the truth about its record. -/
theorem truthful
    (distinct : texts.Distinct)
    {record : CheckRecord}
    (genuine : record.Genuine threads) :
    CheckTruthful texts threads
      ((record.check texts.lost).buttonLabel texts)
      ((record.check texts.lost).errorLine texts) record := by
  rcases record with _ | ⟨channel, body⟩ | ⟨ended, noticed, _ | _⟩
  · exact truthful_ready distinct (fun _ _ => nofun) (fun _ _ => nofun)
      genuine
  · exact {
      running := iff_of_true rfl ⟨channel, body, rfl⟩
      answered := fun answer =>
        iff_of_false (distinct.answer_running answer).symm
          fun ⟨_, _, _, same, _⟩ => by cases same
      failed := fun line =>
        iff_of_false (fun some => by cases some)
          fun ⟨_, _, _, same, _⟩ => by cases same
      genuine := genuine
    }
  · exact truthful_ready distinct (fun _ _ => nofun) (fun _ _ => nofun)
      genuine
  · exact truthful_displayed distinct genuine

/-- A displayed result was noticed less than its display time ago. -/
def FreshAt (now : Instant) (record : CheckRecord) : Prop :=
  ∀ ended noticed,
    record = .finished ended noticed true →
    now < noticed + TERMINAL_STATE_DISPLAY_DURATION

/-- A frame that has looked at the clock displays only fresh results. -/
theorem freshAt_expire
    (now : Instant)
    (record : CheckRecord) :
    (record.expire now).FreshAt now := by
  rintro ended noticed same
  cases record with
  | finished other since displayed =>
      simp only [expire, finished.injEq, Bool.and_eq_true,
        decide_eq_true_eq] at same
      obtain ⟨_, rfl, _, early⟩ := same
      exact early
  | _ =>
      cases same

end CheckRecord

/--
Both buttons and error lines are truthful, the two checks exclude each other
and a wake attempt, and when a frame draws the buttons no displayed result is
older than its display time.
-/
structure ChecksTruthful
    (observed : AppSystem × LatestChecks) : Prop where
  hostStatus :
    CheckTruthful hostStatusTexts observed.1.checkThreads
      observed.1.app.hostStatusButtonLabel
      observed.1.app.hostStatusErrorLine observed.2.hostStatus
  ping :
    CheckTruthful pingTexts observed.1.checkThreads
      observed.1.app.pingButtonLabel observed.1.app.pingErrorLine
      observed.2.ping
  hostFresh :
    observed.1.phase = .wakeButton ∨
        observed.1.phase = .hostStatusButton →
      observed.2.hostStatus.FreshAt observed.2.timeoutsAt
  pingFresh :
    observed.1.phase = .wakeButton ∨
        observed.1.phase = .hostStatusButton ∨
        observed.1.phase = .pingButton →
      observed.2.ping.FreshAt observed.2.timeoutsAt
  alone :
    observed.1.app.hostStatusButtonLabel = hostStatusTexts.running →
      observed.1.app.pingButtonLabel ≠ pingTexts.running ∧
        observed.1.app.busy = false
  pingAlone :
    observed.1.app.pingButtonLabel = pingTexts.running →
      observed.1.app.busy = false

namespace AppSystem

/-- What carries the main result from one step to the next. -/
structure ShowsChecks
    (system : AppSystem)
    (seen : LatestChecks) : Prop where
  inv : system.Invariant
  tells : system.TellsLatest seen
  hostFresh :
    system.phase = .wakeButton ∨ system.phase = .hostStatusButton →
      seen.hostStatus.FreshAt seen.timeoutsAt
  pingFresh :
    system.phase = .wakeButton ∨ system.phase = .hostStatusButton ∨
        system.phase = .pingButton →
      seen.ping.FreshAt seen.timeoutsAt

namespace ShowsChecks

variable {system after : AppSystem}
variable {seen : LatestChecks}

/-- At first nothing is displayed. -/
theorem initial : ShowsChecks initial .initial where
  inv := Invariant.initial
  tells := TellsLatest.initial
  hostFresh drawn := by rcases drawn with turn | turn <;> cases turn
  pingFresh drawn := by rcases drawn with turn | turn | turn <;> cases turn

/-- The clock that the last timeouts have read is the one noted. -/
theorem fresh_step
    (shows : system.ShowsChecks seen)
    {label : SystemStep}
    (stepped : system.step? label = some after) :
    (after.phase = .wakeButton ∨ after.phase = .hostStatusButton →
        (seen.observe system label).hostStatus.FreshAt
          (seen.observe system label).timeoutsAt) ∧
      (after.phase = .wakeButton ∨ after.phase = .hostStatusButton ∨
          after.phase = .pingButton →
        (seen.observe system label).ping.FreshAt
          (seen.observe system label).timeoutsAt) := by
  cases label with
  | beginFrame input =>
      simp only [step?, Option.ite_none_right_eq_some] at stepped
      obtain ⟨_, ⟨⟩⟩ := stepped
      exact ⟨by simp, by simp⟩
  | timeouts terminalNow diagnosticNow =>
      exact ⟨fun _ => CheckRecord.freshAt_expire diagnosticNow _,
        fun _ => CheckRecord.freshAt_expire diagnosticNow _⟩
  | wakeButton click now =>
      obtain ⟨turn, next, pressed, rfl⟩ := inPhase_eq_some_iff.mp stepped
      exact ⟨fun _ => shows.hostFresh (.inl turn),
        fun _ => shows.pingFresh (.inl turn)⟩
  | hostStatusButton click =>
      obtain ⟨turn, next, pressed, rfl⟩ := inPhase_eq_some_iff.mp stepped
      refine ⟨by simp, fun _ => ?_⟩
      cases click with
      | none =>
          exact shows.pingFresh (.inr (.inl turn))
      | some click =>
          exact shows.pingFresh (.inr (.inl turn))
  | drainState elapsedAt shownAt =>
      obtain ⟨turn, next, _, rfl⟩ := inPhase_eq_some_iff.mp stepped
      exact ⟨by simp, by simp⟩
  | drainHostStatus now =>
      obtain ⟨turn, next, _, rfl⟩ := inPhase_eq_some_iff.mp stepped
      exact ⟨by simp, by simp⟩
  | drainPing now =>
      obtain ⟨turn, next, _, rfl⟩ := inPhase_eq_some_iff.mp stepped
      exact ⟨by simp, by simp⟩
  | pingButton click =>
      obtain ⟨turn, next, _, rfl⟩ := inPhase_eq_some_iff.mp stepped
      exact ⟨by simp, by simp⟩
  | paintConfetti now =>
      obtain ⟨turn, next, _, rfl⟩ := inPhase_eq_some_iff.mp stepped
      exact ⟨by simp, by simp⟩
  | wakeThread channel =>
      obtain ⟨_, _, rfl⟩ := Option.map_eq_some_iff.mp stepped
      exact ⟨shows.hostFresh, shows.pingFresh⟩
  | checkThread channel =>
      obtain ⟨_, _, rfl⟩ := Option.map_eq_some_iff.mp stepped
      exact ⟨shows.hostFresh, shows.pingFresh⟩
  | wakePanic channel =>
      obtain ⟨_, _, rfl⟩ := Option.map_eq_some_iff.mp stepped
      exact ⟨shows.hostFresh, shows.pingFresh⟩
  | checkPanic channel =>
      obtain ⟨_, _, rfl⟩ := Option.map_eq_some_iff.mp stepped
      exact ⟨shows.hostFresh, shows.pingFresh⟩

/-- Every step keeps what is shown and what is recorded together. -/
theorem step
    (shows : system.ShowsChecks seen)
    {label : SystemStep}
    (stepped : system.step? label = some after) :
    after.ShowsChecks (seen.observe system label) where
  inv := shows.inv.step stepped
  tells := shows.tells.step shows.inv stepped
  hostFresh := (shows.fresh_step stepped).1
  pingFresh := (shows.fresh_step stepped).2

/-- A button that shows a running check has a receiver behind it. -/
theorem checkRx_of_label
    {texts : CheckTexts}
    {threads : List (ReportingThread (Except String Bool))}
    {label : String}
    {line : Option String}
    {record : CheckRecord}
    (truthful : CheckTruthful texts threads label line record)
    (running : label = texts.running)
    (lost : String) :
    (record.check lost).checkRx.isSome := by
  obtain ⟨channel, body, rfl⟩ := truthful.running.mp running
  rfl

/-- What is shown together with what is recorded is truthful. -/
theorem truthful
    (shows : system.ShowsChecks seen) :
    ChecksTruthful (system, seen) := by
  have hostStatus :
      CheckTruthful hostStatusTexts system.checkThreads
        system.app.hostStatusButtonLabel system.app.hostStatusErrorLine
        seen.hostStatus := by
    rw [WakerApp.hostStatusButtonLabel, WakerApp.hostStatusErrorLine,
      shows.tells.hostStatus.kept]
    exact CheckRecord.truthful hostStatusTexts_distinct
      shows.tells.hostStatus.genuine
  have ping :
      CheckTruthful pingTexts system.checkThreads
        system.app.pingButtonLabel system.app.pingErrorLine seen.ping := by
    rw [WakerApp.pingButtonLabel, WakerApp.pingErrorLine, shows.tells.ping.kept]
    exact CheckRecord.truthful pingTexts_distinct shows.tells.ping.genuine
  have notBusy
      (checking :
        system.app.hostStatus.checkRx.isSome ∨
          system.app.ping.checkRx.isSome) :
      system.app.busy = false := by
    by_contra busy
    rw [Bool.not_eq_false] at busy
    obtain ⟨noHost, noPing⟩ := shows.inv.ui.wakeAlone busy
    rw [noHost, noPing] at checking
    simp at checking
  have hostRx
      (running :
        system.app.hostStatusButtonLabel = hostStatusTexts.running) :
      system.app.hostStatus.checkRx.isSome := by
    rw [shows.tells.hostStatus.kept]
    exact checkRx_of_label hostStatus running hostStatusLost
  have pingRx
      (running : system.app.pingButtonLabel = pingTexts.running) :
      system.app.ping.checkRx.isSome := by
    rw [shows.tells.ping.kept]
    exact checkRx_of_label ping running pingLost
  exact {
    hostStatus := hostStatus
    ping := ping
    hostFresh := shows.hostFresh
    pingFresh := shows.pingFresh
    alone := fun running => by
      refine ⟨fun pinging => ?_, notBusy (.inl (hostRx running))⟩
      have noPing := shows.inv.ui.checkAlone (hostRx running)
      have checking := pingRx pinging
      rw [noPing] at checking
      cases checking
    pingAlone := fun running => notBusy (.inr (pingRx running))
  }

end ShowsChecks

/-- In every run the screen tells the truth about both checks. -/
theorem checksTruthful_always (labels : List SystemStep) :
    StepSystem.Always (StepSystem.observing step? LatestChecks.observe)
      ChecksTruthful (initial, .initial) labels := by
  have preserved
      (observed : AppSystem × LatestChecks)
      (label : SystemStep)
      (after : AppSystem × LatestChecks)
      (shows : observed.1.ShowsChecks observed.2)
      (stepped :
        StepSystem.observing step? LatestChecks.observe observed label =
          some after) :
      after.1.ShowsChecks after.2 := by
    obtain ⟨taken, seen⟩ := StepSystem.observing_eq_some_iff.mp stepped
    rw [seen]
    exact shows.step taken
  exact StepSystem.always_of_invariant preserved
    (fun _ shows => shows.truthful) ShowsChecks.initial labels

end AppSystem

end Waker
