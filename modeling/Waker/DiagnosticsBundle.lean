import Waker.Diagnostics
import Waker.WakeScreen

namespace Waker

/-!
# The diagnostics bundle

The text that is copied when a user reports a problem: how the last attempt
ended, what the two checks have found, and the log.  In every run it reports
what has really happened, shows the log as it is opened on its own, and has no
line that looks like a credential.
-/

/-- How the bundle reports the last wake. -/
def wakeReport
    (formatSeconds : Duration → String)
    (summary : AttemptSummary) : String :=
  let outcome :=
    match summary.failure with
    | some failure =>
        "failed (" ++ failure.stage.logName ++ ") - " ++
          friendlyFailureMessage failure
    | none => "succeeded"
  "Last wake: " ++ outcome ++ " in " ++
    formatDuration formatSeconds summary.elapsed

/-- The paragraph of the bundle about the last wake. -/
def wakeParagraph
    (formatSeconds : Duration → String) : Option AttemptSummary → String
  | some summary => wakeReport formatSeconds summary ++ "\n\n"
  | none => ""

/-- How the bundle reports one kind of check. -/
structure ReportTexts where
  title : String
  answer : Bool → String

/-- The result of a check in words. -/
def ReportTexts.status (texts : ReportTexts) : Except String Bool → String
  | .ok answer => texts.answer answer
  | .error error => "failed - " ++ error

/-- The paragraph of the bundle about a check. -/
def ReportTexts.paragraph
    (texts : ReportTexts) : Option (Except String Bool) → String
  | some status => texts.title ++ ": " ++ texts.status status ++ "\n\n"
  | none => ""

/-- The report on the host status check. -/
def hostStatusReport : ReportTexts where
  title := "FRITZ!Box host status"
  answer
    | true => "online"
    | false => "offline"

/-- The report on the ping. -/
def pingReport : ReportTexts where
  title := "PC ICMP ping"
  answer
    | true => "reply received"
    | false => "no reply"

/-- What the bundle says before the log. -/
def bundleHead
    (formatSeconds : Duration → String)
    (lastAttempt : Option AttemptSummary)
    (hostStatus ping : Option (Except String Bool)) : String :=
  "Waker diagnostics\n" ++ wakeParagraph formatSeconds lastAttempt ++
    hostStatusReport.paragraph hostStatus ++ pingReport.paragraph ping

namespace WakerApp

/-- `diagnostics_bundle`. -/
def diagnosticsBundle
    (formatSeconds : Duration → String)
    (app : WakerApp)
    (logText : List Char) : List Char :=
  sanitizeDiagnostics
    ((bundleHead formatSeconds app.lastAttempt app.hostStatus.status
      app.ping.status).toList ++ logText)

/-- The text that `copy_diagnostics_to_clipboard` hands over. -/
def copiedText
    (formatSeconds : Duration → String)
    (app : WakerApp)
    (logDir : Option LogDirectory) : List Char :=
  app.diagnosticsBundle formatSeconds (currentLogText logDir)

end WakerApp

/-- The lines of a paragraph, with the empty line after it. -/
def paragraphLines (text : String) : List (List Char) :=
  (Text.split '\n' text.toList).map Text.stripCarriageReturn ++ [[]]

/-- The result of the latest check, when it has come to an end. -/
def CheckRecord.result? (lost : String) :
    CheckRecord → Option (Except String Bool)
  | .finished ended _ _ => some (ended.result lost)
  | .never | .running _ _ => none

/-- The lines of the report on the last attempt that is over. -/
def wakeReportLines
    (formatSeconds : Duration → String) :
    Option AttemptSummary → List (List Char)
  | some summary => paragraphLines (wakeReport formatSeconds summary)
  | none => []

/-- The lines of the report on a check. -/
def ReportTexts.lines (texts : ReportTexts) :
    Option (Except String Bool) → List (List Char)
  | some status =>
      paragraphLines (texts.title ++ ": " ++ texts.status status)
  | none => []

/-- The lines of the report on what has happened. -/
def reportLines
    (formatSeconds : Duration → String)
    (history : List HistoryEvent)
    (seen : LatestChecks) : List (List Char) :=
  "Waker diagnostics".toList ::
    (wakeReportLines formatSeconds (lastSummary history) ++
      hostStatusReport.lines
        (seen.hostStatus.result? AppSystem.hostStatusLost) ++
      pingReport.lines (seen.ping.result? AppSystem.pingLost))

section Paragraphs

/-- A paragraph is ended. -/
theorem ended_paragraph (text : String) :
    Text.Ended (text ++ "\n\n").toList :=
  .inr ⟨(text ++ "\n").toList, by simp⟩

/-- A paragraph has its own lines and an empty one. -/
theorem lines_paragraph (text : String) :
    Text.lines (text ++ "\n\n").toList = paragraphLines text := by
  have shape :
      (text ++ "\n\n").toList = text.toList ++ '\n' :: ['\n'] := by
    simp
  have blank : Text.lines ['\n'] = [[]] := by
    decide
  rw [shape, Text.lines_append_feed, blank, paragraphLines]

/-- The paragraph about the last wake is ended and has the lines reported. -/
theorem wakeParagraph_spec
    (formatSeconds : Duration → String)
    (summary : Option AttemptSummary) :
    Text.Ended (wakeParagraph formatSeconds summary).toList ∧
      Text.lines (wakeParagraph formatSeconds summary).toList =
        wakeReportLines formatSeconds summary := by
  cases summary with
  | none =>
      exact ⟨.inl rfl, rfl⟩
  | some summary =>
      rw [wakeParagraph, wakeReportLines]
      exact ⟨ended_paragraph _, lines_paragraph _⟩

/-- The paragraph about a check is ended and has the lines reported. -/
theorem ReportTexts.paragraph_spec
    (texts : ReportTexts)
    (status : Option (Except String Bool)) :
    Text.Ended (texts.paragraph status).toList ∧
      Text.lines (texts.paragraph status).toList = texts.lines status := by
  cases status with
  | none =>
      exact ⟨.inl rfl, rfl⟩
  | some status =>
      rw [paragraph, lines]
      exact ⟨ended_paragraph _, lines_paragraph _⟩

/-- The lines of the bundle are those of its paragraphs and of the log. -/
theorem lines_bundle
    (formatSeconds : Duration → String)
    (summary : Option AttemptSummary)
    (hostStatus ping : Option (Except String Bool))
    (logText : List Char) :
    Text.lines
        ((bundleHead formatSeconds summary hostStatus ping).toList ++
          logText) =
      "Waker diagnostics".toList ::
        (wakeReportLines formatSeconds summary ++
          hostStatusReport.lines hostStatus ++ pingReport.lines ping ++
          Text.lines logText) := by
  obtain ⟨wakeEnded, wakeLines⟩ :=
    wakeParagraph_spec formatSeconds summary
  obtain ⟨hostEnded, hostLines⟩ := hostStatusReport.paragraph_spec hostStatus
  obtain ⟨pingEnded, pingLines⟩ := pingReport.paragraph_spec ping
  have titleEnded : Text.Ended "Waker diagnostics\n".toList :=
    .inr ⟨"Waker diagnostics".toList, by decide +kernel⟩
  have titleLines :
      Text.lines "Waker diagnostics\n".toList =
        ["Waker diagnostics".toList] := by
    decide +kernel
  have shape :
      (bundleHead formatSeconds summary hostStatus ping).toList ++ logText =
        "Waker diagnostics\n".toList ++
          ((wakeParagraph formatSeconds summary).toList ++
            ((hostStatusReport.paragraph hostStatus).toList ++
              ((pingReport.paragraph ping).toList ++ logText))) := by
    unfold bundleHead
    generalize "Waker diagnostics\n" = title
    simp only [String.toList_append, List.append_assoc]
  rw [shape, Text.lines_append titleEnded, Text.lines_append wakeEnded,
    Text.lines_append hostEnded, Text.lines_append pingEnded, titleLines,
    wakeLines, hostLines, pingLines]
  simp only [List.singleton_append, List.append_assoc]

end Paragraphs

section Redaction

/-- Trimming the start of a longer text leaves at least as much. -/
theorem trimStart_isPrefix
    {text longer : List Char}
    (shorter : text <+: longer) :
    Text.trimStart text <+: Text.trimStart longer := by
  obtain ⟨rest, rfl⟩ := shorter
  by_cases blank : Text.Blank text
  · rw [Text.trimStart_eq_nil_iff.mpr blank]
    exact List.nil_prefix
  · rw [Text.trimStart_append_of_not_blank blank]
    exact List.prefix_append _ _

/-- A line with a recognised beginning is recognised. -/
theorem secretAssignment_of_isPrefix
    {line longer : List Char}
    (shorter : line <+: longer)
    (secret : secretAssignment line = true) :
    secretAssignment longer = true := by
  have lower :
      Text.toAsciiLowercase line <+: Text.toAsciiLowercase longer :=
    shorter.map _
  simp only [secretAssignment, Bool.or_eq_true, startsSecret,
    containsSecret, List.any_eq_true, Text.startsWith_iff,
    Text.contains_iff] at secret ⊢
  rcases secret with ⟨pattern, member, starts⟩ | ⟨pattern, member, inside⟩
  · exact .inl ⟨pattern, member, starts.trans (trimStart_isPrefix lower)⟩
  · exact .inr ⟨pattern, member, inside.trans lower.isInfix⟩

/-- Removing a carriage return leaves a beginning of the line. -/
theorem stripCarriageReturn_isPrefix (line : List Char) :
    Text.stripCarriageReturn line <+: line := by
  unfold Text.stripCarriageReturn
  split
  · exact List.dropLast_prefix line
  · exact List.prefix_rfl

/-- Every line is the beginning of a piece between line feeds. -/
theorem exists_piece_of_mem_lines
    {line text : List Char}
    (member : line ∈ Text.lines text) :
    ∃ piece, piece ∈ Text.split '\n' text ∧ line <+: piece := by
  induction text using Text.cutInduction '\n' with
  | last whole feedless =>
      by_cases empty : whole = []
      · simp [empty] at member
      · rw [Text.lines_of_feedless empty feedless,
          List.mem_singleton] at member
        refine ⟨whole, ?_, member ▸ List.prefix_rfl⟩
        simp [Text.split, List.splitOn_eq_singleton feedless]
  | more first rest feedless inductionHypothesis =>
      have pieces :
          Text.split '\n' (first ++ '\n' :: rest) =
            first :: Text.split '\n' rest := by
        simp [Text.split, List.splitOn_append_cons_self,
          List.splitOn_eq_singleton feedless]
      rw [Text.lines_line_feed feedless, List.mem_cons] at member
      rw [pieces]
      rcases member with rfl | later
      · exact ⟨first, List.mem_cons_self,
          stripCarriageReturn_isPrefix first⟩
      · obtain ⟨piece, found, begins⟩ := inductionHypothesis later
        exact ⟨piece, List.mem_cons_of_mem first found, begins⟩

/-- The copy of a line is not recognised. -/
theorem secretAssignment_sanitizeLine (line : List Char) :
    secretAssignment (sanitizeLine line) = false := by
  unfold sanitizeLine
  split
  · exact secretAssignment_redactionMarker
  · next ordinary =>
      exact Bool.eq_false_iff.mpr ordinary

/-- No piece of a copy is recognised. -/
theorem secretAssignment_of_mem_split
    {piece input : List Char}
    (member : piece ∈ Text.split '\n' (sanitizeDiagnostics input)) :
    secretAssignment piece = false := by
  by_cases empty : Text.lines input = []
  · have nothing : sanitizeDiagnostics input = [] := by
      rw [sanitizeDiagnostics, empty]
      rfl
    rw [nothing] at member
    have blank : piece = [] := by
      simpa [Text.split] using member
    rw [blank]
    decide
  · rw [split_sanitizeDiagnostics empty] at member
    obtain ⟨line, _, rfl⟩ := List.mem_map.mp member
    exact secretAssignment_sanitizeLine line

/-- Nothing is left to redact in the lines of a copy. -/
theorem map_sanitizeLine_lines (input : List Char) :
    (Text.lines (sanitizeDiagnostics input)).map sanitizeLine =
      Text.lines (sanitizeDiagnostics input) := by
  rw [List.map_congr_left, List.map_id]
  intro line member
  obtain ⟨piece, inCopy, begins⟩ := exists_piece_of_mem_lines member
  have ordinary : secretAssignment line ≠ true := fun secret => by
    have absent := secretAssignment_of_mem_split inCopy
    rw [secretAssignment_of_isPrefix begins secret] at absent
    cases absent
  rw [sanitizeLine, if_neg ordinary, id]

end Redaction

/-- A check keeps the result of the latest one that has come to an end. -/
theorem CheckRecord.status_check
    (lost : String)
    (record : CheckRecord) :
    (record.check lost).status = record.result? lost := by
  cases record <;> rfl

/--
The copied text consists of the report on what has happened, redacted line by
line, and of the log as it is opened on its own; none of its lines looks like a
credential.
-/
structure BundleTruthful
    (observed : AppSystem × LatestChecks) : Prop where
  lines :
    ∀ formatSeconds logDir,
      Text.split '\n' (observed.1.app.copiedText formatSeconds logDir) =
        (reportLines formatSeconds observed.1.history observed.2).map
            sanitizeLine ++
          Text.lines (currentLogText logDir)
  redacted :
    ∀ formatSeconds logDir line,
      line ∈
          Text.split '\n'
            (observed.1.app.copiedText formatSeconds logDir) →
        secretAssignment line = false
  hostGenuine : observed.2.hostStatus.Genuine observed.1.checkThreads
  pingGenuine : observed.2.ping.Genuine observed.1.checkThreads

namespace AppSystem

variable {system after : AppSystem}
variable {seen : LatestChecks}

/-- What carries the truth of the bundle from one step to the next. -/
structure ReportsHistory
    (system : AppSystem)
    (seen : LatestChecks) : Prop where
  inv : system.Invariant
  attempt : system.TellsAttempt
  latest : system.TellsLatest seen

namespace ReportsHistory

/-- At first there is nothing to report. -/
theorem initial : ReportsHistory initial .initial where
  inv := Invariant.initial
  attempt := TellsAttempt.initial
  latest := TellsLatest.initial

/-- Every step keeps what is reported and what has happened together. -/
theorem step
    (reports : system.ReportsHistory seen)
    {label : SystemStep}
    (stepped : system.step? label = some after) :
    after.ReportsHistory (seen.observe system label) where
  inv := reports.inv.step stepped
  attempt := reports.attempt.step reports.inv stepped
  latest := reports.latest.step reports.inv stepped

/-- A bundle that reports the history is truthful. -/
theorem truthful (reports : system.ReportsHistory seen) :
    BundleTruthful (system, seen) where
  lines formatSeconds logDir := by
    have wholeLines :=
      lines_bundle formatSeconds system.app.lastAttempt
        system.app.hostStatus.status system.app.ping.status
        (currentLogText logDir)
    rw [reports.attempt.lastAttempt, reports.latest.hostStatus.kept,
      reports.latest.ping.kept, CheckRecord.status_check,
      CheckRecord.status_check] at wholeLines
    rw [WakerApp.copiedText, WakerApp.diagnosticsBundle,
      reports.attempt.lastAttempt, reports.latest.hostStatus.kept,
      reports.latest.ping.kept, CheckRecord.status_check,
      CheckRecord.status_check,
      split_sanitizeDiagnostics (by simp [wholeLines]), wholeLines,
      reportLines, ← List.cons_append, List.map_append]
    congr 1
    exact map_sanitizeLine_lines _
  redacted _ _ _ member := secretAssignment_of_mem_split member
  hostGenuine := reports.latest.hostStatus.genuine
  pingGenuine := reports.latest.ping.genuine

end ReportsHistory

/-- In every run the copied diagnostics report what has happened. -/
theorem bundleTruthful_always (labels : List SystemStep) :
    StepSystem.Always (StepSystem.observing step? LatestChecks.observe)
      BundleTruthful (initial, .initial) labels := by
  have preserved
      (observed : AppSystem × LatestChecks)
      (label : SystemStep)
      (after : AppSystem × LatestChecks)
      (reports : observed.1.ReportsHistory observed.2)
      (stepped :
        StepSystem.observing step? LatestChecks.observe observed label =
          some after) :
      after.1.ReportsHistory after.2 := by
    obtain ⟨taken, seen⟩ := StepSystem.observing_eq_some_iff.mp stepped
    rw [seen]
    exact reports.step taken
  exact StepSystem.always_of_invariant preserved
    (fun _ reports => reports.truthful) ReportsHistory.initial labels

end AppSystem

end Waker
