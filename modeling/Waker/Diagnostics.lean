import Waker.Trimming
import Waker.Lines
import Waker.Utf8

namespace Waker

/-!
# Reading and sanitising the diagnostic log

The newest log file is read, cut to its last bytes, decoded lossily, and
copied line by line; a line that looks like a credential assignment is
replaced by a marker.
-/

/-- A file of the log directory, as the directory listing and a read show it. -/
structure LogEntry where
  fileName : List Char
  path : String
  modified : Option Nat
  content : Except String (List UInt8)

/-- The log directory; `entries` is `none` when it cannot be listed. -/
structure LogDirectory where
  path : String
  entries : Option (List LogEntry)

/-- `LOG_PREFIX`. -/
def logPrefix : List Char :=
  "waker.log".toList

/-- `DIAGNOSTIC_TAIL_BYTES`. -/
def diagnosticTailBytes : Nat :=
  64 * 1024

/-- The order of `sort_by_key`: an unknown modification time comes first. -/
def notNewer (first second : LogEntry) : Bool :=
  match first.modified, second.modified with
  | none, _ => true
  | some _, none => false
  | some earlier, some later => earlier ≤ later

/-- The last entry of a stable sort: later entries win ties. -/
def newest : List LogEntry → Option LogEntry
  | [] => none
  | entry :: rest =>
      match newest rest with
      | none => some entry
      | some later => if notNewer entry later then some later else some entry

/-- Where the tail of a log begins. -/
def tailStart (bytes : List UInt8) (maxBytes : Nat) : Nat :=
  bytes.length - maxBytes

/-- The last bytes of a log, decoded. -/
def logTail (bytes : List UInt8) (maxBytes : Nat) : List Char :=
  Utf8.decodeLossy (bytes.drop (tailStart bytes maxBytes))

/-- `recent_log_tail`. -/
def recentLogTail
    (logDir : Option LogDirectory)
    (maxBytes : Nat) : List Char :=
  match logDir with
  | none =>
      "Persistent diagnostics are unavailable for this run.".toList
  | some directory =>
      match directory.entries with
      | none =>
          ("Could not read diagnostics directory: " ++
            directory.path).toList
      | some entries =>
          match
            newest (entries.filter fun entry =>
              Text.startsWith logPrefix entry.fileName) with
          | none =>
              "No persistent diagnostic log has been written yet.".toList
          | some log =>
              match log.content with
              | .ok bytes => logTail bytes maxBytes
              | .error error =>
                  ("Could not read " ++ log.path ++ ": " ++ error).toList

/-- The tests on the start of a line without its leading blanks. -/
def startPatterns : List (List Char) :=
  [
    "privatekey".toList,
    "presharedkey".toList,
    "private_key=".toList,
    "private_key:".toList,
    "preshared_key=".toList,
    "preshared_key:".toList
  ]

/-- The tests on any part of a line. -/
def innerPatterns : List (List Char) :=
  [
    " private_key=".toList,
    " private_key:".toList,
    " preshared_key=".toList,
    " preshared_key:".toList,
    "\"private_key\":".toList,
    "\"preshared_key\":".toList
  ]

/-- Whether the start of a line looks like a credential assignment. -/
def startsSecret (line : List Char) : Bool :=
  startPatterns.any fun pattern =>
    Text.startsWith pattern
      (Text.trimStart (Text.toAsciiLowercase line))

/-- Whether some part of a line looks like a credential assignment. -/
def containsSecret (line : List Char) : Bool :=
  innerPatterns.any fun pattern =>
    Text.contains pattern (Text.toAsciiLowercase line)

/-- Whether a line looks like a credential assignment. -/
def secretAssignment (line : List Char) : Bool :=
  startsSecret line || containsSecret line

/-- What replaces a credential assignment. -/
def redactionMarker : List Char :=
  "[REDACTED credential line]".toList

/-- The copy of one line. -/
def sanitizeLine (line : List Char) : List Char :=
  if secretAssignment line then redactionMarker else line

/-- `sanitize_diagnostics`. -/
def sanitizeDiagnostics (input : List Char) : List Char :=
  Text.join '\n' ((Text.lines input).map sanitizeLine)

/-- `WakerApp::current_log_text`. -/
def currentLogText (logDir : Option LogDirectory) : List Char :=
  sanitizeDiagnostics (recentLogTail logDir diagnosticTailBytes)

/-- The marker itself does not look like a credential assignment. -/
theorem secretAssignment_redactionMarker :
    secretAssignment redactionMarker = false := by
  decide +kernel

/-- Copied lines contain no line feed. -/
theorem feedless_sanitizeLine
    {line : List Char}
    (feedless : '\n' ∉ line) :
    '\n' ∉ sanitizeLine line := by
  unfold sanitizeLine
  split
  · decide
  · exact feedless

/-- The lines of the copy are the copies of the lines. -/
theorem split_sanitizeDiagnostics
    {input : List Char}
    (nonempty : Text.lines input ≠ []) :
    Text.split '\n' (sanitizeDiagnostics input) =
      (Text.lines input).map sanitizeLine := by
  apply Text.split_join
  · intro copy member
    obtain ⟨line, inInput, rfl⟩ := List.mem_map.mp member
    exact feedless_sanitizeLine (Text.feedless_of_mem_lines inInput)
  · simpa using nonempty

/-- The copy of a line stands where the line stood. -/
theorem sanitizeDiagnostics_line
    {input line : List Char}
    {index : Nat}
    (found : (Text.lines input)[index]? = some line) :
    (Text.split '\n' (sanitizeDiagnostics input))[index]? =
      some (sanitizeLine line) := by
  have nonempty : Text.lines input ≠ [] := by
    intro empty
    simp [empty] at found
  rw [split_sanitizeDiagnostics nonempty, List.getElem?_map, found]
  rfl

/-- A line other than the marker is replaced exactly when it is recognised. -/
theorem sanitizeLine_eq_marker_iff
    {line : List Char}
    (differs : line ≠ redactionMarker) :
    sanitizeLine line = redactionMarker ↔ secretAssignment line = true := by
  unfold sanitizeLine
  by_cases secret : secretAssignment line = true <;>
    simp [secret, differs]

/-- The newest readable log is the one whose tail is taken. -/
theorem recentLogTail_of_newest
    {directory : LogDirectory}
    {entries : List LogEntry}
    {log : LogEntry}
    {bytes : List UInt8}
    (listed : directory.entries = some entries)
    (latest :
      newest (entries.filter fun entry =>
        Text.startsWith logPrefix entry.fileName) = some log)
    (read : log.content = .ok bytes)
    (maxBytes : Nat) :
    recentLogTail (some directory) maxBytes = logTail bytes maxBytes := by
  unfold recentLogTail
  dsimp only
  rw [listed]
  dsimp only
  rw [latest]
  dsimp only
  rw [read]

end Waker
