import Waker.ProfileLines
import Waker.Lines

namespace Waker

/-!
# Two readers of one file

A profile file may carry Waker's own settings next to the WireGuard fields.
`WireGuardProfile.parse` and `parseWakerFileSettings` read the same text line
by line.  A line that one of them takes a value from says nothing to the other,
so lines of either kind can be deleted without a change for the other reader.
-/

/-- The settings kept in a profile file. -/
structure WakerFileSettings where
  fritzIp : Option (List Char)
  pcMac : Option (List Char)
  deriving Repr, DecidableEq

/-- The settings before the first line. -/
def WakerFileSettings.initial : WakerFileSettings where
  fritzIp := none
  pcMac := none

/-- The fields of the settings. -/
inductive WakerField where
  | fritzIp
  | pcMac
  deriving Repr, DecidableEq

/-- The lower-case key of a field. -/
def WakerField.key : WakerField → List Char
  | .fritzIp => "wakerfritzip".toList
  | .pcMac => "wakerpcmac".toList

/-- The field a key names in any letter case. -/
def wakerField? (key : List Char) : Option WakerField :=
  let lowercase := Text.toAsciiLowercase key
  if lowercase = WakerField.fritzIp.key then
    some .fritzIp
  else if lowercase = WakerField.pcMac.key then
    some .pcMac
  else
    none

/-- The settings after an assignment. -/
def WakerFileSettings.assign
    (settings : WakerFileSettings)
    (value : List Char) : WakerField → WakerFileSettings
  | .fritzIp => { settings with fritzIp := some value }
  | .pcMac => { settings with pcMac := some value }

/-- One iteration of the line loop. -/
def readSettingsLine
    (settings : WakerFileSettings)
    (rawLine : List Char) : WakerFileSettings :=
  match Text.splitOnce '=' (stripLine rawLine) with
  | none => settings
  | some (key, value) =>
      match wakerField? (Text.trim key) with
      | some field => settings.assign (Text.trim value) field
      | none => settings

/-- `parse_waker_file_settings`. -/
def parseWakerFileSettings (config : List Char) : WakerFileSettings :=
  (Text.lines config).foldl readSettingsLine .initial

/-- Whether a line is read as an assignment to one of the settings. -/
def isWakerAssignment (rawLine : List Char) : Bool :=
  match Text.splitOnce '=' (stripLine rawLine) with
  | none => false
  | some (key, _) => (wakerField? (Text.trim key)).isSome

/-- The text without the lines that are Waker assignments. -/
def deleteWakerLines (text : List Char) : List Char :=
  ((Text.splitInclusive '\n' text).filter fun piece =>
    !isWakerAssignment (Text.withoutLineEnd piece)).flatten

/--
Whether the profile parser takes a line as a header, as an assignment to one of
its fields, or as a field to ignore that is no Waker assignment.
-/
def isProfileLine (rawLine : List Char) : ProfileLine → Bool
  | .interface | .peer | .assignment _ _ => true
  | .ignored => !isWakerAssignment rawLine
  | .blank | .malformed => false

/-- The pieces left when the profile lines are deleted. -/
def withoutProfileLines : Section → List (List Char) → List (List Char)
  | _, [] => []
  | current, piece :: rest =>
      let rawLine := Text.withoutLineEnd piece
      let line := classify current rawLine
      let kept := withoutProfileLines (line.nextSection current) rest
      if isProfileLine rawLine line then kept else piece :: kept

/-- The text without the lines the profile parser has a use for. -/
def deleteProfileLines (text : List Char) : List Char :=
  (withoutProfileLines .none (Text.splitInclusive '\n' text)).flatten

/-- The same result, or errors that differ in the line number only. -/
inductive SameUpToLineNumber {α : Type} :
    Except NetError α → Except NetError α → Prop where
  | same
      (result : Except NetError α) :
      SameUpToLineNumber result result
  | renumbered
      (first second : Nat) :
      SameUpToLineNumber
        (.error (.config s!"invalid WireGuard line {first}"))
        (.error (.config s!"invalid WireGuard line {second}"))

/-- No profile field is called like a setting. -/
theorem wakerField?_key
    (field : ProfileField) :
    wakerField? field.key = none := by
  cases field <;> decide

/-- The profile parser ignores Waker assignments in every section. -/
theorem classify_of_isWakerAssignment
    {rawLine : List Char}
    (assigns : isWakerAssignment rawLine = true)
    (current : Section) :
    classify current rawLine = .ignored := by
  unfold isWakerAssignment at assigns
  split at assigns
  · cases assigns
  · rename_i key value found
    rw [classify_of_splitOnce found]
    cases recognised : field? current (Text.trim key) with
    | none =>
        rfl
    | some field =>
        rw [(field?_eq_some_iff.mp recognised).2, wakerField?_key] at assigns
        cases assigns

/-- Lines that are no Waker assignments leave the settings alone. -/
theorem readSettingsLine_of_not_isWakerAssignment
    {rawLine : List Char}
    (assignsNot : isWakerAssignment rawLine = false)
    (settings : WakerFileSettings) :
    readSettingsLine settings rawLine = settings := by
  unfold isWakerAssignment at assignsNot
  unfold readSettingsLine
  split
  · rfl
  · rename_i key value found
    rw [found] at assignsNot
    cases recognised : wakerField? (Text.trim key) with
    | none =>
        rfl
    | some field =>
        simp [recognised] at assignsNot

/-- Whatever the profile parser has a use for is no Waker assignment. -/
theorem not_isWakerAssignment_of_isProfileLine
    {current : Section}
    {rawLine : List Char}
    (profileLine :
      isProfileLine rawLine (classify current rawLine) = true) :
    isWakerAssignment rawLine = false := by
  by_cases assigns : isWakerAssignment rawLine = true
  · rw [classify_of_isWakerAssignment assigns] at profileLine
    simp [isProfileLine, assigns] at profileLine
  · simpa using assigns

/-- One step on an ignored line goes on with the same draft. -/
theorem parseLine_of_isWakerAssignment
    {rawLine : List Char}
    (assigns : isWakerAssignment rawLine = true)
    (decoder : ProfileDecoder)
    (lineNumber : Nat)
    (draft : ProfileDraft) :
    parseLine decoder lineNumber rawLine draft = .ok draft := by
  rw [parseLine_eq_step, classify_of_isWakerAssignment assigns]
  rfl

/-- The number of a line shows in the error of a malformed line only. -/
theorem parseLine_renumbered
    (decoder : ProfileDecoder)
    (first second : Nat)
    (rawLine : List Char)
    (draft : ProfileDraft) :
    parseLine decoder first rawLine draft =
        parseLine decoder second rawLine draft ∨
      (parseLine decoder first rawLine draft =
          .error (.config s!"invalid WireGuard line {first + 1}") ∧
        parseLine decoder second rawLine draft =
          .error (.config s!"invalid WireGuard line {second + 1}")) := by
  rw [parseLine_eq_step, parseLine_eq_step]
  cases classify draft.inSection rawLine with
  | malformed =>
      exact .inr ⟨rfl, rfl⟩
  | assignment field value =>
      cases field <;> exact .inl rfl
  | _ =>
      exact .inl rfl

/-- The line loop without the Waker assignments. -/
theorem parseLines_filter
    (decoder : ProfileDecoder)
    (rawLines : List (List Char))
    (first second : Nat)
    (draft : ProfileDraft) :
    SameUpToLineNumber
      (parseLines decoder first rawLines draft)
      (parseLines decoder second
        (rawLines.filter fun rawLine => !isWakerAssignment rawLine)
        draft) := by
  induction rawLines generalizing first second draft with
  | nil =>
      exact .same _
  | cons rawLine rest inductionHypothesis =>
      by_cases assigns : isWakerAssignment rawLine = true
      · have skipped :
            parseLines decoder first (rawLine :: rest) draft =
              parseLines decoder (first + 1) rest draft := by
          simp only [parseLines, parseLine_of_isWakerAssignment assigns]
        rw [skipped, List.filter_cons_of_neg (by simp [assigns])]
        exact inductionHypothesis (first + 1) second draft
      · rw [List.filter_cons_of_pos (by simp [assigns])]
        simp only [parseLines]
        rcases parseLine_renumbered decoder first second rawLine draft with
          same | ⟨firstError, secondError⟩
        · rw [same]
          cases parseLine decoder second rawLine draft with
          | error error =>
              exact .same _
          | ok next =>
              exact inductionHypothesis (first + 1) (second + 1) next
        · rw [firstError, secondError]
          exact .renumbered _ _

/-- Deleting Waker assignments leaves the lines that are none. -/
theorem lines_deleteWakerLines
    (text : List Char) :
    Text.lines (deleteWakerLines text) =
      (Text.lines text).filter fun rawLine => !isWakerAssignment rawLine := by
  have whole :=
    (Text.pieces_splitInclusive text).sublist
      (List.filter_sublist (p := fun piece =>
        !isWakerAssignment (Text.withoutLineEnd piece)))
  rw [deleteWakerLines, Text.lines_flatten whole,
    Text.lines_eq_map_splitInclusive text, List.filter_map]
  rfl

/-- The profile does not depend on the Waker assignments. -/
theorem parse_deleteWakerLines
    (decoder : ProfileDecoder)
    (text : List Char) :
    SameUpToLineNumber
      (WireGuardProfile.parse decoder text)
      (WireGuardProfile.parse decoder (deleteWakerLines text)) := by
  unfold WireGuardProfile.parse
  rw [lines_deleteWakerLines]
  have related :=
    parseLines_filter decoder (Text.lines text) 0 0 .initial
  generalize parseLines decoder 0 (Text.lines text) .initial = whole
    at related ⊢
  generalize parseLines decoder 0
    ((Text.lines text).filter fun rawLine => !isWakerAssignment rawLine)
    .initial = kept at related ⊢
  cases related with
  | same =>
      exact .same _
  | renumbered first second =>
      exact .renumbered first second

/-- What is left of the pieces is a sublist of them. -/
theorem withoutProfileLines_sublist
    (current : Section)
    (pieces : List (List Char)) :
    (withoutProfileLines current pieces).Sublist pieces := by
  induction pieces generalizing current with
  | nil =>
      exact .slnil
  | cons piece rest inductionHypothesis =>
      simp only [withoutProfileLines]
      split
      · exact (inductionHypothesis _).cons piece
      · exact (inductionHypothesis _).cons_cons piece

/-- The settings loop without the profile lines. -/
theorem foldl_withoutProfileLines
    (current : Section)
    (pieces : List (List Char))
    (settings : WakerFileSettings) :
    ((withoutProfileLines current pieces).map
        Text.withoutLineEnd).foldl readSettingsLine settings =
      (pieces.map Text.withoutLineEnd).foldl readSettingsLine settings := by
  induction pieces generalizing current settings with
  | nil =>
      rfl
  | cons piece rest inductionHypothesis =>
      simp only [withoutProfileLines]
      split
      · rename_i profileLine
        have assignsNot := not_isWakerAssignment_of_isProfileLine profileLine
        rw [List.map_cons, List.foldl_cons,
          readSettingsLine_of_not_isWakerAssignment assignsNot]
        exact inductionHypothesis _ settings
      · rw [List.map_cons, List.map_cons, List.foldl_cons, List.foldl_cons]
        exact inductionHypothesis _ _

/-- The settings do not depend on the profile lines. -/
theorem parseWakerFileSettings_deleteProfileLines
    (text : List Char) :
    parseWakerFileSettings (deleteProfileLines text) =
      parseWakerFileSettings text := by
  have whole :=
    (Text.pieces_splitInclusive text).sublist
      (withoutProfileLines_sublist .none _)
  unfold parseWakerFileSettings
  rw [deleteProfileLines, Text.lines_flatten whole,
    Text.lines_eq_map_splitInclusive text]
  exact foldl_withoutProfileLines .none _ .initial

/-- Neither reader depends on the lines of the other. -/
theorem readers_independent
    (decoder : ProfileDecoder)
    (text : List Char) :
    SameUpToLineNumber
        (WireGuardProfile.parse decoder text)
        (WireGuardProfile.parse decoder (deleteWakerLines text)) ∧
      parseWakerFileSettings (deleteProfileLines text) =
        parseWakerFileSettings text :=
  ⟨parse_deleteWakerLines decoder text,
    parseWakerFileSettings_deleteProfileLines text⟩

end Waker
