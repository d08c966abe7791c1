import Mathlib.Logic.Function.Basic
import Waker.Utf16Offsets

namespace Waker

/-!
# Text input on Android

The settings fields, what egui keeps for them, and the adapter that keeps
GameTextInput in step with the focused field.  A frame says what egui does to
the focused field by itself; without input egui keeps text and cursor.
-/

/-- The editable settings fields. -/
inductive AndroidTextField where
  | configPath
  | fritzIp
  | pcMac
  deriving Repr, DecidableEq

/-- A range of egui's cursor, in characters. -/
structure CCursorRange where
  primary : Nat
  secondary : Nat
  deriving Repr, DecidableEq

/-- What egui makes of the ends of a selection. -/
class EguiCursor where
  /-- `CCursorRange::two`. -/
  two (min max : Nat) : CCursorRange

/-- egui puts the cursor at the second end of a selection. -/
class LawfulEguiCursor [EguiCursor] : Prop where
  primary_two (min max : Nat) : (EguiCursor.two min max).primary = max
  secondary_two (min max : Nat) : (EguiCursor.two min max).secondary = min

/-- The cursor as egui keeps it. -/
@[reducible] def EguiCursor.endFirst : EguiCursor where
  two min max := ⟨max, min⟩

/-- The cursor as egui keeps it is at the second end. -/
theorem EguiCursor.lawful_endFirst : @LawfulEguiCursor endFirst :=
  @LawfulEguiCursor.mk endFirst (fun _ _ => rfl) (fun _ _ => rfl)

/-- The text and the selection Android reports, in UTF-16 units. -/
structure TextInputState where
  text : List Char
  selection : Nat × Nat
  composeRegion : Option (Nat × Nat)
  deriving Repr, DecidableEq

/-- The focused field as the adapter sees it, in characters. -/
structure AndroidTextInputSnapshot where
  field : AndroidTextField
  text : List Char
  selectionStart : Nat
  selectionEnd : Nat
  clicked : Bool
  deriving Repr, DecidableEq

/-- What the adapter asks GameActivity for. -/
inductive ImeCall where
  | setTextInputState (state : TextInputState)
  | setImeEditorInfo
  | showSoftInput (implicit : Bool)
  | hideSoftInput
  deriving Repr, DecidableEq

/-- The state last published to Android or accepted from it. -/
structure AndroidIme where
  field : Option AndroidTextField
  text : Option (List Char)
  selection : Option (Nat × Nat)
  composeRegion : Option (Nat × Nat)
  deriving Repr, DecidableEq

namespace AndroidIme

/-- The selection of a snapshot in UTF-16 units. -/
def snapshotSelection (snapshot : AndroidTextInputSnapshot) : Nat × Nat :=
  (charIndexToUtf16 snapshot.text snapshot.selectionStart,
    charIndexToUtf16 snapshot.text snapshot.selectionEnd)

/-- The snapshot is of another field than the last one. -/
def changedField
    (ime : AndroidIme)
    (snapshot : AndroidTextInputSnapshot) : Bool :=
  ime.field != some snapshot.field

/-- The snapshot differs from the state last published or accepted. -/
def changedState
    (ime : AndroidIme)
    (snapshot : AndroidTextInputSnapshot) : Bool :=
  ime.changedField snapshot ||
    ime.text != some snapshot.text ||
    ime.selection != some (snapshotSelection snapshot)

/-- Keep Android in step with the focused field. -/
def update
    (ime : AndroidIme)
    (snapshot : Option AndroidTextInputSnapshot)
    (userTapped : Bool) : AndroidIme × List ImeCall :=
  match snapshot with
  | none =>
      if userTapped && ime.field.isSome then
        (⟨none, none, none, none⟩, [.hideSoftInput])
      else
        (ime, [])
  | some snapshot =>
      let published : AndroidIme × List ImeCall :=
        if ime.changedState snapshot then
          ({ ime with
              composeRegion := none
              text := some snapshot.text
              selection := some (snapshotSelection snapshot) },
            [.setTextInputState
              ⟨snapshot.text, snapshotSelection snapshot, none⟩])
        else
          (ime, [])
      let shown : List ImeCall :=
        if ime.changedField snapshot then
          [.setImeEditorInfo, .showSoftInput true]
        else if snapshot.clicked then
          [.showSoftInput false]
        else
          []
      ({ published.1 with field := some snapshot.field },
        published.2 ++ shown)

/-- The calls of an update hand a state to Android. -/
def publishes (calls : List ImeCall) : Bool :=
  calls.any fun call => call matches .setTextInputState _

/-- Take what Android reports as the state to compare with. -/
def acceptTextState
    (ime : AndroidIme)
    (state : TextInputState) : AndroidIme :=
  { ime with
    text := some state.text
    selection := some state.selection
    composeRegion := state.composeRegion }

/-- Without a focused field no state is handed to Android. -/
theorem publishes_update_none
    (ime : AndroidIme)
    (userTapped : Bool) :
    publishes (ime.update none userTapped).2 = false := by
  rw [update]
  split <;> rfl

/-- A state is handed to Android exactly when it differs from the last one. -/
theorem publishes_update_some
    (ime : AndroidIme)
    (snapshot : AndroidTextInputSnapshot)
    (userTapped : Bool) :
    publishes (ime.update (some snapshot) userTapped).2 =
      ime.changedState snapshot := by
  cases changed : ime.changedState snapshot <;>
    cases moved : ime.changedField snapshot <;>
      cases clicked : snapshot.clicked <;>
        simp [update, publishes, changed, moved, clicked]

/-- A state that is handed to Android is the one to compare with. -/
theorem update_of_changedState
    {ime : AndroidIme}
    {snapshot : AndroidTextInputSnapshot}
    (changed : ime.changedState snapshot = true)
    (userTapped : Bool) :
    (ime.update (some snapshot) userTapped).1 =
      ⟨some snapshot.field, some snapshot.text,
        some (snapshotSelection snapshot), none⟩ := by
  simp [update, changed]

/-- A state that is not handed to Android changes nothing. -/
theorem update_of_not_changedState
    {ime : AndroidIme}
    {snapshot : AndroidTextInputSnapshot}
    (unchanged : ime.changedState snapshot = false)
    (userTapped : Bool) :
    (ime.update (some snapshot) userTapped).1 = ime := by
  have sameField : ime.field = some snapshot.field := by
    simp only [changedState, changedField, Bool.or_eq_false_iff,
      bne_eq_false_iff_eq] at unchanged
    exact unchanged.1.1
  simp [update, unchanged, ← sameField]

end AndroidIme

/-- The part of the application that text input reads and writes. -/
structure TextInputApp where
  texts : AndroidTextField → List Char
  androidTextInput : Option AndroidTextInputSnapshot
  selectionOverride : Option (AndroidTextField × Nat × Nat)

/-- What egui keeps for each text field. -/
abbrev StoredCursors := AndroidTextField → Option CCursorRange

/-- What showing a text field gives. -/
structure TextEditOutput where
  hasFocus : Bool
  clicked : Bool
  cursorRange : Option CCursorRange

namespace TextInputApp

variable [EguiCursor]

/-- Store the override of a field and note the field if it has the focus. -/
def captureAndroidTextEdit
    (field : AndroidTextField)
    (output : TextEditOutput)
    (app : TextInputApp)
    (cursors : StoredCursors) : TextInputApp × StoredCursors :=
  let (range, selectionOverride, cursors) :=
    match app.selectionOverride with
    | some (overrideField, start, stop) =>
        if overrideField = field then
          let range := EguiCursor.two start stop
          (some range, none, Function.update cursors field (some range))
        else
          (output.cursorRange, app.selectionOverride, cursors)
    | none => (output.cursorRange, none, cursors)
  let app := { app with selectionOverride := selectionOverride }
  if output.hasFocus then
    let text := app.texts field
    let selection : Nat × Nat :=
      match range with
      | some range => (range.primary, range.secondary)
      | none => (text.length, text.length)
    ({ app with
        androidTextInput :=
          some ⟨field, text, selection.1, selection.2, output.clicked⟩ },
      cursors)
  else
    (app, cursors)

/-- Replace the text of the focused field and ask for the selection. -/
def applyAndroidTextInputState
    (app : TextInputApp)
    (text : List Char)
    (selectionStart selectionEnd : Nat) : TextInputApp :=
  match app.androidTextInput with
  | none => app
  | some snapshot =>
      { app with
        texts := Function.update app.texts snapshot.field text
        selectionOverride :=
          some (snapshot.field, selectionStart, selectionEnd) }

/-- The override that a field still has to store. -/
def pendingRange
    (app : TextInputApp)
    (field : AndroidTextField) : Option CCursorRange :=
  match app.selectionOverride with
  | some (overrideField, start, stop) =>
      if overrideField = field then some (EguiCursor.two start stop) else none
  | none => none

/-- The cursor of a field once it has stored its override. -/
def cursorRange
    (app : TextInputApp)
    (cursors : StoredCursors)
    (field : AndroidTextField) : Option CCursorRange :=
  (app.pendingRange field).or (cursors field)

variable {field other : AndroidTextField}
variable {app : TextInputApp}
variable {cursors : StoredCursors}

/-- Capturing a field leaves the others alone. -/
theorem captureAndroidTextEdit_other
    (different : field ≠ other)
    (output : TextEditOutput) :
    let after := app.captureAndroidTextEdit field output cursors
    after.1.pendingRange other = app.pendingRange other ∧
      after.2 other = cursors other := by
  cases override : app.selectionOverride with
  | none =>
      cases focused : output.hasFocus <;>
        simp [captureAndroidTextEdit, pendingRange, override, focused]
  | some pending =>
      obtain ⟨overrideField, start, stop⟩ := pending
      by_cases same : overrideField = field
      · cases focused : output.hasFocus <;>
          simp [captureAndroidTextEdit, pendingRange, override, focused, same,
            different, different.symm]
      · cases focused : output.hasFocus <;>
          simp [captureAndroidTextEdit, pendingRange, override, focused, same]

/-- Capturing changes no text. -/
@[simp] theorem texts_captureAndroidTextEdit
    (output : TextEditOutput) :
    (app.captureAndroidTextEdit field output cursors).1.texts =
      app.texts := by
  unfold captureAndroidTextEdit
  dsimp only
  split <;> rfl

/-- Capturing a field without the focus notes nothing. -/
theorem androidTextInput_captureAndroidTextEdit
    {output : TextEditOutput}
    (unfocused : output.hasFocus = false) :
    (app.captureAndroidTextEdit field output cursors).1.androidTextInput =
      app.androidTextInput := by
  simp [captureAndroidTextEdit, unfocused]

/-- Capturing the focused field stores its override and notes its state. -/
theorem captureAndroidTextEdit_focused
    {range : CCursorRange}
    (stored : cursors field = some range)
    (clicked : Bool) :
    let after :=
      app.captureAndroidTextEdit field ⟨true, clicked, some range⟩ cursors
    let kept := (app.pendingRange field).getD range
    after.1.androidTextInput =
        some ⟨field, app.texts field, kept.primary, kept.secondary,
          clicked⟩ ∧
      after.1.pendingRange field = none ∧
      after.2 field = some kept := by
  cases override : app.selectionOverride with
  | none =>
      simp [captureAndroidTextEdit, pendingRange, override, stored]
  | some pending =>
      obtain ⟨overrideField, start, stop⟩ := pending
      by_cases same : overrideField = field <;>
        simp [captureAndroidTextEdit, pendingRange, override, same, stored]

end TextInputApp

/-- What egui does in a frame, and whether the frame is painted. -/
structure ImeFrame where
  focused : Option AndroidTextField
  edit : Option (List Char × CCursorRange)
  clicked : Bool
  settingsOpen : Bool
  userTapped : Bool
  painted : Bool
  deriving Repr, DecidableEq

namespace ImeFrame

variable [EguiCursor]

/-- The text and the cursor egui leaves in the focused field. -/
def shown
    (frame : ImeFrame)
    (field : AndroidTextField)
    (app : TextInputApp)
    (cursors : StoredCursors) : List Char × CCursorRange :=
  match frame.edit with
  | some edited => edited
  | none =>
      let text := app.texts field
      (text, (cursors field).getD ⟨text.length, text.length⟩)

/-- Show a text field and capture its state. -/
def showField
    (frame : ImeFrame)
    (state : TextInputApp × StoredCursors)
    (field : AndroidTextField) : TextInputApp × StoredCursors :=
  let (app, cursors) := state
  if frame.focused = some field then
    let (text, range) := frame.shown field app cursors
    { app with texts := Function.update app.texts field text
      }.captureAndroidTextEdit field ⟨true, frame.clicked, some range⟩
        (Function.update cursors field (some range))
  else
    app.captureAndroidTextEdit field ⟨false, false, none⟩ cursors

/-- Show the settings fields, if the settings are open. -/
def renderSettings
    (frame : ImeFrame)
    (app : TextInputApp)
    (cursors : StoredCursors) : TextInputApp × StoredCursors :=
  let app := { app with androidTextInput := none }
  if frame.settingsOpen then
    [.configPath, .fritzIp, .pcMac].foldl frame.showField (app, cursors)
  else
    (app, cursors)

/-- The field that has the focus and is shown. -/
def shownFocus (frame : ImeFrame) : Option AndroidTextField :=
  if frame.settingsOpen then frame.focused else none

/-- What egui gives the adapter to read: the cursor after any override. -/
def captured
    (frame : ImeFrame)
    (field : AndroidTextField)
    (app : TextInputApp)
    (cursors : StoredCursors) : List Char × CCursorRange :=
  let (text, range) := frame.shown field app cursors
  (text, (app.pendingRange field).getD range)

variable {frame : ImeFrame}
variable {field other : AndroidTextField}

/-- Neither the focused field nor what is noted of it has changed. -/
structure Untouched
    (field : AndroidTextField)
    (before after : TextInputApp × StoredCursors) : Prop where
  texts : after.1.texts = before.1.texts
  pendingRange : after.1.pendingRange field = before.1.pendingRange field
  cursor : after.2 field = before.2 field
  androidTextInput : after.1.androidTextInput = before.1.androidTextInput

/-- Showing another field leaves the focused one alone. -/
theorem untouched_showField
    (focused : frame.focused = some field)
    (different : other ≠ field)
    (state : TextInputApp × StoredCursors) :
    Untouched field state (frame.showField state other) := by
  obtain ⟨app, cursors⟩ := state
  have unfocused : frame.focused ≠ some other := by
    rw [focused]
    exact fun same => different (Option.some.inj same).symm
  obtain ⟨pending, cursor⟩ :=
    @TextInputApp.captureAndroidTextEdit_other _ other field app cursors
      different ⟨false, false, none⟩
  simp only [showField, if_neg unfocused]
  exact {
    texts := TextInputApp.texts_captureAndroidTextEdit _
    pendingRange := pending
    cursor := cursor
    androidTextInput :=
      TextInputApp.androidTextInput_captureAndroidTextEdit rfl
  }

/-- Showing other fields leaves the focused one alone. -/
theorem untouched_foldl_showField
    (focused : frame.focused = some field)
    {fields : List AndroidTextField}
    (absent : field ∉ fields)
    (state : TextInputApp × StoredCursors) :
    Untouched field state (fields.foldl frame.showField state) := by
  induction fields generalizing state with
  | nil =>
      exact ⟨rfl, rfl, rfl, rfl⟩
  | cons first rest inductionHypothesis =>
      rw [List.mem_cons, not_or] at absent
      have shown := untouched_showField focused (Ne.symm absent.1) state
      have later :=
        inductionHypothesis absent.2 (frame.showField state first)
      exact {
        texts := later.texts.trans shown.texts
        pendingRange := later.pendingRange.trans shown.pendingRange
        cursor := later.cursor.trans shown.cursor
        androidTextInput :=
          later.androidTextInput.trans shown.androidTextInput
      }

/-- The focused field keeps what was captured of it. -/
structure Captured
    (field : AndroidTextField)
    (clicked : Bool)
    (text : List Char)
    (range : CCursorRange)
    (after : TextInputApp × StoredCursors) : Prop where
  texts : after.1.texts field = text
  cursorRange : after.1.cursorRange after.2 field = some range
  androidTextInput :
    after.1.androidTextInput =
      some ⟨field, text, range.primary, range.secondary, clicked⟩

/-- Showing the focused field captures it. -/
theorem captured_showField
    (focused : frame.focused = some field)
    (state : TextInputApp × StoredCursors) :
    Captured field frame.clicked
      (frame.captured field state.1 state.2).1
      (frame.captured field state.1 state.2).2
      (frame.showField state field) := by
  obtain ⟨app, cursors⟩ := state
  cases shape : frame.shown field app cursors with
  | mk text range =>
      obtain ⟨noted, stored, cursor⟩ :=
        @TextInputApp.captureAndroidTextEdit_focused _ field
          { app with texts := Function.update app.texts field text }
          (Function.update cursors field (some range)) range
          (Function.update_self ..) frame.clicked
      simp only [showField, if_pos focused, captured, shape]
      constructor
      · rw [TextInputApp.texts_captureAndroidTextEdit]
        exact Function.update_self ..
      · rw [TextInputApp.cursorRange, stored, cursor]
        rfl
      · rw [noted]
        simp only [Function.update_self]
        rfl

/-- A frame captures the focused field as it was before the frame. -/
theorem captured_renderSettings
    (focused : frame.shownFocus = some field)
    (app : TextInputApp)
    (cursors : StoredCursors) :
    Captured field frame.clicked
      (frame.captured field app cursors).1
      (frame.captured field app cursors).2
      (frame.renderSettings app cursors) := by
  have isOpen : frame.settingsOpen = true := by
    by_contra closed
    simp [shownFocus, closed] at focused
  have hasFocus : frame.focused = some field := by
    rwa [shownFocus, if_pos isOpen] at focused
  obtain ⟨earlier, later, fields, notEarlier, notLater⟩ :
      ∃ earlier later,
        [.configPath, .fritzIp, .pcMac] = earlier ++ field :: later ∧
          field ∉ earlier ∧ field ∉ later := by
    cases field with
    | configPath =>
        exact ⟨[], _, rfl, by decide, by decide⟩
    | fritzIp =>
        exact ⟨[.configPath], _, rfl, by decide, by decide⟩
    | pcMac =>
        exact ⟨[.configPath, .fritzIp], _, rfl, by decide, by decide⟩
  let start : TextInputApp × StoredCursors :=
    ({ app with androidTextInput := none }, cursors)
  have before := untouched_foldl_showField hasFocus notEarlier start
  have shown :=
    captured_showField hasFocus (earlier.foldl frame.showField start)
  have after :=
    untouched_foldl_showField hasFocus notLater
      (frame.showField (earlier.foldl frame.showField start) field)
  have same :
      frame.captured field (earlier.foldl frame.showField start).1
          (earlier.foldl frame.showField start).2 =
        frame.captured field app cursors := by
    simp only [captured, ImeFrame.shown, before.texts, before.cursor,
      before.pendingRange]
    rfl
  rw [same] at shown
  simp only [renderSettings, if_pos isOpen, fields, List.foldl_append,
    List.foldl_cons]
  exact {
    texts := by
      rw [after.texts]
      exact shown.texts
    cursorRange := by
      rw [TextInputApp.cursorRange, after.pendingRange, after.cursor]
      exact shown.cursorRange
    androidTextInput := after.androidTextInput.trans shown.androidTextInput
  }

/-- A frame without a focused field captures none. -/
theorem androidTextInput_renderSettings
    (unfocused : frame.shownFocus = none)
    (app : TextInputApp)
    (cursors : StoredCursors) :
    (frame.renderSettings app cursors).1.androidTextInput = none := by
  have keeps
      {state : TextInputApp × StoredCursors}
      (nothing : state.1.androidTextInput = none)
      (shown : AndroidTextField)
      (other : frame.focused ≠ some shown) :
      (frame.showField state shown).1.androidTextInput = none := by
    simp only [showField, if_neg other]
    rw [TextInputApp.androidTextInput_captureAndroidTextEdit rfl]
    exact nothing
  by_cases isOpen : frame.settingsOpen = true
  · have nowhere (shown : AndroidTextField) : frame.focused ≠ some shown := by
      rw [shownFocus, if_pos isOpen] at unfocused
      simp [unfocused]
    simp only [renderSettings, if_pos isOpen, List.foldl_cons,
      List.foldl_nil]
    exact keeps (keeps (keeps rfl _ (nowhere _)) _ (nowhere _)) _ (nowhere _)
  · simp [renderSettings, isOpen]

end ImeFrame

end Waker
