import Waker.AndroidIme
import Waker.StepSystem

namespace Waker

/-!
# Texts from Android are not echoed

The adapter compares the focused field with the state last published to Android
or accepted from it.  Android reports the start and the end of a selection,
egui keeps the start as the secondary and the end as the primary cursor, and the
comparison reads the primary cursor first.  A selection that is not empty comes
back reversed, so it is published once although nothing has changed.
-/

/-- A text state whose selection lies on boundaries of its text. -/
structure TextEvent extends TextInputState where
  startOnBoundary : OnBoundary text selection.1
  endOnBoundary : OnBoundary text selection.2

/-- Egui itself changes the text or the cursor of the focused field. -/
def ImeFrame.eguiChanges
    [EguiCursor]
    (frame : ImeFrame)
    (app : TextInputApp)
    (cursors : StoredCursors) : Bool :=
  match frame.shownFocus with
  | none => false
  | some field =>
      let (text, range) := frame.captured field app cursors
      frame.edit.isSome &&
        (text != app.texts field || app.cursorRange cursors field != some range)

/--
The application, egui, and the adapter, and what has happened since a state was
last published or accepted: whether the focus has moved or egui has changed the
field, which selection was accepted, and whether the last step published a state
without such a change.
-/
structure TextInputAdapter where
  app : TextInputApp
  cursors : StoredCursors
  ime : AndroidIme
  changed : Bool
  accepted : Option (Nat × Nat)
  echoed : Bool

/-- A step of the adapter. -/
inductive TextInputStep where
  | textEvent (event : TextEvent)
  | frame (frame : ImeFrame)

namespace TextInputAdapter

variable [EguiCursor]

/-- Nothing has been published or accepted. -/
def initial
    (texts : AndroidTextField → List Char)
    (cursors : StoredCursors) : TextInputAdapter where
  app := ⟨texts, none, none⟩
  cursors := cursors
  ime := ⟨none, none, none, none⟩
  changed := false
  accepted := none
  echoed := false

/-- Accept a text state from Android. -/
def accept
    (adapter : TextInputAdapter)
    (event : TextEvent) : TextInputAdapter where
  app :=
    adapter.app.applyAndroidTextInputState event.text
      (utf16IndexToChar event.text event.selection.1)
      (utf16IndexToChar event.text event.selection.2)
  cursors := adapter.cursors
  ime := adapter.ime.acceptTextState event.toTextInputState
  changed := false
  accepted := some event.selection
  echoed := false

/-- After the frame, the focus has moved or egui has changed the field. -/
def changedBy
    (adapter : TextInputAdapter)
    (frame : ImeFrame) : Bool :=
  adapter.changed ||
    frame.shownFocus != adapter.app.androidTextInput.map (·.field) ||
    frame.eguiChanges adapter.app adapter.cursors

/-- Run a frame; unless painting fails, keep Android in step with it. -/
def runFrame
    (adapter : TextInputAdapter)
    (frame : ImeFrame) : TextInputAdapter :=
  let changed := adapter.changedBy frame
  let (app, cursors) := frame.renderSettings adapter.app adapter.cursors
  if frame.painted then
    let (ime, calls) :=
      adapter.ime.update app.androidTextInput frame.userTapped
    if AndroidIme.publishes calls then
      ⟨app, cursors, ime, false, none,
        adapter.ime.field == frame.shownFocus && !changed⟩
    else
      ⟨app, cursors, ime, changed, adapter.accepted, false⟩
  else
    ⟨app, cursors, adapter.ime, changed, adapter.accepted, false⟩

/-- Take a step. -/
def step? (adapter : TextInputAdapter) : TextInputStep → Option TextInputAdapter
  | .textEvent event => some (adapter.accept event)
  | .frame frame => some (adapter.runFrame frame)

/-- The last step published no state without a change. -/
def NoEcho (adapter : TextInputAdapter) : Prop :=
  adapter.echoed = false

/--
A painted frame of the field that is still focused and has not changed comes
only when the selection last accepted is empty.
-/
def SelectionEmpty (adapter : TextInputAdapter) : TextInputStep → Prop
  | .textEvent _ => True
  | .frame frame =>
      ∀ field start stop,
        frame.painted = true →
        frame.shownFocus = some field →
        adapter.ime.field = some field →
        adapter.changedBy frame = false →
        adapter.accepted = some (start, stop) →
        start = stop

/-- The offsets of a cursor as the adapter compares them. -/
def offsets (text : List Char) (range : CCursorRange) : Nat × Nat :=
  (charIndexToUtf16 text range.primary, charIndexToUtf16 text range.secondary)

/-- The adapter knows the text and the cursor of a field. -/
structure Synced
    (adapter : TextInputAdapter)
    (field : AndroidTextField)
    (range : CCursorRange) : Prop where
  text : adapter.ime.text = some (adapter.app.texts field)
  cursorRange : adapter.app.cursorRange adapter.cursors field = some range
  published :
    adapter.accepted = none →
    adapter.ime.selection = some (offsets (adapter.app.texts field) range)
  accepted :
    ∀ selection,
      adapter.accepted = some selection →
      adapter.ime.selection = some selection ∧
        offsets (adapter.app.texts field) range = selection.swap

/-- The adapter knows the focused field unless it has changed since. -/
def InSync (adapter : TextInputAdapter) : Prop :=
  ∀ field,
    adapter.changed = false →
    adapter.app.androidTextInput.map (·.field) = some field →
    adapter.ime.field = some field →
    ∃ range, adapter.Synced field range

end TextInputAdapter

/-- What is captured of a field that egui leaves alone. -/
theorem ImeFrame.captured_eq
    [EguiCursor]
    {frame : ImeFrame}
    {field : AndroidTextField}
    {app : TextInputApp}
    {cursors : StoredCursors}
    {range : CCursorRange}
    (focused : frame.shownFocus = some field)
    (unchanged : frame.eguiChanges app cursors = false)
    (known : app.cursorRange cursors field = some range) :
    frame.captured field app cursors = (app.texts field, range) := by
  cases edited : frame.edit with
  | some edit =>
      simp only [eguiChanges, focused, edited, Option.isSome_some,
        Bool.true_and, Bool.or_eq_false_iff, bne_eq_false_iff_eq, known,
        Option.some.injEq] at unchanged
      exact Prod.ext unchanged.1 unchanged.2.symm
  | none =>
      simp only [captured, shown, edited]
      unfold TextInputApp.cursorRange at known
      cases pending : app.pendingRange field with
      | some stored =>
          simpa [pending] using known
      | none =>
          simp only [pending, Option.none_or] at known
          simp [known]

namespace TextInputAdapter

variable [EguiCursor]
variable {adapter : TextInputAdapter}
variable {field : AndroidTextField}

/-- An accepted text leaves the adapter in step with the focused field. -/
theorem inSync_accept
    [LawfulEguiCursor]
    (event : TextEvent) :
    (adapter.accept event).InSync := by
  intro field _ noted _
  cases snapshot : adapter.app.androidTextInput with
  | none =>
      simp [accept, TextInputApp.applyAndroidTextInputState, snapshot] at noted
  | some shown =>
      have same : shown.field = field := by
        simpa [accept, TextInputApp.applyAndroidTextInputState, snapshot]
          using noted
      have start := charIndexToUtf16_utf16IndexToChar event.startOnBoundary
      have stop := charIndexToUtf16_utf16IndexToChar event.endOnBoundary
      refine ⟨EguiCursor.two
        (utf16IndexToChar event.text event.selection.1)
        (utf16IndexToChar event.text event.selection.2), ?_, ?_, ?_, ?_⟩
      · simp [accept, TextInputApp.applyAndroidTextInputState, snapshot, same,
          AndroidIme.acceptTextState]
      · simp [accept, TextInputApp.applyAndroidTextInputState, snapshot, same,
          TextInputApp.cursorRange, TextInputApp.pendingRange]
      · intro none
        cases none
      · intro selection accepted
        cases accepted
        refine ⟨rfl, ?_⟩
        simp only [accept, TextInputApp.applyAndroidTextInputState, snapshot,
          same, Function.update_self, offsets,
          LawfulEguiCursor.primary_two, LawfulEguiCursor.secondary_two, start,
          stop]
        rfl

/-- What holds before a frame of the field that has not changed. -/
theorem quiet_of_changedBy
    {frame : ImeFrame}
    (quiet : adapter.changedBy frame = false) :
    adapter.changed = false ∧
      frame.shownFocus = adapter.app.androidTextInput.map (·.field) ∧
      frame.eguiChanges adapter.app adapter.cursors = false := by
  simp only [changedBy, Bool.or_eq_false_iff, bne_eq_false_iff_eq] at quiet
  exact ⟨quiet.1.1, quiet.1.2, quiet.2⟩

/-- A frame of the field that has not changed captures what is known of it. -/
theorem captured_of_quiet
    {frame : ImeFrame}
    (inSync : adapter.InSync)
    (focused : frame.shownFocus = some field)
    (sameField : adapter.ime.field = some field)
    (quiet : adapter.changedBy frame = false) :
    ∃ range,
      adapter.Synced field range ∧
        ImeFrame.Captured field frame.clicked (adapter.app.texts field) range
          (frame.renderSettings adapter.app adapter.cursors) := by
  obtain ⟨unchanged, noted, left⟩ := quiet_of_changedBy quiet
  rw [focused] at noted
  obtain ⟨range, synced⟩ := inSync field unchanged noted.symm sameField
  have captured :=
    ImeFrame.captured_renderSettings focused adapter.app adapter.cursors
  rw [ImeFrame.captured_eq focused left synced.cursorRange] at captured
  exact ⟨range, synced, captured⟩

/-- What is known of a field is published when its selection is reversed. -/
theorem Synced.changedState_iff
    {range : CCursorRange}
    (synced : adapter.Synced field range)
    (sameField : adapter.ime.field = some field)
    (clicked : Bool) :
    adapter.ime.changedState
        ⟨field, adapter.app.texts field, range.primary, range.secondary,
          clicked⟩ = true ↔
      ∃ start stop, adapter.accepted = some (start, stop) ∧ start ≠ stop := by
  have compared :
      adapter.ime.changedState
          ⟨field, adapter.app.texts field, range.primary, range.secondary,
            clicked⟩ = true ↔
        adapter.ime.selection ≠
          some (offsets (adapter.app.texts field) range) := by
    simp [AndroidIme.changedState, AndroidIme.changedField, sameField,
      synced.text, AndroidIme.snapshotSelection, offsets]
  rw [compared]
  cases accepted : adapter.accepted with
  | none =>
      simp [synced.published accepted]
  | some selection =>
      obtain ⟨start, stop⟩ := selection
      obtain ⟨known, reversed⟩ := synced.accepted (start, stop) accepted
      rw [known, reversed]
      constructor
      · intro different
        refine ⟨start, stop, rfl, ?_⟩
        rintro rfl
        exact different rfl
      · rintro ⟨_, _, same, different⟩ equal
        cases same
        exact different (congrArg Prod.fst (Option.some.inj equal))

/-- A frame without a focused field keeps nothing to compare. -/
theorem runFrame_unfocused
    {frame : ImeFrame}
    (unfocused : frame.shownFocus = none) :
    (adapter.runFrame frame).app.androidTextInput = none ∧
      (adapter.runFrame frame).echoed = false := by
  have nothing :=
    ImeFrame.androidTextInput_renderSettings unfocused adapter.app
      adapter.cursors
  simp only [runFrame, nothing, AndroidIme.publishes_update_none]
  split <;> exact ⟨nothing, rfl⟩

/-- A frame of a focused field publishes it when it must. -/
theorem runFrame_focused
    {frame : ImeFrame}
    {text : List Char}
    {range : CCursorRange}
    (captured :
      ImeFrame.Captured field frame.clicked text range
        (frame.renderSettings adapter.app adapter.cursors)) :
    adapter.runFrame frame =
      if frame.painted = true ∧
          adapter.ime.changedState
            ⟨field, text, range.primary, range.secondary, frame.clicked⟩ =
              true then
        ⟨(frame.renderSettings adapter.app adapter.cursors).1,
          (frame.renderSettings adapter.app adapter.cursors).2,
          ⟨some field, some text, some (offsets text range), none⟩, false,
          none, adapter.ime.field == frame.shownFocus &&
            !adapter.changedBy frame⟩
      else
        ⟨(frame.renderSettings adapter.app adapter.cursors).1,
          (frame.renderSettings adapter.app adapter.cursors).2,
          adapter.ime, adapter.changedBy frame, adapter.accepted, false⟩ := by
  cases painted : frame.painted with
  | false =>
      simp [runFrame, painted]
  | true =>
      simp only [runFrame, painted, captured.androidTextInput,
        AndroidIme.publishes_update_some]
      cases changed :
          adapter.ime.changedState
            ⟨field, text, range.primary, range.secondary, frame.clicked⟩ with
      | false =>
          simp [AndroidIme.update_of_not_changedState changed]
      | true =>
          simp [AndroidIme.update_of_changedState changed,
            AndroidIme.snapshotSelection, offsets]

/-- A frame leaves the adapter in step with the focused field. -/
theorem InSync.runFrame
    (inSync : adapter.InSync)
    (frame : ImeFrame) :
    (adapter.runFrame frame).InSync := by
  intro field unchanged noted sameField
  cases focused : frame.shownFocus with
  | none =>
      have nothing := (@runFrame_unfocused _ adapter frame focused).1
      simp [nothing] at noted
  | some shown =>
      have captured :=
        ImeFrame.captured_renderSettings focused adapter.app adapter.cursors
      have next := runFrame_focused captured
      split at next
      · rw [next] at sameField ⊢
        obtain rfl := Option.some.inj sameField
        refine ⟨(frame.captured shown adapter.app adapter.cursors).2,
          ?_, captured.cursorRange, ?_, ?_⟩
        · exact congrArg some captured.texts.symm
        · intro _
          rw [captured.texts]
        · intro selection accepted
          cases accepted
      · rw [next] at unchanged noted sameField ⊢
        dsimp only at noted
        rw [captured.androidTextInput] at noted
        obtain rfl := Option.some.inj noted
        obtain ⟨range, synced, same⟩ :=
          captured_of_quiet inSync focused sameField unchanged
        refine ⟨range, ?_, same.cursorRange, ?_, ?_⟩
        · rw [same.texts]
          exact synced.text
        · rw [same.texts]
          exact synced.published
        · rw [same.texts]
          exact synced.accepted

/-- A step leaves the adapter in step with the focused field. -/
theorem InSync.step
    [LawfulEguiCursor]
    {next : TextInputAdapter}
    {label : TextInputStep}
    (inSync : adapter.InSync)
    (stepped : adapter.step? label = some next) :
    next.InSync := by
  cases label with
  | textEvent event =>
      cases stepped
      exact inSync_accept event
  | frame frame =>
      cases stepped
      exact inSync.runFrame frame

/-- A frame echoes when it finds a reversed selection in the field. -/
theorem noEcho_runFrame_iff
    (inSync : adapter.InSync)
    (frame : ImeFrame) :
    (adapter.runFrame frame).NoEcho ↔
      adapter.SelectionEmpty (.frame frame) := by
  constructor
  · intro noEcho field start stop painted focused sameField quiet accepted
    obtain ⟨range, synced, captured⟩ :=
      captured_of_quiet inSync focused sameField quiet
    by_contra different
    have changed :=
      (synced.changedState_iff sameField frame.clicked).mpr
        ⟨start, stop, accepted, different⟩
    have next := runFrame_focused captured
    rw [if_pos ⟨painted, changed⟩] at next
    rw [NoEcho, next] at noEcho
    simp [sameField, focused, quiet] at noEcho
  · intro empty
    cases focused : frame.shownFocus with
    | none =>
        exact (runFrame_unfocused focused).2
    | some shown =>
        have captured :=
          ImeFrame.captured_renderSettings focused adapter.app
            adapter.cursors
        have next := runFrame_focused captured
        split at next
        · rename_i published
          rw [NoEcho, next]
          by_contra echoed
          obtain ⟨sameField, quiet⟩ :
              adapter.ime.field = some shown ∧
                adapter.changedBy frame = false := by
            simpa [focused] using echoed
          obtain ⟨range, synced, same⟩ :=
            captured_of_quiet inSync focused sameField quiet
          have snapshot :=
            captured.androidTextInput.symm.trans same.androidTextInput
          rw [Option.some.inj snapshot] at published
          obtain ⟨start, stop, accepted, different⟩ :=
            (synced.changedState_iff sameField frame.clicked).mp published.2
          exact different
            (empty shown start stop published.1 focused sameField quiet
              accepted)
        · rw [NoEcho, next]

/-- The adapter is in step with the focused field and has not echoed it. -/
structure Unechoed (adapter : TextInputAdapter) : Prop where
  inSync : adapter.InSync
  noEcho : adapter.NoEcho

namespace Unechoed

/-- At first there is no focused field. -/
theorem initial
    (texts : AndroidTextField → List Char)
    (cursors : StoredCursors) :
    (initial texts cursors).Unechoed where
  inSync := by
    intro field _ noted
    cases noted
  noEcho := rfl

/-- A step that finds an empty selection echoes nothing. -/
theorem step
    [LawfulEguiCursor]
    {next : TextInputAdapter}
    {label : TextInputStep}
    (unechoed : adapter.Unechoed)
    (empty : adapter.SelectionEmpty label)
    (stepped : adapter.step? label = some next) :
    next.Unechoed := by
  cases label with
  | textEvent event =>
      cases stepped
      exact ⟨inSync_accept event, rfl⟩
  | frame frame =>
      cases stepped
      exact ⟨unechoed.inSync.runFrame frame,
        (noEcho_runFrame_iff unechoed.inSync frame).mpr empty⟩

/-- A step that echoes nothing finds an empty selection. -/
theorem selectionEmpty
    {next : TextInputAdapter}
    {label : TextInputStep}
    (unechoed : adapter.Unechoed)
    (stepped : adapter.step? label = some next)
    (noEcho : next.NoEcho) :
    adapter.SelectionEmpty label := by
  cases label with
  | textEvent event =>
      trivial
  | frame frame =>
      cases stepped
      exact (noEcho_runFrame_iff unechoed.inSync frame).mp noEcho

end Unechoed

/--
In every run of the adapter, no state is published without a change exactly
when each painted frame of an unchanged field finds an empty selection accepted.
-/
theorem noEcho_iff_selectionEmpty
    [LawfulEguiCursor]
    (texts : AndroidTextField → List Char)
    (cursors : StoredCursors)
    (labels : List TextInputStep) :
    StepSystem.Always step? NoEcho (initial texts cursors) labels ↔
      StepSystem.Meets step? SelectionEmpty (initial texts cursors) labels :=
  StepSystem.always_iff_meets
    (fun _ _ _ unechoed empty stepped => unechoed.step empty stepped)
    (fun _ unechoed => unechoed.noEcho)
    (fun _ _ _ unechoed stepped noEcho =>
      unechoed.selectionEmpty stepped noEcho)
    (Unechoed.initial texts cursors) labels

end TextInputAdapter

namespace TextInputAdapter

/-- The settings are shown and nothing is done in the focused field. -/
def idleFrame : ImeFrame where
  focused := some .configPath
  edit := none
  clicked := false
  settingsOpen := true
  userTapped := false
  painted := true

/-- Android selects the two characters it reports. -/
def selectedText : TextEvent where
  text := ['a', 'b']
  selection := (0, 2)
  composeRegion := none
  startOnBoundary := by decide
  endOnBoundary := by decide

/-- With the cursor as egui keeps it, the condition rules out an echo. -/
theorem noEcho_iff_selectionEmpty_selectedText :
    @StepSystem.Always _ _ (@step? EguiCursor.endFirst) NoEcho
        (initial (fun _ => []) (fun _ => none))
        [.frame idleFrame, .textEvent selectedText] ↔
      @StepSystem.Meets _ _ (@step? EguiCursor.endFirst)
        (@SelectionEmpty EguiCursor.endFirst)
        (initial (fun _ => []) (fun _ => none))
        [.frame idleFrame, .textEvent selectedText] :=
  @noEcho_iff_selectionEmpty EguiCursor.endFirst EguiCursor.lawful_endFirst
    (fun _ => []) (fun _ => none) [.frame idleFrame, .textEvent selectedText]

/-- A selection from Android is echoed by the next frame. -/
theorem selectedText_echoed :
    ¬ ∀ [EguiCursor] [LawfulEguiCursor] texts cursors labels,
      StepSystem.Always step? NoEcho (initial texts cursors) labels := by
  intro noEcho
  have always :=
    @noEcho EguiCursor.endFirst EguiCursor.lawful_endFirst (fun _ => [])
      (fun _ => none)
      [.frame idleFrame, .textEvent selectedText, .frame idleFrame]
  have echoed : _ = false := always.last rfl
  exact absurd echoed (by decide)

end TextInputAdapter

end Waker
