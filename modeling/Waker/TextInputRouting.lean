import Waker.AndroidIme
import Waker.StepSystem

namespace Waker

/-!
# Which field a text from Android reaches

A text event carries no field.  The keyboard produced it for the field that was
last published to it, `drain_input` applies it to the field that the last frame
captured, and any number of frames may lie between the two.
-/

/-- A text event in flight with the field it was produced for. -/
structure ProducedText where
  field : AndroidTextField
  state : TextInputState
  deriving Repr, DecidableEq

/-- The application, the adapter, and the keyboard on the other side. -/
structure TextInputRouting where
  app : TextInputApp
  cursors : StoredCursors
  ime : AndroidIme
  published : Option AndroidTextField
  inFlight : List ProducedText
  lastFocus : Option AndroidTextField

/-- A step of the keyboard or of the application's loop. -/
inductive RoutingStep where
  | produce (state : TextInputState)
  | deliver
  | frame (frame : ImeFrame)
  deriving DecidableEq

namespace TextInputRouting

/-- No field was published and nothing was produced. -/
def initial
    (texts : AndroidTextField → List Char)
    (cursors : StoredCursors) : TextInputRouting where
  app := ⟨texts, none, none⟩
  cursors := cursors
  ime := ⟨none, none, none, none⟩
  published := none
  inFlight := []
  lastFocus := none

/-- What `drain_input` does with a text event. -/
def drainText
    (state : TextInputState)
    (system : TextInputRouting) : TextInputRouting :=
  { system with
    ime := system.ime.acceptTextState state
    app :=
      system.app.applyAndroidTextInputState state.text
        (utf16IndexToChar state.text state.selection.1)
        (utf16IndexToChar state.text state.selection.2) }

/-- Run a frame; unless painting fails, keep the keyboard in step with it. -/
def runFrame
    [EguiCursor]
    (frame : ImeFrame)
    (system : TextInputRouting) : TextInputRouting :=
  let (app, cursors) := frame.renderSettings system.app system.cursors
  let shown :=
    { system with
      app := app
      cursors := cursors
      lastFocus := frame.shownFocus }
  if frame.painted then
    let (ime, calls) :=
      system.ime.update app.androidTextInput frame.userTapped
    { shown with
      ime := ime
      published :=
        if AndroidIme.publishes calls then
          app.androidTextInput.map (·.field)
        else
          system.published }
  else
    shown

/-- Take a step, unless there is no field to type in or nothing in flight. -/
def step?
    [EguiCursor]
    (system : TextInputRouting) : RoutingStep → Option TextInputRouting
  | .produce state =>
      system.published.map fun field =>
        { system with inFlight := system.inFlight ++ [⟨field, state⟩] }
  | .deliver =>
      match system.inFlight with
      | [] => none
      | event :: rest =>
          some ({ system with inFlight := rest }.drainText event.state)
  | .frame frame => some (system.runFrame frame)

/-- Delivering a text changes no field but the one it was produced for. -/
def OnlyOwnField (system : TextInputRouting) : RoutingStep → Prop
  | .deliver =>
      ∀ event,
        system.inFlight.head? = some event →
        ∀ field,
          field ≠ event.field →
          (system.drainText event.state).app.texts field =
            system.app.texts field
  | _ => True

/--
When a text is delivered, the last frame had the focus on its field, on none,
or on a field that holds the same text already.
-/
def DeliveredInPlace (system : TextInputRouting) : RoutingStep → Prop
  | .deliver =>
      ∀ event,
        system.inFlight.head? = some event →
        ∀ field,
          system.lastFocus = some field →
          field = event.field ∨ system.app.texts field = event.state.text
  | _ => True

/--
A frame with the focus on a field is painted, and every text in flight was
produced for that field.
-/
def SettledFocus (system : TextInputRouting) : RoutingStep → Prop
  | .frame frame =>
      ∀ field,
        frame.shownFocus = some field →
        frame.painted = true ∧
        ∀ event ∈ system.inFlight, event.field = field
  | _ => True

/-- The application has captured the field that had the focus. -/
def CapturesFocus (system : TextInputRouting) : Prop :=
  system.app.androidTextInput.map (·.field) = system.lastFocus

/-- The keyboard and everything in flight belong to the focused field. -/
structure Settled (system : TextInputRouting) : Prop where
  adapter :
    ∀ field,
      system.ime.field = some field →
      system.published = some field
  focused :
    ∀ field,
      system.lastFocus = some field →
      system.published = some field
  inFlight :
    ∀ field event,
      system.lastFocus = some field →
      event ∈ system.inFlight →
      event.field = field

variable {system after : TextInputRouting}

/-- A frame captures exactly the field with the focus. -/
theorem field_renderSettings
    [EguiCursor]
    (frame : ImeFrame)
    (app : TextInputApp)
    (cursors : StoredCursors) :
    (frame.renderSettings app cursors).1.androidTextInput.map (·.field) =
      frame.shownFocus := by
  cases focus : frame.shownFocus with
  | none =>
      rw [ImeFrame.androidTextInput_renderSettings focus]
      rfl
  | some field =>
      rw [(ImeFrame.captured_renderSettings focus app
        cursors).androidTextInput]
      rfl

/-- Delivering a text captures no other field. -/
theorem captured_applyAndroidTextInputState
    (app : TextInputApp)
    (text : List Char)
    (selectionStart selectionEnd : Nat) :
    (app.applyAndroidTextInputState text selectionStart
      selectionEnd).androidTextInput = app.androidTextInput := by
  unfold TextInputApp.applyAndroidTextInputState
  split
  · rfl
  · rfl

/-- What delivering a text leaves in the fields. -/
theorem texts_drainText
    (captures : system.CapturesFocus)
    (state : TextInputState) :
    (system.drainText state).app.texts =
      match system.lastFocus with
      | none => system.app.texts
      | some field => Function.update system.app.texts field state.text := by
  rw [← captures]
  unfold drainText TextInputApp.applyAndroidTextInputState
  cases system.app.androidTextInput <;> rfl

/-- At first no field is captured. -/
theorem CapturesFocus.initial
    (texts : AndroidTextField → List Char)
    (cursors : StoredCursors) :
    (initial texts cursors).CapturesFocus :=
  rfl

/-- Every step keeps track of the captured field. -/
theorem CapturesFocus.step
    [EguiCursor]
    (captures : system.CapturesFocus)
    {label : RoutingStep}
    (stepped : system.step? label = some after) :
    after.CapturesFocus := by
  cases label with
  | produce state =>
      obtain ⟨field, _, rfl⟩ := Option.map_eq_some_iff.mp stepped
      exact captures
  | deliver =>
      simp only [step?] at stepped
      split at stepped
      · cases stepped
      · cases stepped
        simp only [CapturesFocus, drainText,
          captured_applyAndroidTextInputState]
        exact captures
  | frame frame =>
      cases stepped
      simp only [CapturesFocus, runFrame]
      split <;> exact field_renderSettings frame system.app system.cursors

/-- A text reaches only its own field exactly when it is delivered in place. -/
theorem onlyOwnField_iff_deliveredInPlace
    (captures : system.CapturesFocus)
    (label : RoutingStep) :
    system.OnlyOwnField label ↔ system.DeliveredInPlace label := by
  cases label with
  | produce state =>
      rfl
  | frame frame =>
      rfl
  | deliver =>
      refine forall_congr' fun event => forall_congr' fun _ => ?_
      rw [texts_drainText captures]
      cases focus : system.lastFocus with
      | none =>
          simp
      | some focused =>
          dsimp only
          constructor
          · rintro kept field ⟨⟩
            by_contra misplaced
            rw [not_or] at misplaced
            have same := kept focused misplaced.1
            rw [Function.update_self] at same
            exact misplaced.2 same.symm
          · intro inPlace field other
            by_cases reached : field = focused
            · subst reached
              rw [Function.update_self]
              exact ((inPlace field rfl).resolve_left other).symm
            · rw [Function.update_of_ne reached]

/-- Texts reach only their own field exactly where all arrive in place. -/
theorem onlyOwnField_iff_inPlace
    [EguiCursor]
    (texts : AndroidTextField → List Char)
    (cursors : StoredCursors)
    (labels : List RoutingStep) :
    StepSystem.Meets step? OnlyOwnField (initial texts cursors) labels ↔
      StepSystem.Meets step? DeliveredInPlace (initial texts cursors)
        labels := by
  have preserved
      (system : TextInputRouting)
      (label : RoutingStep)
      (after : TextInputRouting)
      (captures : system.CapturesFocus)
      (stepped : system.step? label = some after) :
      after.CapturesFocus :=
    captures.step stepped
  exact StepSystem.meets_iff_meets preserved
    (fun _ label _ captures _ =>
      onlyOwnField_iff_deliveredInPlace captures label)
    (CapturesFocus.initial texts cursors) labels

/-- The first field gets the focus and a text, then the second one does. -/
def movedFocusRun : List RoutingStep :=
  [.frame ⟨some .configPath, none, true, true, true, true⟩,
    .produce ⟨['x'], (1, 1), none⟩,
    .frame ⟨some .fritzIp, none, true, true, true, true⟩]

/-- The text typed in the first field arrives in the second. -/
theorem movedFocusRun_misdelivered :
    ¬ @StepSystem.Meets _ _ (@step? EguiCursor.endFirst)
      OnlyOwnField
      (initial (fun _ => []) (fun _ => none))
      (movedFocusRun ++ [.deliver]) := by
  intro meets
  let _ := EguiCursor.endFirst
  have reached :
      (StepSystem.run? step? (initial (fun _ => []) (fun _ => none))
          movedFocusRun).map
          (fun final =>
            (final.inFlight, final.app.texts .fritzIp,
              (final.drainText ⟨['x'], (1, 1), none⟩).app.texts .fritzIp)) =
        some ([⟨.configPath, ⟨['x'], (1, 1), none⟩⟩], [], ['x']) := by
    decide
  obtain ⟨final, returned, same⟩ := Option.map_eq_some_iff.mp reached
  simp only [Prod.mk.injEq] at same
  obtain ⟨inFlight, before, changed⟩ := same
  have taken :
      final.step? .deliver =
        some ({ final with inFlight := [] }.drainText
          ⟨['x'], (1, 1), none⟩) := by
    simp only [step?, inFlight]
  have kept :=
    meets.last returned taken ⟨.configPath, ⟨['x'], (1, 1), none⟩⟩
      (by rw [inFlight]; rfl) .fritzIp (by decide)
  rw [changed, before] at kept
  cases kept

section Settled

/-- A frame that paints a field publishes it. -/
theorem published_runFrame
    [EguiCursor]
    (known :
      ∀ field,
        system.ime.field = some field →
        system.published = some field)
    {frame : ImeFrame}
    {field : AndroidTextField}
    (painted : frame.painted = true)
    (focused : frame.shownFocus = some field) :
    (system.runFrame frame).published = some field ∧
      (system.runFrame frame).ime.field = some field := by
  obtain ⟨snapshot, noted, same⟩ :=
    Option.map_eq_some_iff.mp
      ((field_renderSettings frame system.app system.cursors).trans focused)
  simp only [runFrame, painted, if_true, noted,
    AndroidIme.publishes_update_some]
  refine ⟨?_, ?_⟩
  · cases changed : system.ime.changedState snapshot with
    | true =>
        simp [same]
    | false =>
        have unmoved : system.ime.field = some snapshot.field := by
          simp only [AndroidIme.changedState, AndroidIme.changedField,
            Bool.or_eq_false_iff, bne_eq_false_iff_eq] at changed
          exact changed.1.1
        simp [known snapshot.field unmoved, same]
  · simp [AndroidIme.update, same]

/-- A frame leaves the adapter with a field that was published. -/
theorem adapter_runFrame
    [EguiCursor]
    (known :
      ∀ field,
        system.ime.field = some field →
        system.published = some field)
    (frame : ImeFrame)
    (field : AndroidTextField)
    (isKept : (system.runFrame frame).ime.field = some field) :
    (system.runFrame frame).published = some field := by
  cases painted : frame.painted with
  | false =>
      simp only [runFrame, painted, Bool.false_eq_true, if_false] at isKept ⊢
      exact known field isKept
  | true =>
      cases focus : frame.shownFocus with
      | some focused =>
          obtain ⟨published, kept⟩ := published_runFrame known painted focus
          rw [published, ← isKept, kept]
      | none =>
          have nothing :=
            ImeFrame.androidTextInput_renderSettings focus system.app
              system.cursors
          simp only [runFrame, painted, if_true, nothing,
            AndroidIme.publishes_update_none, Bool.false_eq_true, if_false]
            at isKept ⊢
          rw [AndroidIme.update] at isKept
          split at isKept
          · cases isKept
          · exact known field isKept

/-- A settled frame keeps keyboard and texts in flight with the focus. -/
theorem Settled.step
    [EguiCursor]
    (settled : system.Settled)
    {label : RoutingStep}
    (condition : system.SettledFocus label)
    (stepped : system.step? label = some after) :
    after.Settled := by
  cases label with
  | produce state =>
      obtain ⟨origin, published, rfl⟩ := Option.map_eq_some_iff.mp stepped
      refine ⟨settled.adapter, settled.focused, ?_⟩
      intro field event focused member
      rcases List.mem_append.mp member with earlier | new
      · exact settled.inFlight field event focused earlier
      · rw [List.mem_singleton] at new
        subst new
        have same := settled.focused field focused
        rw [published] at same
        exact Option.some.inj same
  | deliver =>
      simp only [step?] at stepped
      split at stepped
      · cases stepped
      · rename_i first rest inFlight
        cases stepped
        refine ⟨settled.adapter, settled.focused, ?_⟩
        intro field event focused member
        exact settled.inFlight field event focused
          (by rw [inFlight]; exact List.mem_cons_of_mem first member)
  | frame frame =>
      cases stepped
      have lastFocus :
          (system.runFrame frame).lastFocus = frame.shownFocus := by
        simp only [runFrame]
        split <;> rfl
      have inFlight :
          (system.runFrame frame).inFlight = system.inFlight := by
        simp only [runFrame]
        split <;> rfl
      refine ⟨adapter_runFrame settled.adapter frame, ?_, ?_⟩
      · intro field focused
        rw [lastFocus] at focused
        exact (published_runFrame settled.adapter
          (condition field focused).1 focused).1
      · intro field event focused member
        rw [lastFocus] at focused
        rw [inFlight] at member
        exact (condition field focused).2 event member

/-- In a settled system every text is delivered in place. -/
theorem Settled.deliveredInPlace
    (settled : system.Settled)
    (label : RoutingStep) :
    system.DeliveredInPlace label := by
  cases label with
  | produce state =>
      trivial
  | frame frame =>
      trivial
  | deliver =>
      intro event first field focused
      exact .inl (settled.inFlight field event focused
        (List.mem_of_mem_head? first)).symm

/-- Where the focus only settles, every text reaches only its own field. -/
theorem onlyOwnField_of_settledFocus
    [EguiCursor]
    (texts : AndroidTextField → List Char)
    (cursors : StoredCursors)
    {labels : List RoutingStep}
    (settles :
      StepSystem.Meets step? SettledFocus (initial texts cursors) labels) :
    StepSystem.Meets step? OnlyOwnField (initial texts cursors) labels := by
  have preserved
      (system : TextInputRouting)
      (label : RoutingStep)
      (after : TextInputRouting)
      (both : system.CapturesFocus ∧ system.Settled)
      (condition : system.SettledFocus label)
      (stepped : system.step? label = some after) :
      after.CapturesFocus ∧ after.Settled :=
    ⟨both.1.step stepped, both.2.step condition stepped⟩
  refine settles.imp preserved ?_ ?_
  · intro system label both _
    exact (onlyOwnField_iff_deliveredInPlace both.1 label).mpr
      (both.2.deliveredInPlace label)
  · refine ⟨CapturesFocus.initial texts cursors, ?_, ?_, ?_⟩
    · intro field unset
      cases unset
    · intro field unset
      cases unset
    · intro field event unset
      cases unset

end Settled

end TextInputRouting

end Waker
