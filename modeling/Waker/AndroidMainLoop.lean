import Waker.InputTranslation
import Waker.RepaintSlot

namespace Waker

/-!
# The main loop of the activity

The loop of `RepaintSlot` together with the input that it drains and the text
adapter that it keeps in step.  The input waits for a frame, also while there
is no surface, and a frame hands all of it to egui, whether its painting
succeeds or not.
-/

/-- What egui does to the settings fields in a frame. -/
structure EguiFrame where
  focused : Option AndroidTextField
  edit : Option (List Char × CCursorRange)
  clicked : Bool
  settingsOpen : Bool

/-- The frame as the text adapter sees it. -/
def EguiFrame.imeFrame
    (userTapped painted : Bool)
    (frame : EguiFrame) : ImeFrame where
  focused := frame.focused
  edit := frame.edit
  clicked := frame.clicked
  settingsOpen := frame.settingsOpen
  userTapped := userTapped
  painted := painted

/-- The main loop with everything that it keeps. -/
structure AndroidMainLoop (Pos Textures : Type) where
  loop : AndroidLoop Textures
  adapter : AndroidAdapter Pos
  cursors : StoredCursors

/-- A step of the main loop, or a repaint request from any thread. -/
inductive MainStep (Pos TextureId ImageDelta : Type) where
  | readClock (request : RepaintRequest)
  | lock (index : Nat)
  | poll (event : PollEvent) (now : Instant)
  | drainInput (events : Option (List (InputEvent Pos))) (now : Instant)
  | takeIfDue (now : Instant)
  | frame
      (delta : TexturesDelta TextureId ImageDelta)
      (current : CurrentSurfaceTexture)
      (answers : WindowAnswers)
      (shown : EguiFrame)

namespace MainStep

variable {Pos TextureId ImageDelta : Type}

/-- The step without its input. -/
def loopStep :
    MainStep Pos TextureId ImageDelta → LoopStep TextureId ImageDelta
  | .readClock request => .readClock request
  | .lock index => .lock index
  | .poll event now => .poll event now
  | .drainInput _ now => .drainInput now
  | .takeIfDue now => .takeIfDue now
  | .frame delta current answers _ => .frame delta current answers

end MainStep

namespace AndroidMainLoop

variable {Pos TextureId ImageDelta Textures : Type}

/-- The activity when it starts. -/
def initial
    (now : Instant)
    (texts : AndroidTextField → List Char)
    (cursors : StoredCursors) : AndroidMainLoop Pos Textures where
  loop := .initial now
  adapter := ⟨.initial, ⟨none, none, none, none⟩, ⟨texts, none, none⟩⟩
  cursors := cursors

/-- The iteration drains the input. -/
def drains (main : AndroidMainLoop Pos Textures) : Bool :=
  main.loop.running && main.loop.inputAvailable

/-- The painting of a frame succeeds. -/
def paints
    (renderer : Renderer TextureId ImageDelta Textures)
    (delta : TexturesDelta TextureId ImageDelta)
    (current : CurrentSurfaceTexture)
    (answers : WindowAnswers)
    (main : AndroidMainLoop Pos Textures) : Bool :=
  match main.loop.gpu with
  | some gpu => (gpu.paint renderer delta current answers).2.toBool
  | none => false

variable [EguiCursor]

/-- What the frame leaves in the settings fields. -/
def render
    (frame : ImeFrame)
    (main : AndroidMainLoop Pos Textures) : TextInputApp × StoredCursors :=
  frame.renderSettings main.adapter.app main.cursors

/-- What `handle_platform_output` does, unless painting has failed. -/
def platformOutput
    (frame : ImeFrame)
    (main : AndroidMainLoop Pos Textures) : AndroidIme × List ImeCall :=
  if frame.painted then
    main.adapter.ime.update (main.render frame).1.androidTextInput
      frame.userTapped
  else
    (main.adapter.ime, [])

/-- Run a frame with all the input that waits. -/
def runFrame
    (frame : ImeFrame)
    (main : AndroidMainLoop Pos Textures) : AndroidMainLoop Pos Textures :=
  { main with
    adapter := {
      input := main.adapter.input.takeFrame
      ime := (main.platformOutput frame).1
      app := (main.render frame).1 }
    cursors := (main.render frame).2 }

/-- What a step of the loop does to the input and the text adapter. -/
def adapt
    (renderer : Renderer TextureId ImageDelta Textures)
    (platform : KeyPlatform)
    (main : AndroidMainLoop Pos Textures) :
    MainStep Pos TextureId ImageDelta → AndroidMainLoop Pos Textures
  | .drainInput events _ =>
      if main.drains then
        { main with adapter := main.adapter.drainInput platform events }
      else
        main
  | .frame delta current answers shown =>
      main.runFrame
        (shown.imeFrame main.adapter.input.primaryPointerPressed
          (main.paints renderer delta current answers))
  | .readClock _ | .lock _ | .poll _ _ | .takeIfDue _ => main

/-- Take a step, unless it is not possible. -/
def step?
    (renderer : Renderer TextureId ImageDelta Textures)
    (platform : KeyPlatform)
    (main : AndroidMainLoop Pos Textures)
    (step : MainStep Pos TextureId ImageDelta) :
    Option (AndroidMainLoop Pos Textures) :=
  (main.loop.step? renderer step.loopStep).map fun loop =>
    { main.adapt renderer platform step with loop := loop }

end AndroidMainLoop

/-- What a frame was given and what it asked of the activity. -/
structure MainFrame (Pos : Type) where
  events : List (EguiEvent Pos)
  userTapped : Bool
  painted : Bool
  keyboard : Option AndroidTextField
  captured : Option AndroidTextInputSnapshot
  calls : List ImeCall

/-- The text and the selection of a state. -/
abbrev Exchanged := List Char × (Nat × Nat)

/--
The input drained so far and the frames that have run; the field that the
keyboard was last shown for, unless it was hidden since; the state last
exchanged with Android; and the field that the last painted frame has captured,
unless a text state has come since.
-/
structure MainLedger (Pos : Type) where
  repaint : RepaintLedger
  drained : List (InputEvent Pos)
  drainedAt : Instant
  frames : List (MainFrame Pos)
  keyboard : Option AndroidTextField
  exchanged : Option Exchanged
  settled : Option AndroidTextInputSnapshot

/-- The field for which a call leaves the keyboard. -/
def ImeCall.keyboardAfter
    (captured : Option AndroidTextInputSnapshot)
    (keyboard : Option AndroidTextField) :
    ImeCall → Option AndroidTextField
  | .showSoftInput _ => captured.map (·.field)
  | .hideSoftInput => none
  | .setTextInputState _ | .setImeEditorInfo => keyboard

/-- The state that a call hands to Android. -/
def ImeCall.exchanged? : ImeCall → Option Exchanged
  | .setTextInputState state => some (state.text, state.selection)
  | .setImeEditorInfo | .showSoftInput _ | .hideSoftInput => none

/-- The state that an input event brings from Android. -/
def InputEvent.exchanged? {Pos : Type} : InputEvent Pos → Option Exchanged
  | .textEvent state => some (state.text, state.selection)
  | .motionEvent _ | .keyEvent _ | .textAction | .other => none

namespace MainLedger

variable {Pos TextureId ImageDelta Textures : Type}

/-- Nothing was drained yet. -/
def empty : MainLedger Pos where
  repaint := .empty
  drained := []
  drainedAt := 0
  frames := []
  keyboard := none
  exchanged := none
  settled := none

/-- Note that events were drained. -/
def drain
    (events : List (InputEvent Pos))
    (now : Instant)
    (ledger : MainLedger Pos) : MainLedger Pos :=
  let accepted := Latest.latest InputEvent.exchanged? events
  { ledger with
    drained := ledger.drained ++ events
    drainedAt := now
    exchanged := accepted.or ledger.exchanged
    settled := if accepted.isSome then none else ledger.settled }

/-- The record of a frame. -/
def record
    [EguiCursor]
    (frame : ImeFrame)
    (main : AndroidMainLoop Pos Textures)
    (ledger : MainLedger Pos) : MainFrame Pos where
  events := main.adapter.input.events
  userTapped := frame.userTapped
  painted := frame.painted
  keyboard := ledger.keyboard
  captured := (main.render frame).1.androidTextInput
  calls := (main.platformOutput frame).2

/-- Note that a frame has run. -/
def run
    (frame : MainFrame Pos)
    (ledger : MainLedger Pos) : MainLedger Pos :=
  { ledger with
    frames := ledger.frames ++ [frame]
    keyboard :=
      frame.calls.foldl (ImeCall.keyboardAfter frame.captured)
        ledger.keyboard
    exchanged :=
      (Latest.latest ImeCall.exchanged? frame.calls).or ledger.exchanged
    settled := if frame.painted then frame.captured else none }

/-- Note a step. -/
def observe
    [EguiCursor]
    (renderer : Renderer TextureId ImageDelta Textures)
    (main : AndroidMainLoop Pos Textures)
    (step : MainStep Pos TextureId ImageDelta)
    (ledger : MainLedger Pos) : MainLedger Pos :=
  let ledger :=
    { ledger with
      repaint := ledger.repaint.observe renderer main.loop step.loopStep }
  match step with
  | .drainInput events now =>
      if main.drains then ledger.drain (events.getD []) now else ledger
  | .frame delta current answers shown =>
      ledger.run
        (ledger.record
          (shown.imeFrame main.adapter.input.primaryPointerPressed
            (main.paints renderer delta current answers))
          main)
  | .readClock _ | .lock _ | .poll _ _ | .takeIfDue _ => ledger

end MainLedger

/--
All input that was drained has reached a frame or waits for one, in order and
each event once, as if it had been drained at once; the text in it is what was
typed; a frame is told of a tap exactly when it was given a press; and while
there is a surface, what waits is due by the time it was drained, or the
surface was got.
-/
structure InputDelivered
    {Pos Textures : Type}
    (platform : KeyPlatform)
    (observed : AndroidMainLoop Pos Textures × MainLedger Pos) : Prop where
  delivered :
    (observed.2.frames.map (·.events)).flatten ++
        observed.1.adapter.input.events =
      (InputState.translation platform).output .initial observed.2.drained
  typed :
    ((observed.2.frames.map (·.events)).flatten ++
        observed.1.adapter.input.events).flatMap EguiEvent.textOf =
      typedAfter platform [] observed.2.drained
  tapped :
    ∀ frame ∈ observed.2.frames,
      frame.userTapped = frame.events.any EguiEvent.isPress
  due :
    observed.1.loop.dimensions.isSome →
    observed.1.adapter.input.events ≠ [] →
      observed.1.loop.phase = .framing ∨
        observed.1.loop.signal.DueBy
          (max observed.2.drainedAt observed.2.repaint.windowTime)

namespace AndroidMainLoop

variable {Pos TextureId ImageDelta Textures : Type}
variable {renderer : Renderer TextureId ImageDelta Textures}
variable {platform : KeyPlatform}
variable {main after : AndroidMainLoop Pos Textures}
variable {ledger : MainLedger Pos}

/-- What carries the main result from one step to the next. -/
structure Follows
    (platform : KeyPlatform)
    (main : AndroidMainLoop Pos Textures)
    (ledger : MainLedger Pos) : Prop where
  repaint : ledger.repaint.Tracks main.loop
  carries :
    Transducer.Carries (InputState.translation platform) .initial
      ledger.drained (ledger.frames.map (·.events))
      main.adapter.input.control main.adapter.input.events
  noted : main.adapter.input.Tapped
  tapped :
    ∀ frame ∈ ledger.frames,
      frame.userTapped = frame.events.any EguiEvent.isPress
  waits :
    main.adapter.input.events ≠ [] →
      main.loop.phase = .framing ∨
        ⟨ledger.drainedAt, 0⟩ ∈ ledger.repaint.unserved

/-- At first there is no input. -/
theorem Follows.initial
    (now : Instant)
    (texts : AndroidTextField → List Char)
    (cursors : StoredCursors) :
    Follows platform
      (initial now texts cursors : AndroidMainLoop Pos Textures) .empty where
  repaint := RepaintLedger.Tracks.initial now
  carries := Transducer.Carries.initial
  noted := rfl
  tapped frame member := by cases member
  waits waiting := (waiting rfl).elim

/-- Following means that all input is delivered. -/
theorem Follows.inputDelivered
    (follows : main.Follows platform ledger) :
    InputDelivered platform (main, ledger) where
  delivered := follows.carries.outputs
  typed := by
    rw [follows.carries.outputs]
    exact InputState.flatMap_textOf_output [] ledger.drained
  tapped := follows.tapped
  due sized waiting :=
    (follows.waits waiting).imp_right fun requested =>
      follows.repaint.due sized ⟨ledger.drainedAt, 0⟩ requested

/-- A step of the loop alone keeps the input and a frame for it. -/
theorem Follows.loopOnly
    (follows : main.Follows platform ledger)
    {loop : AndroidLoop Textures}
    {repaint : RepaintLedger}
    (tracks : repaint.Tracks loop)
    (kept :
      main.loop.phase = .framing ∨
          ⟨ledger.drainedAt, 0⟩ ∈ ledger.repaint.unserved →
        loop.phase = .framing ∨
          ⟨ledger.drainedAt, 0⟩ ∈ repaint.unserved) :
    Follows platform { main with loop := loop }
      { ledger with repaint := repaint } where
  repaint := tracks
  carries := follows.carries
  noted := follows.noted
  tapped := follows.tapped
  waits waiting := kept (follows.waits waiting)

/-- Draining the input asks for a frame. -/
theorem Follows.drainInput
    (follows : main.Follows platform ledger)
    (events : Option (List (InputEvent Pos)))
    (now : Instant)
    {loop : AndroidLoop Textures}
    {repaint : RepaintLedger}
    (tracks : repaint.Tracks loop)
    (requested : ⟨now, 0⟩ ∈ repaint.unserved) :
    Follows platform
      { main with
        loop := loop
        adapter := main.adapter.drainInput platform events }
      ({ ledger with repaint := repaint }.drain (events.getD []) now) := by
  obtain ⟨control, waiting, noted⟩ :=
    InputState.drainAll_spec platform main.adapter.input (events.getD [])
  have drained := main.adapter.input_drainInput platform events
  exact {
    repaint := tracks
    carries := by
      rw [drained, control, waiting]
      exact follows.carries.feed (events.getD [])
    noted := by
      rw [drained]
      exact noted follows.noted
    tapped := follows.tapped
    waits := fun _ => .inr requested
  }

variable [EguiCursor]

/-- A frame takes all input that waits. -/
theorem Follows.runFrame
    (follows : main.Follows platform ledger)
    {frame : ImeFrame}
    (tapped : frame.userTapped = main.adapter.input.primaryPointerPressed)
    {loop : AndroidLoop Textures}
    {repaint : RepaintLedger}
    (tracks : repaint.Tracks loop) :
    Follows platform { main.runFrame frame with loop := loop }
      ({ ledger with repaint := repaint }.run
        ({ ledger with repaint := repaint }.record frame main)) where
  repaint := tracks
  carries := by
    have taken := follows.carries.take
    simp only [MainLedger.run, List.map_append]
    exact taken
  noted := rfl
  tapped other member := by
    rcases List.mem_append.mp member with earlier | last
    · exact follows.tapped other earlier
    · rw [List.mem_singleton.mp last]
      exact tapped.trans follows.noted
  waits waiting := (waiting rfl).elim

/-- Every step keeps track of the input. -/
theorem Follows.step
    (follows : main.Follows platform ledger)
    {label : MainStep Pos TextureId ImageDelta}
    (stepped : main.step? renderer platform label = some after) :
    Follows platform after (ledger.observe renderer main label) := by
  obtain ⟨loop, taken, rfl⟩ := Option.map_eq_some_iff.mp stepped
  have tracks := follows.repaint.step taken
  cases label with
  | readClock request =>
      cases taken
      exact follows.loopOnly tracks id
  | lock index =>
      obtain ⟨request, waits, rfl⟩ := Option.map_eq_some_iff.mp taken
      exact follows.loopOnly tracks fun kept =>
        kept.imp_right (List.mem_append_left _)
  | poll event now =>
      simp only [MainStep.loopStep, AndroidLoop.step?,
        Option.ite_none_right_eq_some] at taken
      obtain ⟨inTurn, ⟨⟩⟩ := taken
      refine follows.loopOnly tracks fun kept => .inr ?_
      have requested :=
        kept.resolve_left (by simp [inTurn])
      simp only [MainStep.loopStep, RepaintLedger.observe]
      split
      · exact List.mem_append_left _ requested
      · exact requested
  | drainInput events now =>
      simp only [MainStep.loopStep, AndroidLoop.step?,
        Option.ite_none_right_eq_some] at taken
      obtain ⟨inTurn, ⟨⟩⟩ := taken
      cases drains : main.drains with
      | true =>
          simp only [adapt, MainLedger.observe, drains, if_true]
          refine follows.drainInput events now tracks ?_
          have observed :
              (main.loop.running && main.loop.inputAvailable) = true :=
            drains
          simp [MainStep.loopStep, RepaintLedger.observe, observed]
      | false =>
          simp only [adapt, MainLedger.observe, drains, Bool.false_eq_true,
            if_false]
          refine follows.loopOnly tracks fun kept => .inr ?_
          have requested :=
            kept.resolve_left (by simp [inTurn])
          have observed :
              (main.loop.running && main.loop.inputAvailable) = false :=
            drains
          simpa [MainStep.loopStep, RepaintLedger.observe, observed]
            using requested
  | takeIfDue now =>
      simp only [MainStep.loopStep, AndroidLoop.step?,
        Option.ite_none_right_eq_some] at taken
      obtain ⟨inTurn, ⟨⟩⟩ := taken
      refine follows.loopOnly tracks fun kept => ?_
      have requested :=
        kept.resolve_left (by simp [inTurn])
      by_cases begun : (main.loop.takeIfDue now).phase = .framing
      · exact .inl begun
      · refine .inr ?_
        simpa [MainStep.loopStep, RepaintLedger.observe, begun]
          using requested
  | frame delta current answers shown =>
      exact follows.runFrame rfl tracks

/-- In every run of the main loop all input is delivered. -/
theorem inputDelivered_always
    (renderer : Renderer TextureId ImageDelta Textures)
    (platform : KeyPlatform)
    (now : Instant)
    (texts : AndroidTextField → List Char)
    (cursors : StoredCursors)
    (labels : List (MainStep Pos TextureId ImageDelta)) :
    StepSystem.Always
      (StepSystem.observing (step? renderer platform)
        (MainLedger.observe renderer))
      (InputDelivered platform) (initial now texts cursors, .empty)
      labels := by
  have preserved
      (observed : AndroidMainLoop Pos Textures × MainLedger Pos)
      (label : MainStep Pos TextureId ImageDelta)
      (after : AndroidMainLoop Pos Textures × MainLedger Pos)
      (follows : observed.1.Follows platform observed.2)
      (stepped :
        StepSystem.observing (step? renderer platform)
            (MainLedger.observe renderer) observed label =
          some after) :
      after.1.Follows platform after.2 := by
    obtain ⟨taken, seen⟩ := StepSystem.observing_eq_some_iff.mp stepped
    rw [seen]
    exact follows.step taken
  exact StepSystem.always_of_invariant preserved
    (fun _ follows => follows.inputDelivered)
    (Follows.initial now texts cursors) labels

end AndroidMainLoop

end Waker
