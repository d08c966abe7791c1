import Waker.DrainInput
import Waker.Latest
import Waker.Transducer

namespace Waker

/-!
# The input as a translation

Draining is a machine that reads input events and emits egui events: what an
event emits depends on the primary touch, the modifiers and the dead key, not on
the events that still wait for a frame.  Its text is what was typed, and a
press of the primary pointer is noted exactly when it waits for the frame.
-/

section Touches

variable {Pos : Type}

/-- A press of the primary pointer. -/
def PointerEvent.isPress : PointerEvent Pos → Bool
  | .pointerButton _ pressed _ => pressed
  | _ => false

/-- The same input with other events before it, tapped in them or not. -/
def AndroidInput.behind
    (earlier : List (PointerEvent Pos))
    (tapped : Bool)
    (input : AndroidInput Pos) : AndroidInput Pos :=
  { input with
    events := earlier ++ input.events
    primaryPointerPressed := tapped || input.primaryPointerPressed }

/-- What a touch does is independent of the events before it. -/
theorem TouchStep.apply_behind
    (earlier : List (PointerEvent Pos))
    (tapped : Bool)
    (input : AndroidInput Pos)
    (step : TouchStep Pos) :
    apply (input.behind earlier tapped) step =
      (apply input step).behind earlier tapped := by
  cases step with
  | down key pos =>
      cases touched : input.primaryTouchId <;>
        simp [apply, AndroidInput.behind, AndroidInput.pushTouch,
          AndroidInput.pressPrimary, touched]
  | move key pos =>
      by_cases primary : input.primaryTouchId = some key.pointerId <;>
        simp [apply, AndroidInput.behind, AndroidInput.pushTouch,
          AndroidInput.movePrimary, primary]
  | up key pos =>
      by_cases primary : input.primaryTouchId = some key.pointerId <;>
        simp [apply, AndroidInput.behind, AndroidInput.pushTouch,
          AndroidInput.releasePrimary, primary]
  | cancelTouch key pos =>
      simp [apply, AndroidInput.behind, AndroidInput.pushTouch]
  | cancel =>
      cases touched : input.primaryTouchId <;>
        simp [apply, AndroidInput.behind, AndroidInput.cancelPrimary, touched]

/-- The primary pointer was pressed exactly in the events that wait. -/
def AndroidInput.Tapped (input : AndroidInput Pos) : Prop :=
  input.primaryPointerPressed = input.events.any PointerEvent.isPress

/-- A touch notes a press when it emits one. -/
theorem TouchStep.tapped_apply
    {input : AndroidInput Pos}
    (tapped : input.Tapped)
    (step : TouchStep Pos) :
    (apply input step).Tapped := by
  unfold AndroidInput.Tapped at tapped ⊢
  cases step with
  | down key pos =>
      cases touched : input.primaryTouchId <;>
        simp [apply, AndroidInput.pushTouch, AndroidInput.pressPrimary,
          touched, tapped, PointerEvent.isPress]
  | move key pos =>
      by_cases primary : input.primaryTouchId = some key.pointerId <;>
        simp [apply, AndroidInput.pushTouch, AndroidInput.movePrimary,
          primary, tapped, PointerEvent.isPress]
  | up key pos =>
      by_cases primary : input.primaryTouchId = some key.pointerId <;>
        simp [apply, AndroidInput.pushTouch, AndroidInput.releasePrimary,
          primary, tapped, PointerEvent.isPress]
  | cancelTouch key pos =>
      simp [apply, AndroidInput.pushTouch, tapped, PointerEvent.isPress]
  | cancel =>
      cases touched : input.primaryTouchId <;>
        simp [apply, AndroidInput.cancelPrimary, touched, tapped,
          PointerEvent.isPress]

/-- What a motion event does is independent of the events before it. -/
theorem AndroidInput.drainMotion_behind
    (earlier : List (PointerEvent Pos))
    (tapped : Bool)
    (event : MotionEvent Pos)
    (input : AndroidInput Pos) :
    (input.behind earlier tapped).drainMotion event =
      (input.drainMotion event).behind earlier tapped := by
  rw [event.drainMotion_eq_foldl, event.drainMotion_eq_foldl]
  induction event.touchSteps generalizing input with
  | nil =>
      rfl
  | cons step rest inductionHypothesis =>
      rw [List.foldl_cons, List.foldl_cons, TouchStep.apply_behind,
        inductionHypothesis]

/-- A motion event notes a press when it emits one. -/
theorem AndroidInput.tapped_drainMotion
    {input : AndroidInput Pos}
    (tapped : input.Tapped)
    (event : MotionEvent Pos) :
    (input.drainMotion event).Tapped := by
  rw [event.drainMotion_eq_foldl]
  induction event.touchSteps generalizing input with
  | nil =>
      exact tapped
  | cons step rest inductionHypothesis =>
      exact inductionHypothesis (TouchStep.tapped_apply tapped step)

end Touches

/-- A press of the primary pointer. -/
def EguiEvent.isPress {Pos : Type} : EguiEvent Pos → Bool
  | .pointer event => event.isPress
  | _ => false

/-- What the next events depend on. -/
structure InputControl where
  primaryTouchId : Option Int
  modifiers : Modifiers
  combiningAccent : Option Char
  deriving Repr, DecidableEq

/-- At first nothing is touched and no accent waits. -/
def InputControl.initial : InputControl where
  primaryTouchId := none
  modifiers := .none
  combiningAccent := none

namespace InputState

variable {Pos : Type}
variable {platform : KeyPlatform}

/-- What the next events depend on. -/
def control (input : InputState Pos) : InputControl where
  primaryTouchId := input.primaryTouchId
  modifiers := input.modifiers
  combiningAccent := input.combiningAccent

/-- An input state without events. -/
def ofControl (control : InputControl) : InputState Pos where
  events := []
  primaryTouchId := control.primaryTouchId
  modifiers := control.modifiers
  combiningAccent := control.combiningAccent
  primaryPointerPressed := false

/-- The same input with other events before it, tapped in them or not. -/
def behind
    (earlier : List (EguiEvent Pos))
    (tapped : Bool)
    (input : InputState Pos) : InputState Pos :=
  { input with
    events := earlier ++ input.events
    primaryPointerPressed := tapped || input.primaryPointerPressed }

/-- `drain_input` as a machine that reads events and emits egui's. -/
def translation
    (platform : KeyPlatform) :
    Transducer InputControl (InputEvent Pos) (EguiEvent Pos) where
  next control event :=
    ((ofControl control : InputState Pos).drain platform event).1.control
  emit control event := ((ofControl control).drain platform event).1.events

/-- An input state is what it depends on, behind its events. -/
theorem eq_behind (input : InputState Pos) :
    input =
      (ofControl input.control).behind input.events
        input.primaryPointerPressed := by
  simp [behind, ofControl, control]

/-- What an event does is independent of the events before it. -/
theorem drain_behind
    (platform : KeyPlatform)
    (earlier : List (EguiEvent Pos))
    (tapped : Bool)
    (input : InputState Pos)
    (event : InputEvent Pos) :
    ((input.behind earlier tapped).drain platform event).1 =
      ((input.drain platform event).1).behind earlier tapped := by
  cases event with
  | motionEvent event =>
      have touches :
          (input.behind earlier tapped).touches =
            input.touches.behind [] tapped := rfl
      simp only [drain, drainMotion, touches,
        AndroidInput.drainMotion_behind]
      simp [behind, AndroidInput.behind]
  | keyEvent event =>
      unfold drain drainKey
      by_cases back : event.keyCode = .back
      · simp [back]
      · simp [back, behind]
  | textEvent state =>
      rfl
  | textAction =>
      simp [drain, drainTextAction, push, behind]
  | other =>
      rfl

/-- The primary pointer was pressed exactly in the events that wait. -/
def Tapped (input : InputState Pos) : Prop :=
  input.primaryPointerPressed = input.events.any EguiEvent.isPress

/-- An event notes a press when it emits one. -/
theorem tapped_drain
    {input : InputState Pos}
    (tapped : input.Tapped)
    (event : InputEvent Pos) :
    (input.drain platform event).1.Tapped := by
  unfold Tapped at tapped ⊢
  cases event with
  | motionEvent event =>
      let fresh : AndroidInput Pos :=
        ⟨[], input.primaryTouchId, input.modifiers, false⟩
      have touches :
          input.touches =
            fresh.behind [] input.primaryPointerPressed := by
        simp [InputState.touches, AndroidInput.behind, fresh]
      have untapped : fresh.Tapped := rfl
      have noted := AndroidInput.tapped_drainMotion untapped event
      have pointers
          (events : List (PointerEvent Pos)) :
          (events.map EguiEvent.pointer).any EguiEvent.isPress =
            events.any PointerEvent.isPress := by
        rw [List.any_map]
        rfl
      simp only [drain, drainMotion, touches,
        AndroidInput.drainMotion_behind]
      simp only [AndroidInput.behind, List.nil_append, List.any_append,
        pointers, tapped]
      rw [noted]
  | keyEvent event =>
      unfold drain drainKey
      by_cases back : event.keyCode = .back
      · simpa [back] using tapped
      · simp [back, tapped, EguiEvent.isPress, Function.comp_def]
  | textEvent state =>
      exact tapped
  | textAction =>
      simp [drain, drainTextAction, push, tapped, EguiEvent.isPress]
  | other =>
      exact tapped

/-- What an event does to what the next ones depend on. -/
theorem control_drain
    (input : InputState Pos)
    (event : InputEvent Pos) :
    (input.drain platform event).1.control =
      (translation platform).next input.control event := by
  have separated :=
    drain_behind platform input.events
      input.primaryPointerPressed (ofControl input.control) event
  rw [← eq_behind] at separated
  rw [separated]
  rfl

/-- What an event adds to the events that wait. -/
theorem events_drain
    (input : InputState Pos)
    (event : InputEvent Pos) :
    (input.drain platform event).1.events =
      input.events ++ (translation platform).emit input.control event := by
  have separated :=
    drain_behind platform input.events
      input.primaryPointerPressed (ofControl input.control) event
  rw [← eq_behind] at separated
  rw [separated]
  rfl

/-- Drain a list of events. -/
def drainAll
    (platform : KeyPlatform)
    (input : InputState Pos)
    (events : List (InputEvent Pos)) : InputState Pos :=
  events.foldl (fun input event => (input.drain platform event).1) input

/-- What a list of events does, in whatever portions it was drained. -/
theorem drainAll_spec
    (platform : KeyPlatform)
    (input : InputState Pos)
    (events : List (InputEvent Pos)) :
    (input.drainAll platform events).control =
        (translation platform).after input.control events ∧
      (input.drainAll platform events).events =
        input.events ++
          (translation platform).output input.control events ∧
      (input.Tapped → (input.drainAll platform events).Tapped) := by
  induction events generalizing input with
  | nil =>
      exact ⟨rfl, (List.append_nil _).symm, id⟩
  | cons event rest inductionHypothesis =>
      obtain ⟨control, waiting, tapped⟩ :=
        inductionHypothesis (input.drain platform event).1
      rw [control_drain] at control waiting
      refine ⟨control, ?_, fun before => tapped (tapped_drain before event)⟩
      rw [events_drain, List.append_assoc] at waiting
      exact waiting

end InputState

/-- Draining reaches the input state event by event. -/
theorem AndroidAdapter.input_drainInput
    {Pos : Type}
    (platform : KeyPlatform)
    (events : Option (List (InputEvent Pos)))
    (adapter : AndroidAdapter Pos) :
    (adapter.drainInput platform events).input =
      adapter.input.drainAll platform (events.getD []) := by
  rw [drainInput, InputState.drainAll]
  induction events.getD [] generalizing adapter with
  | nil =>
      rfl
  | cons event rest inductionHypothesis =>
      rw [List.foldl_cons, List.foldl_cons, inductionHypothesis]
      cases event <;> rfl

section Typing

variable {Pos : Type}
variable (platform : KeyPlatform)

/-- The accent that an event leaves, if it changes it. -/
def accentAfter? : InputEvent Pos → Option (Option Char)
  | .keyEvent event =>
      if event.keyCode = .back then
        none
      else
        match platform.lookUp event with
        | .ok (.unicode _) =>
            if event.action = .down then some none else none
        | .ok (.combiningAccent accent) =>
            if event.action = .down then some (some accent) else none
        | .ok .none => none
        | .error _ => some none
  | _ => none

/-- The accent that waits for a character after a list of events. -/
def pendingAccent (events : List (InputEvent Pos)) : Option Char :=
  (Latest.latest (accentAfter? platform) events).getD none

/-- What an event types when an accent waits. -/
def typedAt (accent : Option Char) : InputEvent Pos → List Char
  | .keyEvent event =>
      if event.keyCode = .back ∨ event.action ≠ .down ∨
          event.metaState.ctrlOn then
        []
      else
        match platform.lookUp event with
        | .ok (.unicode char) =>
            [platform.combine event accent char].filter fun char =>
              !isControl char
        | _ => []
  | _ => []

/-- What a list of events types after another one. -/
def typedAfter (earlier : List (InputEvent Pos)) :
    List (InputEvent Pos) → List Char
  | [] => []
  | event :: rest =>
      typedAt platform (pendingAccent platform earlier) event ++
        typedAfter (earlier ++ [event]) rest

end Typing

/-- The text of an event for egui. -/
def EguiEvent.textOf {Pos : Type} : EguiEvent Pos → List Char
  | .text typed => typed
  | _ => []

namespace InputState

variable {Pos : Type}
variable {platform : KeyPlatform}

/-- An event overwrites the accent that waits, or keeps it. -/
theorem combiningAccent_next
    (control : InputControl)
    (event : InputEvent Pos) :
    some ((translation platform).next control event).combiningAccent =
      (accentAfter? platform event).or (some control.combiningAccent) := by
  cases event with
  | keyEvent event =>
      unfold translation drain drainKey accentAfter?
      by_cases back : event.keyCode = .back
      · simp [back, InputState.control, ofControl]
      · simp only [back, if_false, InputState.control,
          KeyPlatform.keyMapCharacter]
        cases platform.lookUp event with
        | error error =>
            rfl
        | ok found =>
            by_cases down : event.action = .down <;> cases found <;>
              simp [down, ofControl]
  | _ =>
      rfl

/-- The accent that waits is that of the last event that changed it. -/
theorem combiningAccent_after
    (control : InputControl)
    (none : control.combiningAccent = none)
    (events : List (InputEvent Pos)) :
    ((translation platform).after control events).combiningAccent =
      pendingAccent platform events := by
  have folded :=
    Latest.foldl_overwrite
      (fun control : InputControl => some control.combiningAccent)
      (accentAfter? platform) combiningAccent_next events control
  rw [none] at folded
  have whole :
      some ((translation platform).after control events).combiningAccent =
        some (pendingAccent platform events) := by
    rw [Transducer.after, folded, pendingAccent]
    cases Latest.latest (accentAfter? platform) events <;> rfl
  exact Option.some.inj whole

/-- The text of a key event is what it types. -/
theorem textOf_eq_typedAt
    {event : KeyEvent}
    (notBack : event.keyCode ≠ .back)
    (accent : Option Char) :
    textOf event (modifiersOf event.metaState)
        (platform.keyMapCharacter event accent).1 =
      typedAt platform accent (.keyEvent event : InputEvent Pos) := by
  unfold typedAt KeyPlatform.keyMapCharacter
  by_cases down : event.action = .down
  · cases ctrl : event.metaState.ctrlOn with
    | true =>
        simp [textOf, modifiersOf, ctrl]
    | false =>
        cases found : platform.lookUp event with
        | error error =>
            simp [textOf, found, notBack, down, ctrl]
        | ok char =>
            cases char <;>
              simp [textOf, modifiersOf, found, notBack, down, ctrl]
  · simp [textOf, down]

/-- What an event hands to egui as text is what it types. -/
theorem flatMap_textOf_emit
    (control : InputControl)
    (event : InputEvent Pos) :
    ((translation platform).emit control event).flatMap EguiEvent.textOf =
      typedAt platform control.combiningAccent event := by
  cases event with
  | motionEvent event =>
      simp [translation, drain, drainMotion, ofControl, typedAt,
        List.flatMap_map, EguiEvent.textOf]
  | keyEvent event =>
      by_cases back : event.keyCode = .back
      · simp [translation, drain, drainKey, ofControl, typedAt, back]
      · rw [← textOf_eq_typedAt back control.combiningAccent]
        simp [translation, drain, drainKey, ofControl, back,
          List.flatMap_map, EguiEvent.textOf]
  | _ =>
      rfl

/-- All text handed to egui is typed, with the accent before each character. -/
theorem flatMap_textOf_output
    (earlier events : List (InputEvent Pos)) :
    ((translation platform).output
        ((translation platform).after .initial earlier)
        events).flatMap EguiEvent.textOf =
      typedAfter platform earlier events := by
  induction events generalizing earlier with
  | nil =>
      rfl
  | cons event rest inductionHypothesis =>
      have later := inductionHypothesis (earlier ++ [event])
      rw [Transducer.after_append] at later
      rw [Transducer.output, List.flatMap_append, flatMap_textOf_emit,
        combiningAccent_after _ rfl, typedAfter, ← later]
      rfl

end InputState

end Waker
