import Waker.StepSystem

namespace Waker

/-!
# Touches and the primary pointer

Android reports the touches of several fingers on several devices, and egui has
one primary pointer.  `AndroidInput` lets the first touch press it and follows
that touch by its pointer id alone.  A reader of the emitted events remembers
which touch has pressed and breaks on the first event that is out of place.
-/

/-- A finger is identified by its device and its pointer id. -/
@[ext] structure TouchKey where
  deviceId : Int
  pointerId : Int
  deriving Repr, DecidableEq

/-- A pointer of a motion event, its position in egui's points. -/
structure TouchPointer (Pos : Type) where
  pointerId : Int
  pos : Pos
  deriving Repr, DecidableEq

/-- What a motion event reports. -/
inductive MotionAction where
  | down
  | pointerDown
  | move
  | up
  | pointerUp
  | cancel
  | other
  deriving Repr, DecidableEq

/-- A motion event names one of its pointers. -/
structure MotionEvent (Pos : Type) where
  deviceId : Int
  action : MotionAction
  pointers : List (TouchPointer Pos)
  pointerIndex : Fin pointers.length

/-- The pointer a motion event names. -/
def MotionEvent.pointerAtIndex
    {Pos : Type}
    (event : MotionEvent Pos) : TouchPointer Pos :=
  event.pointers.get event.pointerIndex

/-- The phase of a touch event. -/
inductive TouchPhase where
  | start
  | move
  | finish
  | cancel
  deriving Repr, DecidableEq

/-- The keyboard modifiers that accompany a button event. -/
structure Modifiers where
  alt : Bool
  ctrl : Bool
  shift : Bool
  macCmd : Bool
  command : Bool
  deriving Repr, DecidableEq

/-- No modifier is held. -/
def Modifiers.none : Modifiers where
  alt := false
  ctrl := false
  shift := false
  macCmd := false
  command := false

/-- The egui events that touches cause; the button is the primary one. -/
inductive PointerEvent (Pos : Type) where
  | touch (deviceId id : Nat) (phase : TouchPhase) (pos : Pos)
  | pointerMoved (pos : Pos)
  | pointerButton (pos : Pos) (pressed : Bool) (modifiers : Modifiers)
  | pointerGone
  deriving Repr, DecidableEq

/-- The input state of the adapter. -/
structure AndroidInput (Pos : Type) where
  events : List (PointerEvent Pos)
  primaryTouchId : Option Int
  modifiers : Modifiers
  primaryPointerPressed : Bool
  deriving Repr, DecidableEq

namespace AndroidInput

variable {Pos : Type}

/-- Nothing is touched. -/
def initial : AndroidInput Pos where
  events := []
  primaryTouchId := none
  modifiers := .none
  primaryPointerPressed := false

/-- Report a touch as such. -/
def pushTouch
    (deviceId pointerId : Int)
    (phase : TouchPhase)
    (pos : Pos)
    (input : AndroidInput Pos) : AndroidInput Pos :=
  { input with
    events :=
      input.events ++
        [.touch (max deviceId 0).toNat (max pointerId 0).toNat phase pos] }

/-- Press the primary pointer. -/
def pressPrimary
    (pointerId : Int)
    (pos : Pos)
    (input : AndroidInput Pos) : AndroidInput Pos :=
  { input with
    primaryPointerPressed := true
    primaryTouchId := some pointerId
    events :=
      input.events ++
        [.pointerMoved pos, .pointerButton pos true input.modifiers] }

/-- Move the primary pointer with its touch. -/
def movePrimary
    (pointerId : Int)
    (pos : Pos)
    (input : AndroidInput Pos) : AndroidInput Pos :=
  if input.primaryTouchId = some pointerId then
    { input with events := input.events ++ [.pointerMoved pos] }
  else
    input

/-- Release the primary pointer with its touch. -/
def releasePrimary
    (pointerId : Int)
    (pos : Pos)
    (input : AndroidInput Pos) : AndroidInput Pos :=
  if input.primaryTouchId = some pointerId then
    { input with
      events :=
        input.events ++
          [.pointerButton pos false input.modifiers, .pointerGone]
      primaryTouchId := none }
  else
    input

/-- Give up the primary pointer. -/
def cancelPrimary (input : AndroidInput Pos) : AndroidInput Pos :=
  match input.primaryTouchId with
  | some _ =>
      { input with
        primaryTouchId := none
        events := input.events ++ [.pointerGone] }
  | none => input

/-- What `drain_input` does with a motion event. -/
def drainMotion
    (event : MotionEvent Pos)
    (input : AndroidInput Pos) : AndroidInput Pos :=
  match event.action with
  | .down | .pointerDown =>
      let pointer := event.pointerAtIndex
      let input :=
        input.pushTouch event.deviceId pointer.pointerId .start pointer.pos
      if input.primaryTouchId.isNone then
        input.pressPrimary pointer.pointerId pointer.pos
      else
        input
  | .move =>
      event.pointers.foldl
        (fun input pointer =>
          (input.pushTouch event.deviceId pointer.pointerId .move
            pointer.pos).movePrimary pointer.pointerId pointer.pos)
        input
  | .up | .pointerUp =>
      let pointer := event.pointerAtIndex
      (input.pushTouch event.deviceId pointer.pointerId .finish
        pointer.pos).releasePrimary pointer.pointerId pointer.pos
  | .cancel =>
      (event.pointers.foldl
        (fun input pointer =>
          input.pushTouch event.deviceId pointer.pointerId .cancel
            pointer.pos)
        input).cancelPrimary
  | .other => input

/-- What `make_raw_input` takes for a frame. -/
def takeFrame (input : AndroidInput Pos) : AndroidInput Pos :=
  { input with events := [], primaryPointerPressed := false }

end AndroidInput

/-- What a motion event does for one of its touches, or a cancellation. -/
inductive TouchStep (Pos : Type) where
  | down (key : TouchKey) (pos : Pos)
  | move (key : TouchKey) (pos : Pos)
  | up (key : TouchKey) (pos : Pos)
  | cancelTouch (key : TouchKey) (pos : Pos)
  | cancel

namespace TouchStep

variable {Pos : Type}

/-- Do what `drain_input` does for one touch. -/
def apply
    (input : AndroidInput Pos) : TouchStep Pos → AndroidInput Pos
  | .down key pos =>
      let input := input.pushTouch key.deviceId key.pointerId .start pos
      if input.primaryTouchId.isNone then
        input.pressPrimary key.pointerId pos
      else
        input
  | .move key pos =>
      (input.pushTouch key.deviceId key.pointerId .move pos).movePrimary
        key.pointerId pos
  | .up key pos =>
      (input.pushTouch key.deviceId key.pointerId .finish
        pos).releasePrimary key.pointerId pos
  | .cancelTouch key pos =>
      input.pushTouch key.deviceId key.pointerId .cancel pos
  | .cancel => input.cancelPrimary

/-- The events a step emits. -/
def emitted
    (input : AndroidInput Pos)
    (step : TouchStep Pos) : List (PointerEvent Pos) :=
  (apply input step).events.drop input.events.length

section Emitted

variable (input : AndroidInput Pos)
variable (key : TouchKey)
variable (pos : Pos)

/-- What a touch is reported as. -/
def report (phase : TouchPhase) : PointerEvent Pos :=
  .touch (max key.deviceId 0).toNat (max key.pointerId 0).toNat phase pos

/-- The first touch presses. -/
@[simp] theorem emitted_down :
    (down key pos).emitted input =
      report key pos .start ::
        if input.primaryTouchId.isNone then
          [.pointerMoved pos, .pointerButton pos true input.modifiers]
        else
          [] := by
  cases touched : input.primaryTouchId <;>
    simp [emitted, apply, AndroidInput.pushTouch, AndroidInput.pressPrimary,
      touched, report]

/-- The first touch becomes the primary one. -/
@[simp] theorem primaryTouchId_down :
    (apply input (down key pos)).primaryTouchId =
      input.primaryTouchId.or (some key.pointerId) := by
  cases touched : input.primaryTouchId <;>
    simp [apply, AndroidInput.pushTouch, AndroidInput.pressPrimary, touched]

/-- A touch with the primary pointer id moves the pointer. -/
@[simp] theorem emitted_move :
    (move key pos).emitted input =
      report key pos .move ::
        if input.primaryTouchId = some key.pointerId then
          [.pointerMoved pos]
        else
          [] := by
  by_cases primary : input.primaryTouchId = some key.pointerId <;>
    simp [emitted, apply, AndroidInput.pushTouch, AndroidInput.movePrimary,
      primary, report]

/-- Moving changes no primary touch. -/
@[simp] theorem primaryTouchId_move :
    (apply input (move key pos)).primaryTouchId = input.primaryTouchId := by
  by_cases primary : input.primaryTouchId = some key.pointerId <;>
    simp [apply, AndroidInput.pushTouch, AndroidInput.movePrimary, primary]

/-- A touch with the primary pointer id releases. -/
@[simp] theorem emitted_up :
    (up key pos).emitted input =
      report key pos .finish ::
        if input.primaryTouchId = some key.pointerId then
          [.pointerButton pos false input.modifiers, .pointerGone]
        else
          [] := by
  by_cases primary : input.primaryTouchId = some key.pointerId <;>
    simp [emitted, apply, AndroidInput.pushTouch, AndroidInput.releasePrimary,
      primary, report]

/-- Releasing forgets the primary touch. -/
@[simp] theorem primaryTouchId_up :
    (apply input (up key pos)).primaryTouchId =
      if input.primaryTouchId = some key.pointerId then
        none
      else
        input.primaryTouchId := by
  by_cases primary : input.primaryTouchId = some key.pointerId <;>
    simp [apply, AndroidInput.pushTouch, AndroidInput.releasePrimary, primary]

/-- A cancelled touch is only reported. -/
@[simp] theorem emitted_cancelTouch :
    (cancelTouch key pos).emitted input = [report key pos .cancel] := by
  simp [emitted, apply, AndroidInput.pushTouch, report]

/-- A cancelled touch is not forgotten yet. -/
@[simp] theorem primaryTouchId_cancelTouch :
    (apply input (cancelTouch key pos)).primaryTouchId =
      input.primaryTouchId :=
  rfl

/-- A cancellation ends the press. -/
@[simp] theorem emitted_cancel :
    cancel.emitted input =
      if input.primaryTouchId.isSome then [.pointerGone] else [] := by
  cases touched : input.primaryTouchId <;>
    simp [emitted, apply, AndroidInput.cancelPrimary, touched]

/-- A cancellation forgets the primary touch. -/
@[simp] theorem primaryTouchId_cancel :
    (apply input cancel).primaryTouchId = none := by
  cases touched : input.primaryTouchId <;>
    simp [apply, AndroidInput.cancelPrimary, touched]

end Emitted

/-- A step puts what it emits behind the events that wait for a frame. -/
theorem events_apply
    (input : AndroidInput Pos)
    (step : TouchStep Pos) :
    (apply input step).events = input.events ++ step.emitted input := by
  have behind : input.events <+: (apply input step).events := by
    cases step with
    | down key pos =>
        simp only [apply]
        split
        · exact (List.prefix_append _ _).trans (List.prefix_append _ _)
        · exact List.prefix_append _ _
    | move key pos =>
        simp only [apply, AndroidInput.movePrimary]
        split
        · exact (List.prefix_append _ _).trans (List.prefix_append _ _)
        · exact List.prefix_append _ _
    | up key pos =>
        simp only [apply, AndroidInput.releasePrimary]
        split
        · exact (List.prefix_append _ _).trans (List.prefix_append _ _)
        · exact List.prefix_append _ _
    | cancelTouch key pos =>
        exact List.prefix_append _ _
    | cancel =>
        simp only [apply, AndroidInput.cancelPrimary]
        split
        · exact List.prefix_append _ _
        · exact List.prefix_refl _
  obtain ⟨more, shape⟩ := behind
  rw [emitted, ← shape, List.drop_left]

/-- What several steps emit, one after the other. -/
def emittedAlong :
    AndroidInput Pos → List (TouchStep Pos) → List (PointerEvent Pos)
  | _, [] => []
  | input, step :: rest =>
      step.emitted input ++ emittedAlong (apply input step) rest

/-- Several steps put behind the waiting events what each of them emits. -/
theorem events_foldl_apply
    (input : AndroidInput Pos)
    (steps : List (TouchStep Pos)) :
    (steps.foldl apply input).events =
      input.events ++ emittedAlong input steps := by
  induction steps generalizing input with
  | nil =>
      exact (List.append_nil _).symm
  | cons step rest inductionHypothesis =>
      rw [List.foldl_cons, inductionHypothesis, events_apply, emittedAlong,
        List.append_assoc]

/-- The touch a step is about. -/
def key? : TouchStep Pos → Option TouchKey
  | .down key _ => some key
  | .move key _ => some key
  | .up key _ => some key
  | .cancelTouch key _ => some key
  | .cancel => none

/-- The step that lifts a touch. -/
def lifts (key : TouchKey) : TouchStep Pos → Bool
  | .up lifted _ => lifted = key
  | _ => false

/-- The step that cancels all touches. -/
def cancels : TouchStep Pos → Bool
  | .cancel => true
  | _ => false

end TouchStep

namespace MotionEvent

variable {Pos : Type}

/-- The touch of a pointer of the event. -/
def key
    (event : MotionEvent Pos)
    (pointer : TouchPointer Pos) : TouchKey where
  deviceId := event.deviceId
  pointerId := pointer.pointerId

/-- A motion event touch by touch. -/
def touchSteps (event : MotionEvent Pos) : List (TouchStep Pos) :=
  let pointer := event.pointerAtIndex
  match event.action with
  | .down | .pointerDown => [.down (event.key pointer) pointer.pos]
  | .move =>
      event.pointers.map fun pointer =>
        .move (event.key pointer) pointer.pos
  | .up | .pointerUp => [.up (event.key pointer) pointer.pos]
  | .cancel =>
      event.pointers.map
          (fun pointer => .cancelTouch (event.key pointer) pointer.pos) ++
        [.cancel]
  | .other => []

/-- A motion event does what its touches do one after the other. -/
theorem drainMotion_eq_foldl
    (event : MotionEvent Pos)
    (input : AndroidInput Pos) :
    input.drainMotion event =
      event.touchSteps.foldl TouchStep.apply input := by
  cases action : event.action <;>
    simp only [AndroidInput.drainMotion, touchSteps, action, key,
      TouchStep.apply, List.foldl_cons, List.foldl_nil, List.foldl_append,
      List.foldl_map]

/-- A motion event emits what its touches emit one after the other. -/
theorem events_drainMotion
    (event : MotionEvent Pos)
    (input : AndroidInput Pos) :
    (input.drainMotion event).events =
      input.events ++ TouchStep.emittedAlong input event.touchSteps := by
  rw [drainMotion_eq_foldl, TouchStep.events_foldl_apply]

end MotionEvent

/-- What the events emitted so far say about the primary pointer. -/
inductive PressReader where
  | idle
  | pressed (key : TouchKey)
  | released
  | broken
  deriving Repr, DecidableEq

namespace PressReader

variable {Pos : Type}

/-- Read one event that a step has emitted. -/
def readEvent
    (step : TouchStep Pos)
    (reader : PressReader)
    (event : PointerEvent Pos) : PressReader :=
  match reader, event with
  | .idle, .pointerButton _ true _ =>
      match step with
      | .down key _ => .pressed key
      | _ => .broken
  | .idle, .pointerButton _ false _ => .broken
  | .idle, .pointerGone => .broken
  | .idle, _ => .idle
  | .pressed key, .touch _ _ _ _ => .pressed key
  | .pressed key, .pointerMoved _ =>
      if step.key? = some key then .pressed key else .broken
  | .pressed _, .pointerButton _ true _ => .broken
  | .pressed key, .pointerButton _ false _ =>
      if step.lifts key then .released else .broken
  | .pressed _, .pointerGone => if step.cancels then .idle else .broken
  | .released, .pointerGone => .idle
  | .released, _ => .broken
  | .broken, _ => .broken

/-- The step must end the press. -/
def mustEnd (step : TouchStep Pos) : PressReader → Bool
  | .pressed key => step.lifts key || step.cancels
  | _ => false

/-- Read everything a step has emitted. -/
def read
    (step : TouchStep Pos)
    (events : List (PointerEvent Pos))
    (reader : PressReader) : PressReader :=
  let after := events.foldl (readEvent step) reader
  if reader.mustEnd step && after != .idle then .broken else after

/--
The stream is well bracketed so far, and a primary touch is remembered exactly
while a press is outstanding.
-/
def Agrees (primaryTouchId : Option Int) : PressReader → Prop
  | .idle => primaryTouchId = none
  | .pressed _ => primaryTouchId.isSome
  | .released => False
  | .broken => False

end PressReader

/-- A motion event is drained, or a frame takes the events. -/
inductive InputStep (Pos : Type) where
  | motion (event : MotionEvent Pos)
  | frame

namespace InputStep

variable {Pos : Type}

/-- The touches a step of the input is about. -/
def touchSteps : InputStep Pos → List (TouchStep Pos)
  | .motion event => event.touchSteps
  | .frame => []

/-- Take a step. -/
def step?
    (input : AndroidInput Pos) : InputStep Pos → Option (AndroidInput Pos)
  | .motion event => some (input.drainMotion event)
  | .frame => some input.takeFrame

/-- Read what touches emit one after the other. -/
def readAlong :
    AndroidInput Pos → List (TouchStep Pos) → PressReader → PressReader
  | _, [], reader => reader
  | input, step :: rest, reader =>
      readAlong (TouchStep.apply input step) rest
        (reader.read step (step.emitted input))

/-- Read what a step of the input emits. -/
def observe
    (input : AndroidInput Pos)
    (step : InputStep Pos)
    (reader : PressReader) : PressReader :=
  readAlong input step.touchSteps reader

end InputStep

namespace TouchKey

variable {Pos : Type}

/-- The touch that holds the press after a step, by device and pointer. -/
def holderAfter
    (holder : Option TouchKey) : TouchStep Pos → Option TouchKey
  | .down key _ => holder.or (some key)
  | .up key _ => if holder = some key then none else holder
  | .cancel => none
  | _ => holder

/--
A touch that moves or lifts with the pointer id of the holder is on the
holder's device.
-/
def SameDevice
    (holder : Option TouchKey)
    (step : TouchStep Pos) : Prop :=
  match holder, step with
  | some held, .move key _ =>
      key.pointerId = held.pointerId → key.deviceId = held.deviceId
  | some held, .up key _ =>
      key.pointerId = held.pointerId → key.deviceId = held.deviceId
  | _, _ => True

/-- While a touch holds the press, no other device uses its pointer id. -/
def SameDeviceAlong :
    Option TouchKey → List (TouchStep Pos) → Prop
  | _, [] => True
  | holder, step :: rest =>
      SameDevice holder step ∧ SameDeviceAlong (holderAfter holder step) rest

/-- The holder after several steps. -/
def holderAlong
    (holder : Option TouchKey)
    (steps : List (TouchStep Pos)) : Option TouchKey :=
  steps.foldl holderAfter holder

/-- What holds along two lists of steps, one after the other. -/
theorem sameDeviceAlong_append
    (holder : Option TouchKey)
    (first second : List (TouchStep Pos)) :
    SameDeviceAlong holder (first ++ second) ↔
      SameDeviceAlong holder first ∧
      SameDeviceAlong (holderAlong holder first) second := by
  induction first generalizing holder with
  | nil =>
      exact (true_and _).to_iff.symm
  | cons step rest inductionHypothesis =>
      simp only [List.cons_append, SameDeviceAlong, inductionHypothesis,
        and_assoc]
      rfl

end TouchKey

section Reading

variable {Pos : Type}
variable {input : AndroidInput Pos}
variable {holder : Option TouchKey}

/-- The adapter and the reader know which touch holds the press. -/
inductive Following :
    Option TouchKey → Option Int → PressReader → Prop where
  | idle : Following none none .idle
  | pressed (key : TouchKey) :
      Following (some key) (some key.pointerId) (.pressed key)

/-- A reader that follows finds the stream well bracketed. -/
theorem Following.agrees
    {primaryTouchId : Option Int}
    {reader : PressReader}
    (following : Following holder primaryTouchId reader) :
    reader.Agrees primaryTouchId := by
  cases following with
  | idle =>
      rfl
  | pressed key =>
      rfl

/-- A broken reader stays broken. -/
theorem PressReader.readAlong_broken
    (input : AndroidInput Pos)
    (steps : List (TouchStep Pos)) :
    InputStep.readAlong input steps .broken = .broken := by
  induction steps generalizing input with
  | nil =>
      rfl
  | cons step rest inductionHypothesis =>
      have still (events : List (PointerEvent Pos)) :
          events.foldl (PressReader.readEvent step) .broken = .broken := by
        induction events with
        | nil =>
            rfl
        | cons event later keeps =>
            exact keeps
      simp only [InputStep.readAlong, PressReader.read, still,
        PressReader.mustEnd, Bool.false_and, Bool.false_eq_true, if_false]
      exact inductionHypothesis (TouchStep.apply input step)

section Steps

open PressReader TouchKey TouchStep

/-- A report presses, moves and ends nothing. -/
@[simp] theorem PressReader.readEvent_report
    (reader : PressReader)
    (step : TouchStep Pos)
    (key : TouchKey)
    (pos : Pos)
    (phase : TouchPhase)
    (unreleased : reader ≠ .released) :
    reader.readEvent step (report key pos phase) = reader := by
  cases reader with
  | released =>
      exact absurd rfl unreleased
  | idle =>
      rfl
  | pressed held =>
      rfl
  | broken =>
      rfl

/-- Without a press the next touch presses. -/
theorem Following.step_idle
    (unpressed : input.primaryTouchId = none)
    (step : TouchStep Pos) :
    Following (holderAfter none step) (apply input step).primaryTouchId
      (PressReader.idle.read step (step.emitted input)) := by
  cases step with
  | down key pos =>
      simp [holderAfter, unpressed, PressReader.read, mustEnd, readEvent,
        report, Following.pressed]
  | move key pos =>
      simp [holderAfter, unpressed, PressReader.read, mustEnd, Following.idle]
  | up key pos =>
      simp [holderAfter, unpressed, PressReader.read, mustEnd, Following.idle]
  | cancelTouch key pos =>
      simp [holderAfter, unpressed, PressReader.read, mustEnd, Following.idle]
  | cancel =>
      simp [holderAfter, unpressed, PressReader.read, mustEnd, Following.idle]

variable {held : TouchKey}

/-- While a touch holds the press, only its own device is followed. -/
theorem Following.step_pressed
    (pressed : input.primaryTouchId = some held.pointerId)
    (step : TouchStep Pos)
    (same : SameDevice (some held) step) :
    Following (holderAfter (some held) step)
      (apply input step).primaryTouchId
      ((PressReader.pressed held).read step (step.emitted input)) := by
  cases step with
  | down key pos =>
      simp [holderAfter, pressed, PressReader.read, mustEnd, lifts, cancels,
        Following.pressed]
  | move key pos =>
      by_cases pointer : held.pointerId = key.pointerId
      · cases TouchKey.ext (same pointer.symm) pointer.symm
        simp [holderAfter, pressed, PressReader.read, readEvent, report,
          mustEnd, lifts, cancels, key?, Following.pressed]
      · simp [holderAfter, pressed, pointer, PressReader.read, mustEnd,
          lifts, cancels, Following.pressed]
  | up key pos =>
      by_cases pointer : held.pointerId = key.pointerId
      · cases TouchKey.ext (same pointer.symm) pointer.symm
        simp [holderAfter, pressed, PressReader.read, readEvent, report,
          mustEnd, lifts, cancels, Following.idle]
      · have other : key ≠ held := by
          rintro rfl
          exact pointer rfl
        simp [holderAfter, pressed, pointer, PressReader.read, mustEnd,
          lifts, cancels, other, other.symm, Following.pressed]
  | cancelTouch key pos =>
      simp [holderAfter, pressed, PressReader.read, mustEnd, lifts, cancels,
        Following.pressed]
  | cancel =>
      simp [holderAfter, pressed, PressReader.read, readEvent, mustEnd,
        lifts, cancels, Following.idle]

/-- Another device with the holder's pointer id moves or ends the press. -/
theorem PressReader.read_of_not_sameDevice
    (pressed : input.primaryTouchId = some held.pointerId)
    (step : TouchStep Pos)
    (mistaken : ¬ SameDevice (some held) step) :
    (PressReader.pressed held).read step (step.emitted input) = .broken := by
  cases step with
  | down key pos =>
      exact absurd trivial mistaken
  | move key pos =>
      obtain ⟨pointer, device⟩ := Classical.not_imp.mp mistaken
      have other : key ≠ held := by
        rintro rfl
        exact device rfl
      simp [pressed, pointer, PressReader.read, readEvent, report, mustEnd,
        lifts, cancels, key?, other]
  | up key pos =>
      obtain ⟨pointer, device⟩ := Classical.not_imp.mp mistaken
      have other : key ≠ held := by
        rintro rfl
        exact device rfl
      simp [pressed, pointer, PressReader.read, readEvent, report, mustEnd,
        lifts, cancels, other]
  | cancelTouch key pos =>
      exact absurd trivial mistaken
  | cancel =>
      exact absurd trivial mistaken

/-- Touches are followed exactly while none is mistaken for the holder. -/
theorem Following.along
    {holder : Option TouchKey}
    {reader : PressReader}
    (following : Following holder input.primaryTouchId reader)
    (steps : List (TouchStep Pos)) :
    (SameDeviceAlong holder steps ∧
      Following (holderAlong holder steps)
        (steps.foldl apply input).primaryTouchId
        (InputStep.readAlong input steps reader)) ∨
    (¬ SameDeviceAlong holder steps ∧
      InputStep.readAlong input steps reader = .broken) := by
  induction steps generalizing input holder reader with
  | nil =>
      exact .inl ⟨trivial, following⟩
  | cons step rest inductionHypothesis =>
      have taken :
          (SameDevice holder step ∧
            Following (holderAfter holder step)
              (apply input step).primaryTouchId
              (reader.read step (step.emitted input))) ∨
          (¬ SameDevice holder step ∧
            reader.read step (step.emitted input) = .broken) := by
        generalize primary : input.primaryTouchId = primaryTouchId
          at following
        cases following with
        | idle =>
            exact .inl ⟨trivial, .step_idle primary step⟩
        | pressed held =>
            rcases Classical.em (SameDevice (some held) step) with
              same | mistaken
            · exact .inl ⟨same, .step_pressed primary step same⟩
            · exact .inr ⟨mistaken,
                read_of_not_sameDevice primary step mistaken⟩
      rcases taken with ⟨same, follows⟩ | ⟨mistaken, broken⟩
      · rcases inductionHypothesis follows with
          ⟨along, later⟩ | ⟨notAlong, later⟩
        · exact .inl ⟨⟨same, along⟩, later⟩
        · exact .inr ⟨fun along => notAlong along.2, later⟩
      · refine .inr ⟨fun along => mistaken along.1, ?_⟩
        rw [InputStep.readAlong, broken]
        exact readAlong_broken _ rest

end Steps

end Reading

namespace InputStep

open TouchKey

variable {Pos : Type}

/-- The stream is well bracketed, and the adapter remembers the press. -/
def WellBracketed (read : AndroidInput Pos × PressReader) : Prop :=
  read.2.Agrees read.1.primaryTouchId

/-- A step of the input is followed touch by touch. -/
theorem following_observe
    {holder : Option TouchKey}
    {read after : AndroidInput Pos × PressReader}
    (following : Following holder read.1.primaryTouchId read.2)
    {label : InputStep Pos}
    (stepped : StepSystem.observing step? observe read label = some after) :
    (SameDeviceAlong holder label.touchSteps ∧
      Following (holderAlong holder label.touchSteps)
        after.1.primaryTouchId after.2) ∨
    (¬ SameDeviceAlong holder label.touchSteps ∧ after.2 = .broken) := by
  obtain ⟨taken, seen⟩ := StepSystem.observing_eq_some_iff.mp stepped
  have primary :
      after.1.primaryTouchId =
        (label.touchSteps.foldl TouchStep.apply read.1).primaryTouchId := by
    cases label with
    | motion event =>
        simp only [step?, Option.some.injEq] at taken
        rw [← taken, MotionEvent.drainMotion_eq_foldl]
        rfl
    | frame =>
        simp only [step?, Option.some.injEq] at taken
        rw [← taken]
        rfl
  rw [primary, seen]
  exact following.along label.touchSteps

/-- From a followed state on, what holds exactly until a touch is mistaken. -/
theorem always_wellBracketed_iff
    {holder : Option TouchKey}
    {read : AndroidInput Pos × PressReader}
    (following : Following holder read.1.primaryTouchId read.2)
    (labels : List (InputStep Pos)) :
    StepSystem.Always (StepSystem.observing step? observe) WellBracketed
        read labels ↔
      SameDeviceAlong holder (labels.flatMap touchSteps) := by
  induction labels generalizing holder read with
  | nil =>
      exact iff_of_true following.agrees trivial
  | cons label rest inductionHypothesis =>
      rw [List.flatMap_cons, sameDeviceAlong_append]
      constructor
      · intro always
        obtain ⟨after, stepped⟩ :
            ∃ after,
              StepSystem.observing step? observe read label =
                some after := by
          cases label <;> exact ⟨_, rfl⟩
        have later := always.2 after stepped
        rcases following_observe following stepped with
          ⟨same, follows⟩ | ⟨_, broken⟩
        · exact ⟨same, (inductionHypothesis follows).mp later⟩
        · have agrees : after.2.Agrees after.1.primaryTouchId := later.head
          rw [broken] at agrees
          cases agrees
      · rintro ⟨same, along⟩
        refine ⟨following.agrees, fun after stepped => ?_⟩
        rcases following_observe following stepped with
          ⟨_, follows⟩ | ⟨mistaken, _⟩
        · exact (inductionHypothesis follows).mpr along
        · exact absurd same mistaken

/--
The emitted events are well bracketed along exactly those runs in which no
other device uses the pointer id of the touch that holds the press.
-/
theorem wellBracketed_iff_sameDevice (labels : List (InputStep Pos)) :
    StepSystem.Always (StepSystem.observing step? observe) WellBracketed
        (.initial, .idle) labels ↔
      SameDeviceAlong none (labels.flatMap touchSteps) :=
  always_wellBracketed_iff Following.idle labels

/-- A motion event of one finger. -/
def oneFinger
    (deviceId pointerId : Int)
    (action : MotionAction)
    (pos : Pos) : InputStep Pos :=
  .motion ⟨deviceId, action, [⟨pointerId, pos⟩], ⟨0, Nat.one_pos⟩⟩

/-- Device 1 presses, and device 2 lifts its finger with the same id. -/
def sameIdRun : List (InputStep (Nat × Nat)) :=
  [oneFinger 1 0 .down (10, 20), oneFinger 2 0 .down (300, 400),
    oneFinger 2 0 .up (300, 400)]

/-- The release comes from the wrong device. -/
theorem sameIdRun_notWellBracketed :
    ¬ StepSystem.Always (StepSystem.observing step? observe) WellBracketed
      (.initial, .idle) sameIdRun := by
  intro always
  have reached :
      (StepSystem.run? (StepSystem.observing step? observe)
          (.initial, .idle) sameIdRun).map Prod.snd =
        some .broken := by
    decide
  obtain ⟨final, returned, broken⟩ := Option.map_eq_some_iff.mp reached
  have agrees : final.2.Agrees final.1.primaryTouchId :=
    always.last returned
  rw [broken] at agrees
  cases agrees

end InputStep

end Waker
