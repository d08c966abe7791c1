import Waker.AndroidIme
import Waker.TouchBracket

namespace Waker

/-!
# Draining the input on Android

`drain_input` turns motion events, key events and text actions into egui events
and hands text states to the app at once.  A dead key is kept until a character
follows.  Which characters a key board has, how it combines accents, and which
characters egui has key names for are parameters.
-/

/-- What a key event reports. -/
inductive KeyAction where
  | down
  | up
  | multiple
  deriving Repr, DecidableEq

/-- The modifier keys of a key event. -/
structure MetaState where
  altOn : Bool
  ctrlOn : Bool
  shiftOn : Bool
  others : Nat
  deriving Repr, DecidableEq

/-- The key codes that the adapter knows, and all others by their number. -/
inductive Keycode where
  | back
  | dpadUp
  | dpadDown
  | dpadLeft
  | dpadRight
  | escape
  | tab
  | enter
  | numpadEnter
  | space
  | del
  | forwardDel
  | moveHome
  | moveEnd
  | pageUp
  | pageDown
  | other (code : Nat)
  deriving Repr, DecidableEq

/-- The egui keys that the adapter names, and all others by their name. -/
inductive Key where
  | arrowUp
  | arrowDown
  | arrowLeft
  | arrowRight
  | escape
  | tab
  | enter
  | space
  | backspace
  | delete
  | home
  | endKey
  | pageUp
  | pageDown
  | other (name : String)
  deriving Repr, DecidableEq

/-- A key event. -/
structure KeyEvent where
  deviceId : Int
  keyCode : Keycode
  metaState : MetaState
  action : KeyAction
  repeatCount : Int
  deriving Repr, DecidableEq

/-- What a key stands for on its key board. -/
inductive KeyMapChar where
  | none
  | unicode (char : Char)
  | combiningAccent (accent : Char)
  deriving Repr, DecidableEq

/-- The key boards of the device, and the names that egui has for keys. -/
structure KeyPlatform where
  Map : Type
  deviceKeyCharacterMap : Int → Except String Map
  get : Map → Keycode → MetaState → Except String KeyMapChar
  getDeadChar : Map → Char → Char → Except String (Option Char)
  keyFromName : Char → Option Key

/-- An input event of the activity. -/
inductive InputEvent (Pos : Type) where
  | motionEvent (event : MotionEvent Pos)
  | keyEvent (event : KeyEvent)
  | textEvent (state : TextInputState)
  | textAction
  | other

/-- Whether the activity has handled an event. -/
inductive InputStatus where
  | handled
  | unhandled
  deriving Repr, DecidableEq

/-- The egui events that the adapter emits. -/
inductive EguiEvent (Pos : Type) where
  | pointer (event : PointerEvent Pos)
  | modifiersChanged (modifiers : Modifiers)
  | key (key : Key) (pressed repeated : Bool) (modifiers : Modifiers)
  | text (text : List Char)
  deriving Repr, DecidableEq

/-- The input state of the adapter with its keys. -/
structure InputState (Pos : Type) where
  events : List (EguiEvent Pos)
  primaryTouchId : Option Int
  modifiers : Modifiers
  combiningAccent : Option Char
  primaryPointerPressed : Bool

/-- `char::is_control`. -/
def isControl (char : Char) : Bool :=
  char.toNat < 0x20 || (0x7f ≤ char.toNat && char.toNat < 0xa0)

/-- The modifiers of a key event. -/
def modifiersOf (metaState : MetaState) : Modifiers where
  alt := metaState.altOn
  ctrl := metaState.ctrlOn
  shift := metaState.shiftOn
  macCmd := false
  command := metaState.ctrlOn

/-- `egui_key`. -/
def eguiKey : Keycode → Option Key
  | .dpadUp => some .arrowUp
  | .dpadDown => some .arrowDown
  | .dpadLeft => some .arrowLeft
  | .dpadRight => some .arrowRight
  | .escape => some .escape
  | .tab => some .tab
  | .enter | .numpadEnter => some .enter
  | .space => some .space
  | .del => some .backspace
  | .forwardDel => some .delete
  | .moveHome => some .home
  | .moveEnd => some .endKey
  | .pageUp => some .pageUp
  | .pageDown => some .pageDown
  | .back | .other _ => none

namespace KeyPlatform

variable (platform : KeyPlatform)

/-- What a key stands for; keys without a device stand for nothing. -/
def lookUp (event : KeyEvent) : Except String KeyMapChar :=
  if event.deviceId = 0 then
    .ok .none
  else
    match platform.deviceKeyCharacterMap event.deviceId with
    | .error _ => .ok .none
    | .ok map => platform.get map event.keyCode event.metaState

/-- A character with the accent before it, if they combine. -/
def combine
    (event : KeyEvent)
    (accent : Option Char)
    (char : Char) : Char :=
  match accent, platform.deviceKeyCharacterMap event.deviceId with
  | some accent, .ok map =>
      match platform.getDeadChar map accent char with
      | .ok (some combined) => combined
      | .ok none | .error _ => char
  | _, _ => char

/-- `key_map_character`: the character of an event and the accent kept. -/
def keyMapCharacter
    (event : KeyEvent)
    (combiningAccent : Option Char) : Option Char × Option Char :=
  match platform.lookUp event with
  | .ok (.unicode char) =>
      if event.action = .down then
        (some (platform.combine event combiningAccent char), none)
      else
        (some char, combiningAccent)
  | .ok (.combiningAccent accent) =>
      (none,
        if event.action = .down then some accent else combiningAccent)
  | .ok .none => (none, combiningAccent)
  | .error _ => (none, none)

end KeyPlatform

namespace InputState

variable {Pos : Type}

/-- Nothing is touched and no key was pressed. -/
def initial : InputState Pos where
  events := []
  primaryTouchId := none
  modifiers := .none
  combiningAccent := none
  primaryPointerPressed := false

/-- Hand an event to egui with the next frame. -/
def push (event : EguiEvent Pos) (input : InputState Pos) : InputState Pos :=
  { input with events := input.events ++ [event] }

/-- The part of the state that motion events touch. -/
def touches (input : InputState Pos) : AndroidInput Pos where
  events := []
  primaryTouchId := input.primaryTouchId
  modifiers := input.modifiers
  primaryPointerPressed := input.primaryPointerPressed

/-- What `drain_input` does with a motion event. -/
def drainMotion
    (event : MotionEvent Pos)
    (input : InputState Pos) : InputState Pos :=
  let touches := input.touches.drainMotion event
  { input with
    events := input.events ++ touches.events.map .pointer
    primaryTouchId := touches.primaryTouchId
    primaryPointerPressed := touches.primaryPointerPressed }

/-- The key of an event. -/
def keyOf
    (platform : KeyPlatform)
    (event : KeyEvent)
    (mappedCharacter : Option Char) : Option Key :=
  (eguiKey event.keyCode).or (mappedCharacter.bind platform.keyFromName)

/-- The text of an event. -/
def textOf
    (event : KeyEvent)
    (modifiers : Modifiers)
    (mappedCharacter : Option Char) : List Char :=
  if
      event.action = .down && !modifiers.ctrl && !modifiers.command &&
        !modifiers.macCmd then
    mappedCharacter.toList.filter fun char => !isControl char
  else
    []

/-- What `drain_input` does with a key event. -/
def drainKey
    (platform : KeyPlatform)
    (event : KeyEvent)
    (input : InputState Pos) : InputState Pos × InputStatus :=
  if event.keyCode = .back then
    (input, .unhandled)
  else
    let modifiers := modifiersOf event.metaState
    let (mappedCharacter, combiningAccent) :=
      platform.keyMapCharacter event input.combiningAccent
    let key := keyOf platform event mappedCharacter
    let pressed : Bool := event.action = .down
    let keyEvents : List (EguiEvent Pos) :=
      key.toList.map fun key =>
        .key key pressed (pressed && 0 < event.repeatCount) modifiers
    let textEvents : List (EguiEvent Pos) :=
      (textOf event modifiers mappedCharacter).map fun char => .text [char]
    ({ input with
        modifiers := modifiers
        combiningAccent := combiningAccent
        events :=
          input.events ++
            .modifiersChanged modifiers :: (keyEvents ++ textEvents) },
      if key.isSome || mappedCharacter.isSome then .handled else .unhandled)

/-- What `drain_input` does with a text action. -/
def drainTextAction (input : InputState Pos) : InputState Pos :=
  (input.push (.key .enter true false input.modifiers)).push
    (.key .enter false false input.modifiers)

/-- What `drain_input` does to the input state with an event. -/
def drain
    (platform : KeyPlatform)
    (input : InputState Pos) :
    InputEvent Pos → InputState Pos × InputStatus
  | .motionEvent event => (input.drainMotion event, .handled)
  | .keyEvent event => input.drainKey platform event
  | .textEvent _ => (input, .handled)
  | .textAction => (input.drainTextAction, .handled)
  | .other => (input, .unhandled)

/-- What `make_raw_input` and the main loop take for a frame. -/
def takeFrame (input : InputState Pos) : InputState Pos :=
  { input with events := [], primaryPointerPressed := false }

end InputState

/-- The input state, the text adapter and the app that texts reach. -/
structure AndroidAdapter (Pos : Type) where
  input : InputState Pos
  ime : AndroidIme
  app : TextInputApp

namespace AndroidAdapter

variable {Pos : Type}

/-- What `drain_input` does with a text state. -/
def drainText
    (state : TextInputState)
    (adapter : AndroidAdapter Pos) : AndroidAdapter Pos :=
  { adapter with
    ime := adapter.ime.acceptTextState state
    app :=
      adapter.app.applyAndroidTextInputState state.text
        (utf16IndexToChar state.text state.selection.1)
        (utf16IndexToChar state.text state.selection.2) }

/-- What `drain_input` does with one event. -/
def drainEvent
    (platform : KeyPlatform)
    (adapter : AndroidAdapter Pos)
    (event : InputEvent Pos) : AndroidAdapter Pos × InputStatus :=
  let drained := adapter.input.drain platform event
  let adapter := { adapter with input := drained.1 }
  match event with
  | .textEvent state => (adapter.drainText state, drained.2)
  | _ => (adapter, drained.2)

/-- `drain_input`, with the events that it finds if it can look for any. -/
def drainInput
    (platform : KeyPlatform)
    (events : Option (List (InputEvent Pos)))
    (adapter : AndroidAdapter Pos) : AndroidAdapter Pos :=
  (events.getD []).foldl
    (fun adapter event => (adapter.drainEvent platform event).1) adapter

end AndroidAdapter

end Waker
