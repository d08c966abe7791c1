import Waker.AndroidMainLoop

namespace Waker

/-!
# The soft keyboard

What the frames ask of the keyboard.  It is shown when the focus comes to a
field, shown again when that field is clicked, and hidden when a tap takes the
focus away; and after a painted frame with a focused field, the state last
exchanged with Android is that of the field.
-/

/-- What a frame asks of the keyboard, and when. -/
structure MainFrame.Attentive
    {Pos : Type}
    (frame : MainFrame Pos) : Prop where
  shows :
    .showSoftInput true ∈ frame.calls ↔
      frame.painted = true ∧
      ∃ snapshot,
        frame.captured = some snapshot ∧
        frame.keyboard ≠ some snapshot.field
  reopens :
    .showSoftInput false ∈ frame.calls ↔
      frame.painted = true ∧
      ∃ snapshot,
        frame.captured = some snapshot ∧
        frame.keyboard = some snapshot.field ∧
        snapshot.clicked = true
  hides :
    .hideSoftInput ∈ frame.calls ↔
      frame.painted = true ∧
      frame.captured = none ∧
      frame.keyboard ≠ none ∧
      frame.events.any EguiEvent.isPress = true

/-- The field, the keyboard and the state last exchanged belong together. -/
structure InStep
    {Pos Textures : Type}
    (main : AndroidMainLoop Pos Textures)
    (ledger : MainLedger Pos)
    (snapshot : AndroidTextInputSnapshot) : Prop where
  keyboard : ledger.keyboard = some snapshot.field
  exchanged :
    ledger.exchanged =
      some (snapshot.text, AndroidIme.snapshotSelection snapshot)
  text : main.adapter.app.texts snapshot.field = snapshot.text

/--
Every frame asks of the keyboard what the focus and the taps call for, and a
field that a painted frame has captured is in step with Android until the next
text state or frame.
-/
structure KeyboardInStep
    {Pos Textures : Type}
    (observed : AndroidMainLoop Pos Textures × MainLedger Pos) : Prop where
  attentive : ∀ frame ∈ observed.2.frames, frame.Attentive
  inStep :
    ∀ snapshot,
      observed.2.settled = some snapshot →
      InStep observed.1 observed.2 snapshot

namespace AndroidIme

variable {ime : AndroidIme}
variable {snapshot : AndroidTextInputSnapshot}

/-- After an update the adapter knows for which field the keyboard is. -/
theorem field_update
    (ime : AndroidIme)
    (captured : Option AndroidTextInputSnapshot)
    (userTapped : Bool) :
    (ime.update captured userTapped).1.field =
      (ime.update captured userTapped).2.foldl
        (ImeCall.keyboardAfter captured) ime.field := by
  cases captured with
  | none =>
      unfold update
      by_cases hides : userTapped && ime.field.isSome
      · simp [hides, ImeCall.keyboardAfter]
      · simp [hides]
  | some snapshot =>
      cases changed : ime.changedState snapshot <;>
        cases moved : ime.changedField snapshot <;>
          cases clicked : snapshot.clicked <;>
            simp_all [update, ImeCall.keyboardAfter, changedField]

/-- After an update with a focused field the keyboard is for that field. -/
theorem field_update_some
    (ime : AndroidIme)
    (snapshot : AndroidTextInputSnapshot)
    (userTapped : Bool) :
    (ime.update (some snapshot) userTapped).1.field =
      some snapshot.field := by
  cases changed : ime.changedState snapshot <;> simp [update, changed]

/-- The calls of an update with a focused field. -/
theorem mem_update_some
    (ime : AndroidIme)
    (snapshot : AndroidTextInputSnapshot)
    (userTapped : Bool)
    (call : ImeCall) :
    call ∈ (ime.update (some snapshot) userTapped).2 ↔
      (ime.changedState snapshot = true ∧
        call = .setTextInputState
          ⟨snapshot.text, snapshotSelection snapshot, none⟩) ∨
      (ime.changedField snapshot = true ∧
        (call = .setImeEditorInfo ∨ call = .showSoftInput true)) ∨
      (ime.changedField snapshot = false ∧
        snapshot.clicked = true ∧
        call = .showSoftInput false) := by
  cases changed : ime.changedState snapshot <;>
    cases moved : ime.changedField snapshot <;>
      cases clicked : snapshot.clicked <;>
        simp [update, changed, moved, clicked]

/-- The keyboard is shown when another field has come into focus. -/
theorem shows_update
    (ime : AndroidIme)
    (captured : Option AndroidTextInputSnapshot)
    (userTapped : Bool) :
    .showSoftInput true ∈ (ime.update captured userTapped).2 ↔
      ∃ snapshot,
        captured = some snapshot ∧ ime.field ≠ some snapshot.field := by
  cases captured with
  | none =>
      unfold update
      by_cases hides : userTapped && ime.field.isSome <;> simp [hides]
  | some snapshot =>
      rw [mem_update_some]
      simp [changedField]

/-- The keyboard is shown again when the focused field is clicked. -/
theorem reopens_update
    (ime : AndroidIme)
    (captured : Option AndroidTextInputSnapshot)
    (userTapped : Bool) :
    .showSoftInput false ∈ (ime.update captured userTapped).2 ↔
      ∃ snapshot,
        captured = some snapshot ∧
        ime.field = some snapshot.field ∧
        snapshot.clicked = true := by
  cases captured with
  | none =>
      unfold update
      by_cases hides : userTapped && ime.field.isSome <;> simp [hides]
  | some snapshot =>
      rw [mem_update_some]
      simp [changedField]

/-- The keyboard is hidden when a tap has taken the focus away. -/
theorem hides_update
    (ime : AndroidIme)
    (captured : Option AndroidTextInputSnapshot)
    (userTapped : Bool) :
    .hideSoftInput ∈ (ime.update captured userTapped).2 ↔
      captured = none ∧ ime.field ≠ none ∧ userTapped = true := by
  cases captured with
  | none =>
      unfold update
      cases field : ime.field <;> cases userTapped <;> simp
  | some snapshot =>
      rw [mem_update_some]
      simp

/-- The adapter forgets what was exchanged, or remembers the last state. -/
def Remembers
    (ime : AndroidIme)
    (exchanged : Option Exchanged) : Prop :=
  (ime.text = none ∧ ime.selection = none) ∨
    (ime.text = exchanged.map (·.1) ∧ ime.selection = exchanged.map (·.2))

/-- An update hands a state to Android exactly when it has changed. -/
theorem latest_update
    (ime : AndroidIme)
    (snapshot : AndroidTextInputSnapshot)
    (userTapped : Bool) :
    Latest.latest ImeCall.exchanged?
        (ime.update (some snapshot) userTapped).2 =
      if ime.changedState snapshot then
        some (snapshot.text, snapshotSelection snapshot)
      else
        none := by
  cases changed : ime.changedState snapshot <;>
    cases moved : ime.changedField snapshot <;>
      cases clicked : snapshot.clicked <;>
        simp [update, changed, moved, clicked, ImeCall.exchanged?]

/-- A state that has not changed is the one last exchanged. -/
theorem Remembers.eq_some
    {exchanged : Option Exchanged}
    (remembers : ime.Remembers exchanged)
    (unchanged : ime.changedState snapshot = false) :
    exchanged = some (snapshot.text, snapshotSelection snapshot) := by
  simp only [changedState, Bool.or_eq_false_iff, bne_eq_false_iff_eq]
    at unchanged
  obtain ⟨⟨_, text⟩, selection⟩ := unchanged
  rcases remembers with ⟨forgotten, _⟩ | ⟨sameText, sameSelection⟩
  · rw [forgotten] at text
    cases text
  · cases exchanged with
    | none =>
        rw [sameText] at text
        cases text
    | some state =>
        rw [sameText] at text
        rw [sameSelection] at selection
        exact congrArg some
          (Prod.ext (Option.some.inj text) (Option.some.inj selection))

/-- After an update the focused field is the state last exchanged. -/
theorem exchanged_update
    {exchanged : Option Exchanged}
    (remembers : ime.Remembers exchanged)
    (snapshot : AndroidTextInputSnapshot)
    (userTapped : Bool) :
    (Latest.latest ImeCall.exchanged?
        (ime.update (some snapshot) userTapped).2).or exchanged =
      some (snapshot.text, snapshotSelection snapshot) := by
  rw [latest_update]
  cases changed : ime.changedState snapshot with
  | true =>
      rfl
  | false =>
      exact remembers.eq_some changed

/-- An update leaves the adapter with what was last exchanged. -/
theorem remembers_update
    {exchanged : Option Exchanged}
    (remembers : ime.Remembers exchanged)
    (captured : Option AndroidTextInputSnapshot)
    (userTapped : Bool) :
    (ime.update captured userTapped).1.Remembers
      ((Latest.latest ImeCall.exchanged?
        (ime.update captured userTapped).2).or exchanged) := by
  cases captured with
  | none =>
      unfold update
      by_cases hides : userTapped && ime.field.isSome
      · simp only [hides, if_true]
        exact .inl ⟨rfl, rfl⟩
      · simp only [hides, Bool.false_eq_true, if_false]
        exact remembers
  | some snapshot =>
      rw [exchanged_update remembers]
      cases changed : ime.changedState snapshot with
      | true =>
          rw [update_of_changedState changed]
          exact .inr ⟨rfl, rfl⟩
      | false =>
          rw [update_of_not_changedState changed,
            ← remembers.eq_some changed]
          exact remembers

end AndroidIme

namespace AndroidAdapter

variable {Pos : Type}

/-- Draining brings the last text state from Android, if there is any. -/
structure Accepts
    (accepted : Option Exchanged)
    (before after : AndroidAdapter Pos) : Prop where
  field : after.ime.field = before.ime.field
  none : accepted = none → after.ime = before.ime ∧ after.app = before.app
  some :
    ∀ state,
      accepted = some state →
      after.ime.text = some state.1 ∧ after.ime.selection = some state.2

/-- Of two text states the later one counts. -/
theorem Accepts.trans
    {first second : Option Exchanged}
    {before between after : AndroidAdapter Pos}
    (one : Accepts first before between)
    (two : Accepts second between after) :
    Accepts (second.or first) before after where
  field := two.field.trans one.field
  none nothing := by
    obtain ⟨noSecond, noFirst⟩ := Option.or_eq_none_iff.mp nothing
    obtain ⟨laterIme, laterApp⟩ := two.none noSecond
    obtain ⟨earlierIme, earlierApp⟩ := one.none noFirst
    exact ⟨laterIme.trans earlierIme, laterApp.trans earlierApp⟩
  some state last := by
    cases second with
    | none =>
        rw [(two.none rfl).1]
        exact one.some state last
    | some later =>
        exact two.some state last

/-- What draining one event does to the text adapter. -/
theorem accepts_drainEvent
    (platform : KeyPlatform)
    (event : InputEvent Pos)
    (adapter : AndroidAdapter Pos) :
    Accepts event.exchanged? adapter
      (adapter.drainEvent platform event).1 := by
  cases event with
  | textEvent state =>
      refine ⟨rfl, nofun, fun found same => ?_⟩
      cases same
      exact ⟨rfl, rfl⟩
  | _ =>
      exact ⟨rfl, fun _ => ⟨rfl, rfl⟩, nofun⟩

/-- What draining does to the text adapter. -/
theorem accepts_drainInput
    (platform : KeyPlatform)
    (events : Option (List (InputEvent Pos)))
    (adapter : AndroidAdapter Pos) :
    Accepts (Latest.latest InputEvent.exchanged? (events.getD [])) adapter
      (adapter.drainInput platform events) := by
  rw [drainInput]
  induction events.getD [] generalizing adapter with
  | nil =>
      refine ⟨rfl, fun _ => ⟨rfl, rfl⟩, ?_⟩
      intro _ found
      cases found
  | cons event rest inductionHypothesis =>
      rw [Latest.latest_cons, List.foldl_cons]
      exact (accepts_drainEvent platform event adapter).trans
        (inductionHypothesis (adapter.drainEvent platform event).1)

end AndroidAdapter

namespace AndroidMainLoop

variable {Pos TextureId ImageDelta Textures : Type}
variable {renderer : Renderer TextureId ImageDelta Textures}
variable {platform : KeyPlatform}
variable {main after : AndroidMainLoop Pos Textures}
variable {ledger : MainLedger Pos}

/-- What a frame captures is what it leaves in the field. -/
theorem texts_render
    [EguiCursor]
    {frame : ImeFrame}
    {snapshot : AndroidTextInputSnapshot}
    (captured :
      (main.render frame).1.androidTextInput = some snapshot) :
    (main.render frame).1.texts snapshot.field = snapshot.text := by
  cases focus : frame.shownFocus with
  | none =>
      rw [render, ImeFrame.androidTextInput_renderSettings focus] at captured
      cases captured
  | some field =>
      have found :=
        ImeFrame.captured_renderSettings focus main.adapter.app main.cursors
      rw [render, found.androidTextInput] at captured
      cases captured
      exact found.texts

/-- What carries the main result from one step to the next. -/
structure KeepsInStep
    (main : AndroidMainLoop Pos Textures)
    (ledger : MainLedger Pos) : Prop where
  noted : main.adapter.input.Tapped
  field : main.adapter.ime.field = ledger.keyboard
  remembers : main.adapter.ime.Remembers ledger.exchanged
  inStep : KeyboardInStep (main, ledger)

/-- At first no field is focused and nothing was exchanged. -/
theorem KeepsInStep.initial
    (now : Instant)
    (texts : AndroidTextField → List Char)
    (cursors : StoredCursors) :
    KeepsInStep
      (initial now texts cursors : AndroidMainLoop Pos Textures)
      .empty where
  noted := rfl
  field := rfl
  remembers := .inl ⟨rfl, rfl⟩
  inStep := {
    attentive := fun frame member => by cases member
    inStep := fun snapshot settled => by cases settled
  }

/-- A step of the loop alone keeps the keyboard in step. -/
theorem KeepsInStep.loopOnly
    (keeps : main.KeepsInStep ledger)
    (loop : AndroidLoop Textures)
    (repaint : RepaintLedger) :
    KeepsInStep { main with loop := loop }
      { ledger with repaint := repaint } where
  noted := keeps.noted
  field := keeps.field
  remembers := keeps.remembers
  inStep := {
    attentive := keeps.inStep.attentive
    inStep := fun snapshot settled =>
      let inStep := keeps.inStep.inStep snapshot settled
      ⟨inStep.keyboard, inStep.exchanged, inStep.text⟩
  }

/-- Draining the input keeps the keyboard in step. -/
theorem KeepsInStep.drainInput
    (keeps : main.KeepsInStep ledger)
    (platform : KeyPlatform)
    (events : Option (List (InputEvent Pos)))
    (now : Instant) :
    KeepsInStep
      { main with adapter := main.adapter.drainInput platform events }
      (ledger.drain (events.getD []) now) := by
  have accepts := main.adapter.accepts_drainInput platform events
  obtain ⟨_, _, noted⟩ :=
    InputState.drainAll_spec platform main.adapter.input (events.getD [])
  have drained := main.adapter.input_drainInput platform events
  refine {
    noted := by
      rw [drained]
      exact noted keeps.noted
    field := accepts.field.trans keeps.field
    remembers := ?_
    inStep := ⟨keeps.inStep.attentive, fun snapshot settled => ?_⟩
  }
  · cases accepted :
        Latest.latest InputEvent.exchanged? (events.getD []) with
    | none =>
        simp only [MainLedger.drain, accepted, Option.none_or,
          (accepts.none accepted).1]
        exact keeps.remembers
    | some state =>
        simp only [MainLedger.drain, accepted, Option.some_or]
        exact .inr (accepts.some state accepted)
  · cases accepted :
        Latest.latest InputEvent.exchanged? (events.getD []) with
    | none =>
        simp only [MainLedger.drain, accepted, Option.isSome_none,
          Bool.false_eq_true, if_false] at settled
        have inStep := keeps.inStep.inStep snapshot settled
        exact {
          keyboard := inStep.keyboard
          exchanged := by
            simp only [MainLedger.drain, accepted, Option.none_or]
            exact inStep.exchanged
          text := by
            simp only [(accepts.none accepted).2]
            exact inStep.text
        }
    | some state =>
        simp [MainLedger.drain, accepted] at settled

/-- A frame asks of the keyboard what the focus and the taps call for. -/
theorem KeepsInStep.attentive
    [EguiCursor]
    (keeps : main.KeepsInStep ledger)
    {frame : ImeFrame}
    (tapped :
      frame.userTapped = main.adapter.input.primaryPointerPressed) :
    (ledger.record frame main).Attentive := by
  cases painted : frame.painted with
  | false =>
      have silent : (main.platformOutput frame).2 = [] := by
        simp [platformOutput, painted]
      exact {
        shows := by simp [MainLedger.record, silent, painted]
        reopens := by simp [MainLedger.record, silent, painted]
        hides := by simp [MainLedger.record, silent, painted]
      }
  | true =>
      have calls :
          (main.platformOutput frame).2 =
            (main.adapter.ime.update (main.render frame).1.androidTextInput
              frame.userTapped).2 := by
        simp [platformOutput, painted]
      have press :
          frame.userTapped =
            main.adapter.input.events.any EguiEvent.isPress :=
        tapped.trans keeps.noted
      refine ⟨?_, ?_, ?_⟩
      · simp only [MainLedger.record, calls, AndroidIme.shows_update,
          keeps.field, painted, true_and]
      · simp only [MainLedger.record, calls, AndroidIme.reopens_update,
          keeps.field, painted, true_and]
      · simp only [MainLedger.record, calls, AndroidIme.hides_update,
          keeps.field, painted, true_and, press]

/-- A frame keeps the keyboard in step. -/
theorem KeepsInStep.runFrame
    [EguiCursor]
    (keeps : main.KeepsInStep ledger)
    {frame : ImeFrame}
    (tapped :
      frame.userTapped = main.adapter.input.primaryPointerPressed) :
    KeepsInStep (main.runFrame frame)
      (ledger.run (ledger.record frame main)) := by
  have attentive :
      ∀ other ∈ (ledger.run (ledger.record frame main)).frames,
        other.Attentive := by
    intro other member
    rcases List.mem_append.mp member with earlier | last
    · exact keeps.inStep.attentive other earlier
    · rw [List.mem_singleton.mp last]
      exact keeps.attentive tapped
  cases painted : frame.painted with
  | false =>
      have output :
          main.platformOutput frame = (main.adapter.ime, []) := by
        simp [platformOutput, painted]
      exact {
        noted := rfl
        field := by
          simp only [AndroidMainLoop.runFrame, MainLedger.run,
            MainLedger.record, output, List.foldl_nil]
          exact keeps.field
        remembers := by
          simp only [AndroidMainLoop.runFrame, MainLedger.run,
            MainLedger.record, output, Latest.latest_nil, Option.none_or]
          exact keeps.remembers
        inStep := ⟨attentive, fun snapshot settled => by
          simp [MainLedger.run, MainLedger.record, painted] at settled⟩
      }
  | true =>
      have output :
          main.platformOutput frame =
            main.adapter.ime.update (main.render frame).1.androidTextInput
              frame.userTapped := by
        simp [platformOutput, painted]
      have field := main.adapter.ime.field_update
        (main.render frame).1.androidTextInput frame.userTapped
      rw [keeps.field] at field
      refine {
        noted := rfl
        field := by
          simp only [AndroidMainLoop.runFrame, MainLedger.run,
            MainLedger.record, output]
          exact field
        remembers := by
          simp only [AndroidMainLoop.runFrame, MainLedger.run,
            MainLedger.record, output]
          exact AndroidIme.remembers_update keeps.remembers _ _
        inStep := ⟨attentive, fun snapshot settled => ?_⟩
      }
      simp only [MainLedger.run, MainLedger.record, painted, if_true]
        at settled
      exact {
        keyboard := by
          simp only [MainLedger.run, MainLedger.record, output]
          rw [← field, settled]
          exact AndroidIme.field_update_some _ snapshot _
        exchanged := by
          simp only [MainLedger.run, MainLedger.record, output, settled]
          exact AndroidIme.exchanged_update keeps.remembers snapshot _
        text := texts_render settled
      }

/-- Every step keeps the keyboard in step. -/
theorem KeepsInStep.step
    [EguiCursor]
    (keeps : main.KeepsInStep ledger)
    {label : MainStep Pos TextureId ImageDelta}
    (stepped : main.step? renderer platform label = some after) :
    KeepsInStep after (ledger.observe renderer main label) := by
  obtain ⟨loop, taken, rfl⟩ := Option.map_eq_some_iff.mp stepped
  cases label with
  | drainInput events now =>
      cases drains : main.drains with
      | true =>
          simp only [adapt, MainLedger.observe, drains, if_true]
          have drained :=
            (keeps.loopOnly main.loop ledger.repaint).drainInput
              platform events now
          exact drained.loopOnly loop _
      | false =>
          simp only [adapt, MainLedger.observe, drains, Bool.false_eq_true,
            if_false]
          exact keeps.loopOnly loop _
  | frame delta current answers shown =>
      exact ((keeps.loopOnly main.loop _).runFrame rfl).loopOnly loop _
  | _ =>
      exact keeps.loopOnly loop _

/-- In every run of the main loop the keyboard is in step. -/
theorem softKeyboard_always
    [EguiCursor]
    (renderer : Renderer TextureId ImageDelta Textures)
    (platform : KeyPlatform)
    (now : Instant)
    (texts : AndroidTextField → List Char)
    (cursors : StoredCursors)
    (labels : List (MainStep Pos TextureId ImageDelta)) :
    StepSystem.Always
      (StepSystem.observing (step? renderer platform)
        (MainLedger.observe renderer))
      KeyboardInStep (initial now texts cursors, .empty) labels := by
  have preserved
      (observed : AndroidMainLoop Pos Textures × MainLedger Pos)
      (label : MainStep Pos TextureId ImageDelta)
      (after : AndroidMainLoop Pos Textures × MainLedger Pos)
      (keeps : observed.1.KeepsInStep observed.2)
      (stepped :
        StepSystem.observing (step? renderer platform)
            (MainLedger.observe renderer) observed label =
          some after) :
      after.1.KeepsInStep after.2 := by
    obtain ⟨taken, seen⟩ := StepSystem.observing_eq_some_iff.mp stepped
    rw [seen]
    exact keeps.step taken
  exact StepSystem.always_of_invariant preserved
    (fun _ keeps => keeps.inStep) (KeepsInStep.initial now texts cursors)
    labels

end AndroidMainLoop

end Waker
