import Waker.AndroidGpu
import Waker.StepSystem
import Waker.WakeState

namespace Waker

/-!
# The repaint slot on Android

All repaint requests share one slot that keeps the earliest deadline.  The main
loop takes the slot when it is due, also in iterations in which there is no
surface and no frame can run, and a window event that gives the surface its
dimensions fills it again.  An observer keeps the requests that no frame has
followed yet.
-/

/-- A call of `request`: when it read the clock, and its delay. -/
structure RepaintRequest where
  time : Instant
  delay : Duration
  deriving Repr, DecidableEq

/-- The slot of the earliest deadline. -/
structure RepaintSignal where
  deadline : Option Instant
  deriving Repr, DecidableEq

namespace RepaintSignal

/-- At first a frame is due at once. -/
def new (now : Instant) : RepaintSignal where
  deadline := some now

/-- The instant a request asks for. -/
def deadlineOf (request : RepaintRequest) : Instant :=
  request.time + request.delay

/-- Keep the earlier deadline. -/
def request
    (request : RepaintRequest)
    (signal : RepaintSignal) : RepaintSignal :=
  let deadline := deadlineOf request
  if signal.deadline.all fun value => deadline < value then
    ⟨some deadline⟩
  else
    signal

/-- How long the loop may wait for an event. -/
def timeout (now : Instant) (signal : RepaintSignal) : Option Duration :=
  signal.deadline.map fun value => value.durationSince now

/-- Take a deadline that has come. -/
def takeIfDue (now : Instant) (signal : RepaintSignal) : Bool × RepaintSignal :=
  if signal.deadline.any fun value => value ≤ now then
    (true, ⟨none⟩)
  else
    (false, signal)

/-- The slot holds a deadline no later than an instant. -/
def DueBy (signal : RepaintSignal) (instant : Instant) : Prop :=
  ∃ deadline, signal.deadline = some deadline ∧ deadline ≤ instant

section DueBy

variable {signal : RepaintSignal}
variable {earlier later : Instant}

/-- What is due by an instant is due by a later one. -/
theorem DueBy.mono
    (due : signal.DueBy earlier)
    (ordered : earlier ≤ later) :
    signal.DueBy later := by
  obtain ⟨deadline, isSet, inTime⟩ := due
  exact ⟨deadline, isSet, Nat.le_trans inTime ordered⟩

/-- A request is due by its own deadline. -/
theorem dueBy_request
    (request : RepaintRequest)
    (signal : RepaintSignal) :
    (signal.request request).DueBy (deadlineOf request) := by
  cases isSet : signal.deadline with
  | none =>
      exact ⟨deadlineOf request, by simp [RepaintSignal.request, isSet],
        Nat.le_refl _⟩
  | some value =>
      by_cases sooner : deadlineOf request < value
      · exact ⟨deadlineOf request,
          by simp [RepaintSignal.request, isSet, sooner], Nat.le_refl _⟩
      · exact ⟨value, by simp [RepaintSignal.request, isSet, sooner],
          Nat.le_of_not_lt sooner⟩

/-- A further request puts nothing off. -/
theorem DueBy.request
    (due : signal.DueBy later)
    (request : RepaintRequest) :
    (signal.request request).DueBy later := by
  obtain ⟨value, isSet, inTime⟩ := due
  by_cases sooner : deadlineOf request < value
  · exact ⟨deadlineOf request,
      by simp [RepaintSignal.request, isSet, sooner],
      Nat.le_trans (Nat.le_of_lt sooner) inTime⟩
  · exact ⟨value, by simp [RepaintSignal.request, isSet, sooner], inTime⟩

/-- What is due by now is taken now. -/
theorem DueBy.takeIfDue
    (due : signal.DueBy later)
    {now : Instant}
    (come : later ≤ now) :
    (signal.takeIfDue now).1 = true := by
  obtain ⟨value, isSet, inTime⟩ := due
  have isDue : value ≤ now := Nat.le_trans inTime come
  simp [RepaintSignal.takeIfDue, isSet, isDue]

/-- The loop does not wait past what is due. -/
theorem DueBy.timeout
    (due : signal.DueBy later)
    (now : Instant) :
    ∃ wait,
      signal.timeout now = some wait ∧ now + wait ≤ max later now := by
  obtain ⟨value, isSet, inTime⟩ := due
  refine ⟨value.durationSince now, by rw [RepaintSignal.timeout, isSet]; rfl,
    ?_⟩
  have noLater (value later now : Nat) (inTime : value ≤ later) :
      now + (value - now) ≤ max later now := by
    omega
  exact noLater value later now inTime

/-- A slot that is not taken is unchanged. -/
theorem takeIfDue_of_false
    {now : Instant}
    (untaken : (signal.takeIfDue now).1 = false) :
    (signal.takeIfDue now).2 = signal := by
  unfold RepaintSignal.takeIfDue at untaken ⊢
  split at untaken
  · cases untaken
  · rename_i notDue
    rw [if_neg notDue]

end DueBy

end RepaintSignal

/-- What `poll_events` reports. -/
inductive PollEvent where
  | destroy
  | initWindow (answers : WindowAnswers)
  | terminateWindow
  | windowResized (answers : WindowAnswers)
  | redrawNeeded
  | contentRectChanged
  | insetsChanged
  | configChanged
  | resume
  | start
  | inputAvailable
  | gainedFocus
  | lostFocus
  | pause
  | stop
  | saveState
  | lowMemory
  | wake
  | timeout
  deriving Repr, DecidableEq

/-- What the loop does next. -/
inductive LoopPhase where
  | polling
  | taking
  | framing
  | exited
  deriving Repr, DecidableEq

/-- The main loop, and the requests that have read the clock already. -/
structure AndroidLoop (Textures : Type) where
  signal : RepaintSignal
  waiting : List RepaintRequest
  gpu : Option (AndroidGpu Textures)
  focused : Bool
  inputAvailable : Bool
  running : Bool
  phase : LoopPhase

/-- A step of a request from any thread or of the main loop. -/
inductive LoopStep (TextureId ImageDelta : Type) where
  | readClock (request : RepaintRequest)
  | lock (index : Nat)
  | poll (event : PollEvent) (now : Instant)
  | drainInput (now : Instant)
  | takeIfDue (now : Instant)
  | frame
      (delta : TexturesDelta TextureId ImageDelta)
      (current : CurrentSurfaceTexture)
      (answers : WindowAnswers)

namespace AndroidLoop

variable {TextureId ImageDelta Textures : Type}

/-- The loop before its first iteration. -/
def initial (now : Instant) : AndroidLoop Textures where
  signal := .new now
  waiting := []
  gpu := none
  focused := false
  inputAvailable := false
  running := true
  phase := .polling

/-- The size of the surface, if there is one. -/
def dimensions (loop : AndroidLoop Textures) : Option (Nat × Nat) :=
  loop.gpu.bind AndroidGpu.dimensions

/-- The loop asks for a frame at once. -/
def requestNow
    (now : Instant)
    (loop : AndroidLoop Textures) : AndroidLoop Textures :=
  { loop with signal := loop.signal.request ⟨now, 0⟩ }

/-- Handle an event of the activity. -/
def handle
    (renderer : Renderer TextureId ImageDelta Textures)
    (loop : AndroidLoop Textures)
    (now : Instant) : PollEvent → AndroidLoop Textures
  | .destroy => { loop with gpu := none, running := false }
  | .initWindow answers =>
      let gpu :=
        match loop.gpu with
        | some gpu => some (gpu.attachWindow answers).1
        | none => (AndroidGpu.new renderer answers).toOption
      { loop with gpu := gpu }.requestNow now
  | .terminateWindow =>
      { loop with gpu := loop.gpu.map AndroidGpu.detachWindow }
  | .windowResized answers =>
      let gpu := loop.gpu.map fun gpu => (gpu.resizeFromApp answers).1
      { loop with gpu := gpu }.requestNow now
  | .redrawNeeded | .contentRectChanged | .insetsChanged | .configChanged
  | .resume | .start => loop.requestNow now
  | .inputAvailable => { loop with inputAvailable := true }
  | .gainedFocus => { loop with focused := true }.requestNow now
  | .lostFocus => { loop with focused := false }.requestNow now
  | .pause | .stop | .saveState | .lowMemory | .wake | .timeout => loop

/-- The events that ask for a frame at once. -/
def requestsRepaint : PollEvent → Bool
  | .initWindow _ | .windowResized _ | .redrawNeeded | .contentRectChanged
  | .insetsChanged | .configChanged | .resume | .start | .gainedFocus
  | .lostFocus => true
  | .destroy | .terminateWindow | .inputAvailable | .pause | .stop
  | .saveState | .lowMemory | .wake | .timeout => false

/-- After an event, leave the loop or drain the input. -/
def drainInput
    (now : Instant)
    (loop : AndroidLoop Textures) : AndroidLoop Textures :=
  if loop.running then
    if loop.inputAvailable then
      { loop with inputAvailable := false, phase := .taking }.requestNow now
    else
      { loop with phase := .taking }
  else
    { loop with phase := .exited }

/-- Take the slot; a frame runs if it was due and there is a surface. -/
def takeIfDue
    (now : Instant)
    (loop : AndroidLoop Textures) : AndroidLoop Textures :=
  let taken := loop.signal.takeIfDue now
  { loop with
    signal := taken.2
    phase :=
      if taken.1 && loop.dimensions.isSome then .framing else .polling }

/-- Take a step, unless it is not possible. -/
def step?
    (renderer : Renderer TextureId ImageDelta Textures)
    (loop : AndroidLoop Textures) :
    LoopStep TextureId ImageDelta → Option (AndroidLoop Textures)
  | .readClock request =>
      some { loop with waiting := loop.waiting ++ [request] }
  | .lock index =>
      loop.waiting[index]?.map fun request =>
        { loop with
          signal := loop.signal.request request
          waiting := loop.waiting.eraseIdx index }
  | .poll event now =>
      if loop.phase = .polling then
        some (loop.handle renderer now event)
      else
        none
  | .drainInput now =>
      if loop.phase = .polling then some (loop.drainInput now) else none
  | .takeIfDue now =>
      if loop.phase = .taking then some (loop.takeIfDue now) else none
  | .frame delta current answers =>
      if loop.phase = .framing then
        some { loop with
          gpu :=
            loop.gpu.map fun gpu =>
              (gpu.paint renderer delta current answers).1
          phase := .polling }
      else
        none

end AndroidLoop

/-- The requests no frame has followed, and when the surface was got. -/
structure RepaintLedger where
  unserved : List RepaintRequest
  windowTime : Instant

namespace RepaintLedger

variable {TextureId ImageDelta Textures : Type}

/-- Nothing was requested yet. -/
def empty : RepaintLedger where
  unserved := []
  windowTime := 0

/--
Note a step: a request counts from the moment it has the lock, and a frame
that the loop begins follows everything requested before.
-/
def observe
    (renderer : Renderer TextureId ImageDelta Textures)
    (loop : AndroidLoop Textures)
    (step : LoopStep TextureId ImageDelta)
    (ledger : RepaintLedger) : RepaintLedger :=
  match step with
  | .lock index =>
      { ledger with
        unserved := ledger.unserved ++ loop.waiting[index]?.toList }
  | .poll event now =>
      let after := loop.handle renderer now event
      {
        unserved :=
          if AndroidLoop.requestsRepaint event then
            ledger.unserved ++ [⟨now, 0⟩]
          else
            ledger.unserved
        windowTime :=
          if loop.dimensions.isNone && after.dimensions.isSome then
            now
          else
            ledger.windowTime
      }
  | .drainInput now =>
      if loop.running && loop.inputAvailable then
        { ledger with unserved := ledger.unserved ++ [⟨now, 0⟩] }
      else
        ledger
  | .takeIfDue now =>
      if (loop.takeIfDue now).phase = .framing then
        { ledger with unserved := [] }
      else
        ledger
  | _ => ledger

/-- The later of a request's deadline and the time the surface was got. -/
def latest
    (ledger : RepaintLedger)
    (request : RepaintRequest) : Instant :=
  max (RepaintSignal.deadlineOf request) ledger.windowTime

end RepaintLedger

/--
While there is a surface, every request that no frame has followed is kept: the
slot is no later than its time, so the loop takes it then and waits no longer,
and a frame that the loop has begun has a surface to run on.
-/
structure NoRequestLost
    {Textures : Type}
    (observed : AndroidLoop Textures × RepaintLedger) : Prop where
  kept :
    observed.1.dimensions.isSome →
    ∀ request ∈ observed.2.unserved,
      observed.1.signal.DueBy (observed.2.latest request)
  taken :
    observed.1.dimensions.isSome →
    ∀ request ∈ observed.2.unserved,
    ∀ now,
      observed.2.latest request ≤ now →
      (observed.1.signal.takeIfDue now).1 = true
  waits :
    observed.1.dimensions.isSome →
    ∀ request ∈ observed.2.unserved,
    ∀ now,
      ∃ wait,
        observed.1.signal.timeout now = some wait ∧
        now + wait ≤ max (observed.2.latest request) now
  framed : observed.1.phase = .framing → observed.1.dimensions.isSome

namespace AndroidLoop

variable {TextureId ImageDelta Textures : Type}
variable {renderer : Renderer TextureId ImageDelta Textures}
variable {loop : AndroidLoop Textures}

/-- What an event does to the slot. -/
theorem signal_handle
    (now : Instant)
    (event : PollEvent) :
    (loop.handle renderer now event).signal =
      if requestsRepaint event then
        loop.signal.request ⟨now, 0⟩
      else
        loop.signal := by
  cases event <;> rfl

/-- An event does not move the loop on. -/
theorem phase_handle
    (now : Instant)
    (event : PollEvent) :
    (loop.handle renderer now event).phase = loop.phase := by
  cases event <;> rfl

/-- Only an event that asks for a frame can give the surface its size. -/
theorem dimensions_handle
    {now : Instant}
    {event : PollEvent}
    (quiet : requestsRepaint event = false)
    (sized : (loop.handle renderer now event).dimensions.isSome) :
    loop.dimensions.isSome := by
  cases event with
  | destroy =>
      cases sized
  | terminateWindow =>
      simp only [handle, dimensions] at sized
      cases gpu : loop.gpu with
      | none =>
          simp [gpu] at sized
      | some gpu' =>
          simp [gpu, AndroidGpu.dimensions, AndroidGpu.detachWindow] at sized
  | initWindow answers =>
      cases quiet
  | windowResized answers =>
      cases quiet
  | _ =>
      exact sized

end AndroidLoop

namespace RepaintLedger

open AndroidLoop

variable {TextureId ImageDelta Textures : Type}
variable {renderer : Renderer TextureId ImageDelta Textures}
variable {loop after : AndroidLoop Textures}
variable {ledger : RepaintLedger}

/-- What carries the main result from one step to the next. -/
structure Tracks
    (ledger : RepaintLedger)
    (loop : AndroidLoop Textures) : Prop where
  due :
    loop.dimensions.isSome →
    ∀ request ∈ ledger.unserved,
      loop.signal.DueBy (ledger.latest request)
  framed : loop.phase = .framing → loop.dimensions.isSome

/-- A ledger that keeps track loses no request. -/
theorem Tracks.noRequestLost
    (tracks : ledger.Tracks loop) :
    NoRequestLost (loop, ledger) where
  kept := tracks.due
  taken sized request member _ come :=
    (tracks.due sized request member).takeIfDue come
  waits sized request member now :=
    (tracks.due sized request member).timeout now
  framed := tracks.framed

/-- At first nothing was requested. -/
theorem Tracks.initial (now : Instant) :
    Tracks empty (initial now : AndroidLoop Textures) where
  due sized := by cases sized
  framed inFrame := by cases inFrame

/-- Adding a request to the slot adds it to the ledger. -/
theorem due_append
    {signal : RepaintSignal}
    (due :
      ∀ request ∈ ledger.unserved, signal.DueBy (ledger.latest request))
    (added request : RepaintRequest)
    (member : request ∈ ledger.unserved ++ [added]) :
    (signal.request added).DueBy (ledger.latest request) := by
  rcases List.mem_append.mp member with earlier | new
  · exact (due request earlier).request added
  · rw [List.mem_singleton.mp new]
    exact (RepaintSignal.dueBy_request added signal).mono
      (Nat.le_max_left _ _)

/-- A request made when the surface is got serves all earlier ones. -/
theorem dueBy_of_windowTime
    (signal : RepaintSignal)
    (ledger : RepaintLedger)
    (request : RepaintRequest) :
    (signal.request ⟨ledger.windowTime, 0⟩).DueBy (ledger.latest request) :=
  (RepaintSignal.dueBy_request ⟨ledger.windowTime, 0⟩ signal).mono
    (Nat.le_max_right _ _)

/-- An event asks for a frame when it gives the surface its size. -/
theorem Tracks.poll
    (tracks : ledger.Tracks loop)
    (inTurn : loop.phase = .polling)
    (event : PollEvent)
    (now : Instant) :
    Tracks (observe renderer loop (.poll event now) ledger)
      (loop.handle renderer now event) where
  due sized request member := by
    rw [signal_handle]
    cases requests : requestsRepaint event with
    | false =>
        have before := dimensions_handle requests sized
        have notGained : loop.dimensions.isNone = false := by
          rw [Option.isNone_eq_false_iff]
          exact before
        simp only [observe, requests, notGained, Bool.false_and,
          Bool.false_eq_true, if_false] at member ⊢
        exact tracks.due before request member
    | true =>
        simp only [observe, requests, if_true] at member ⊢
        cases gained : loop.dimensions.isNone with
        | true =>
            simp only [sized, Bool.and_self, if_true]
            exact dueBy_of_windowTime loop.signal ⟨_, now⟩ request
        | false =>
            have before : loop.dimensions.isSome := by
              rw [← Option.isNone_eq_false_iff]
              exact gained
            simp only [Bool.false_and, Bool.false_eq_true, if_false]
            exact due_append (tracks.due before) ⟨now, 0⟩ request member
  framed inFrame := by
    rw [phase_handle, inTurn] at inFrame
    cases inFrame

/-- Draining the input asks for a frame. -/
theorem Tracks.drainInput
    (tracks : ledger.Tracks loop)
    (now : Instant) :
    Tracks (observe renderer loop (.drainInput now : LoopStep TextureId
      ImageDelta) ledger) (loop.drainInput now) := by
  unfold observe AndroidLoop.drainInput
  cases running : loop.running with
  | false =>
      exact ⟨tracks.due, fun inFrame => by cases inFrame⟩
  | true =>
      cases available : loop.inputAvailable with
      | false =>
          exact ⟨tracks.due, fun inFrame => by cases inFrame⟩
      | true =>
          exact ⟨fun sized => due_append (tracks.due sized) ⟨now, 0⟩,
            fun inFrame => by cases inFrame⟩

/-- Only a frame that is begun takes the slot from a loop with a surface. -/
theorem Tracks.takeIfDue
    (tracks : ledger.Tracks loop)
    (now : Instant) :
    Tracks (observe renderer loop (.takeIfDue now : LoopStep TextureId
      ImageDelta) ledger) (loop.takeIfDue now) := by
  have sizeKept : (loop.takeIfDue now).dimensions = loop.dimensions := rfl
  by_cases begun : (loop.takeIfDue now).phase = .framing
  · simp only [observe, begun, if_true]
    refine ⟨fun _ request member => (by cases member), fun _ => ?_⟩
    simp only [AndroidLoop.takeIfDue, ite_eq_left_iff, reduceCtorEq,
      imp_false, not_not, Bool.and_eq_true] at begun
    rw [sizeKept]
    exact begun.2
  · simp only [observe, begun, if_false]
    refine ⟨fun sized request member => ?_, fun inFrame =>
      absurd inFrame begun⟩
    rw [sizeKept] at sized
    have untaken : (loop.signal.takeIfDue now).1 = false := by
      simpa [AndroidLoop.takeIfDue, sized] using begun
    have signalKept : (loop.takeIfDue now).signal = loop.signal :=
      RepaintSignal.takeIfDue_of_false untaken
    rw [signalKept]
    exact tracks.due sized request member

/-- Every step keeps track of the requests. -/
theorem Tracks.step
    (tracks : ledger.Tracks loop)
    {label : LoopStep TextureId ImageDelta}
    (stepped : loop.step? renderer label = some after) :
    Tracks (observe renderer loop label ledger) after := by
  cases label with
  | readClock request =>
      cases stepped
      exact ⟨tracks.due, tracks.framed⟩
  | lock index =>
      obtain ⟨request, waits, rfl⟩ := Option.map_eq_some_iff.mp stepped
      simp only [observe, waits, Option.toList_some]
      exact ⟨fun sized => due_append (tracks.due sized) request,
        tracks.framed⟩
  | poll event now =>
      simp only [step?, Option.ite_none_right_eq_some] at stepped
      obtain ⟨inTurn, ⟨⟩⟩ := stepped
      exact tracks.poll inTurn event now
  | drainInput now =>
      simp only [step?, Option.ite_none_right_eq_some] at stepped
      obtain ⟨_, ⟨⟩⟩ := stepped
      exact tracks.drainInput now
  | takeIfDue now =>
      simp only [step?, Option.ite_none_right_eq_some] at stepped
      obtain ⟨_, ⟨⟩⟩ := stepped
      exact tracks.takeIfDue now
  | frame delta current answers =>
      simp only [step?, Option.ite_none_right_eq_some] at stepped
      obtain ⟨inFrame, ⟨⟩⟩ := stepped
      refine ⟨fun _ => tracks.due (tracks.framed inFrame), fun polling => ?_⟩
      cases polling

end RepaintLedger

namespace AndroidLoop

variable {TextureId ImageDelta Textures : Type}

/-- In every run of the main loop no repaint request is lost. -/
theorem noRequestLost_always
    (renderer : Renderer TextureId ImageDelta Textures)
    (now : Instant)
    (labels : List (LoopStep TextureId ImageDelta)) :
    StepSystem.Always
      (StepSystem.observing (step? renderer) (RepaintLedger.observe renderer))
      NoRequestLost (initial now, .empty) labels := by
  have preserved
      (observed : AndroidLoop Textures × RepaintLedger)
      (label : LoopStep TextureId ImageDelta)
      (after : AndroidLoop Textures × RepaintLedger)
      (tracks : observed.2.Tracks observed.1)
      (stepped :
        StepSystem.observing (step? renderer)
          (RepaintLedger.observe renderer) observed label = some after) :
      after.2.Tracks after.1 := by
    obtain ⟨taken, seen⟩ := StepSystem.observing_eq_some_iff.mp stepped
    rw [seen]
    exact tracks.step taken
  exact StepSystem.always_of_invariant preserved
    (fun _ tracks => tracks.noRequestLost)
    (RepaintLedger.Tracks.initial now) labels

/--
The slot is emptied while there is no window, a frame follows the window that
comes, and then a request waits for its own frame.
-/
example :
    let renderer : Renderer Unit Unit Unit :=
      ⟨(), fun _ _ _ => (), fun _ _ => ()⟩
    let answers : WindowAnswers := ⟨some (1080, 2400), .ok (), .ok (), true⟩
    (StepSystem.run?
        (StepSystem.observing (step? renderer)
          (RepaintLedger.observe renderer))
        (initial 0, .empty)
        [.drainInput 1, .takeIfDue 2, .poll (.initWindow answers) 3,
          .drainInput 4, .takeIfDue 5, .frame ⟨[], []⟩ .success answers,
          .readClock ⟨6, 250⟩, .lock 0]).map
        (fun (loop, ledger) =>
          (loop.dimensions, ledger.unserved, loop.signal.deadline)) =
      some (some (1080, 2400), [⟨6, 250⟩], some 256) := by
  decide

end AndroidLoop

end Waker
