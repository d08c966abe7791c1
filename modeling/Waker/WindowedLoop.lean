import Waker.WindowSurface

namespace Waker

/-!
# The surface of the main loop

The main loop runs together with the windows of the activity.  In every run its
surface belongs to the window that is there, no frame asks a surface whose
window is gone, and what is painted has the size the surface was configured
for.
-/

/-- A frame has asked a surface for a texture. -/
structure SurfaceUse where
  window : ActivityWindow
  surface : Surface
  size : SurfaceConfiguration
  current : CurrentSurfaceTexture

/--
The surface belongs to the window that is there, and what is painted has the
size that the surface was configured for.
-/
structure SurfaceUse.Proper (use : SurfaceUse) : Prop where
  alive : use.window.alive = true
  window : use.surface.window = use.window.id
  sized : 0 < use.size.width ∧ 0 < use.size.height
  painted :
    use.current.isAcquired = true →
    use.surface.configuration = some use.size

/-- The main loop with its surface and the windows of the activity. -/
structure WindowedLoop (Textures : Type) where
  loop : AndroidLoop Textures
  gpu : Option WindowGpu
  window : ActivityWindow
  uses : List SurfaceUse

namespace WindowedLoop

variable {TextureId ImageDelta Textures : Type}

/-- The activity starts without a window. -/
def initial (now : Instant) : WindowedLoop Textures where
  loop := .initial now
  gpu := none
  window := ⟨0, false⟩
  uses := []

/-- What a frame would ask for a texture. -/
def asked
    (system : WindowedLoop Textures) :
    Option (Surface × SurfaceConfiguration) :=
  system.gpu.bind WindowGpu.asked

/--
What the activity and the graphics library do.  A window is announced when it
is there, one at a time, and it is there until the event that it goes has been
handled; only a surface that is configured gives a texture.
-/
def permits
    (system : WindowedLoop Textures) : LoopStep TextureId ImageDelta → Bool
  | .poll (.initWindow answers) _ =>
      !system.window.alive && answers.nativeWindow.isSome
  | .poll (.windowResized answers) _ =>
      answers.nativeWindow.isSome == system.window.alive
  | .frame _ current answers =>
      answers.nativeWindow.isSome == system.window.alive &&
        (!current.isAcquired ||
          system.asked.any fun (surface, _) => surface.configuration.isSome)
  | _ => true

/-- What a step does to the surface and to the window. -/
def follow
    (system : WindowedLoop Textures) :
    LoopStep TextureId ImageDelta → WindowedLoop Textures
  | .poll .destroy _ => { system with gpu := none }
  | .poll (.initWindow answers) _ =>
      let window := system.window.id + 1
      { system with
        window := ⟨window, true⟩
        gpu :=
          match system.gpu with
          | some gpu => some (gpu.attachWindow window answers).1
          | none => (WindowGpu.new window answers).toOption }
  | .poll .terminateWindow _ =>
      { system with
        window := ⟨system.window.id, false⟩
        gpu := system.gpu.map WindowGpu.detachWindow }
  | .poll (.windowResized answers) _ =>
      { system with
        gpu := system.gpu.map fun gpu => (gpu.resizeFromApp answers).1 }
  | .frame _ current answers =>
      { system with
        gpu := system.gpu.map fun gpu =>
          (gpu.paint system.window.id current answers).1
        uses := system.uses ++ (system.asked.map fun (surface, size) =>
          ⟨system.window, surface, size, current⟩).toList }
  | _ => system

/-- Take a step of the main loop that the activity permits. -/
def step?
    (renderer : Renderer TextureId ImageDelta Textures)
    (system : WindowedLoop Textures)
    (label : LoopStep TextureId ImageDelta) :
    Option (WindowedLoop Textures) :=
  if system.permits label then
    (system.loop.step? renderer label).map fun loop =>
      { system.follow label with loop := loop }
  else
    none

/--
The surface of the main loop belongs to the window that is there, every texture
was asked of such a surface and painted at its size, and a frame that the loop
has begun has such a surface to ask.
-/
structure SurfaceSafe (system : WindowedLoop Textures) : Prop where
  behind : Option.Rel WindowGpu.Behind system.loop.gpu system.gpu
  sound : ∀ gpu, system.gpu = some gpu → gpu.Sound system.window
  uses : ∀ use, use ∈ system.uses → use.Proper
  framing :
    system.loop.phase = .framing →
    ∃ surface size,
      system.asked = some (surface, size) ∧
      system.window.alive = true ∧
      surface.window = system.window.id

variable {renderer : Renderer TextureId ImageDelta Textures}
variable {system after : WindowedLoop Textures}

/-- Draining the input leaves the surface alone. -/
theorem gpu_drainInput
    (loop : AndroidLoop Textures)
    (now : Instant) :
    (loop.drainInput now).gpu = loop.gpu := by
  unfold AndroidLoop.drainInput
  split
  · split <;> rfl
  · rfl

/-- What carries the safety of the surface from one step to the next. -/
structure KeepsSurface (system : WindowedLoop Textures) : Prop where
  behind : Option.Rel WindowGpu.Behind system.loop.gpu system.gpu
  sound : ∀ gpu, system.gpu = some gpu → gpu.Sound system.window
  uses : ∀ use, use ∈ system.uses → use.Proper
  tracked : ∃ ledger : RepaintLedger, ledger.Tracks system.loop

namespace KeepsSurface

/-- At first there is no surface. -/
theorem initial (now : Instant) :
    KeepsSurface (initial now : WindowedLoop Textures) where
  behind := .none
  sound _ present := by cases present
  uses _ used := by cases used
  tracked := ⟨.empty, .initial now⟩

/-- What the surfaces have in common passes on to what is made of them. -/
theorem rel_map
    {gpu : Option (AndroidGpu Textures)}
    {real : Option WindowGpu}
    (behind : Option.Rel WindowGpu.Behind gpu real)
    {change : AndroidGpu Textures → AndroidGpu Textures}
    {realChange : WindowGpu → WindowGpu}
    (changed :
      ∀ gpu real,
        WindowGpu.Behind gpu real →
        WindowGpu.Behind (change gpu) (realChange real)) :
    Option.Rel WindowGpu.Behind (gpu.map change) (real.map realChange) := by
  cases behind with
  | none =>
      exact .none
  | some same =>
      exact .some (changed _ _ same)

/-- What all surfaces keep passes on to what is made of them. -/
theorem sound_map
    {real : Option WindowGpu}
    {before window : ActivityWindow}
    (sound : ∀ gpu, real = some gpu → gpu.Sound before)
    {change : WindowGpu → WindowGpu}
    (changed :
      ∀ gpu, gpu.Sound before → (change gpu).Sound window)
    (gpu : WindowGpu)
    (present : real.map change = some gpu) :
    gpu.Sound window := by
  obtain ⟨earlier, was, rfl⟩ := Option.map_eq_some_iff.mp present
  exact changed earlier (sound earlier was)

/-- A frame that has begun has the surface of the window to ask. -/
theorem framing
    (keeps : system.KeepsSurface)
    (framing : system.loop.phase = .framing) :
    ∃ gpu surface size,
      system.gpu = some gpu ∧
      gpu.asked = some (surface, size) ∧
      gpu.surface = some surface ∧
      gpu.surfaceConfig = some size := by
  obtain ⟨ledger, tracks⟩ := keeps.tracked
  have sized := tracks.framed framing
  unfold AndroidLoop.dimensions AndroidGpu.dimensions at sized
  have behind := keeps.behind
  generalize system.loop.gpu = seen at sized behind
  cases real : system.gpu with
  | none =>
      rw [real] at behind
      cases behind
      cases sized
  | some gpu =>
      rw [real] at behind
      cases behind with
      | some same =>
          rw [Option.bind_some, same.surfaceConfig, Option.isSome_map]
            at sized
          obtain ⟨size, config⟩ := Option.isSome_iff_exists.mp sized
          have sound := keeps.sound gpu real
          obtain ⟨surface, present⟩ :=
            Option.isSome_iff_exists.mp (sound.present sized)
          refine ⟨gpu, surface, size, rfl, ?_, present, config⟩
          rw [WindowGpu.asked, config, present]

/-- What is safe follows from what is kept. -/
theorem surfaceSafe (keeps : system.KeepsSurface) : SurfaceSafe system where
  behind := keeps.behind
  sound := keeps.sound
  uses := keeps.uses
  framing inFrame := by
    obtain ⟨gpu, surface, size, present, asks, own, _⟩ :=
      keeps.framing inFrame
    obtain ⟨alive, window⟩ := (keeps.sound gpu present).live surface own
    exact ⟨surface, size, by rw [asked, present, Option.bind_some, asks],
      alive, window⟩

/-- An event that a window is there makes its surface. -/
theorem initWindow
    (keeps : system.KeepsSurface)
    {answers : WindowAnswers}
    {now : Instant}
    (permitted :
      system.permits
        (.poll (.initWindow answers) now : LoopStep TextureId ImageDelta) =
        true) :
    Option.Rel WindowGpu.Behind
        (system.loop.handle renderer now (.initWindow answers)).gpu
        (system.follow
          (.poll (.initWindow answers) now :
            LoopStep TextureId ImageDelta)).gpu ∧
      ∀ gpu,
        (system.follow
          (.poll (.initWindow answers) now :
            LoopStep TextureId ImageDelta)).gpu = some gpu →
        gpu.Sound ⟨system.window.id + 1, true⟩ := by
  have gone : system.window.alive = false := by
    simp only [permits, Bool.and_eq_true, Bool.not_eq_true'] at permitted
    exact permitted.1
  have behind := keeps.behind
  simp only [AndroidLoop.handle, AndroidLoop.requestNow, follow]
  generalize system.loop.gpu = seen at behind
  cases real : system.gpu with
  | none =>
      rw [real] at behind
      cases behind
      exact ⟨WindowGpu.behind_new renderer _ answers, fun gpu created =>
        WindowGpu.sound_new rfl created⟩
  | some gpu =>
      rw [real] at behind
      cases behind with
      | some same =>
          refine ⟨.some (same.attachWindow _ answers).1, ?_⟩
          intro next made
          cases made
          have renewed :=
            (keeps.sound gpu real).renew gone ⟨system.window.id + 1, true⟩
          exact renewed.attachWindow rfl answers

/-- A frame asks only the surface of the window that is there. -/
theorem proper_use
    (keeps : system.KeepsSurface)
    {delta : TexturesDelta TextureId ImageDelta}
    {current : CurrentSurfaceTexture}
    {answers : WindowAnswers}
    (permitted : system.permits (.frame delta current answers) = true)
    (use : SurfaceUse)
    (used :
      use ∈ (system.follow (.frame delta current answers)).uses) :
    use.Proper := by
  rcases List.mem_append.mp used with earlier | new
  · exact keeps.uses use earlier
  · rw [Option.mem_toList] at new
    obtain ⟨⟨surface, size⟩, asks, rfl⟩ := Option.map_eq_some_iff.mp new
    obtain ⟨gpu, present, own⟩ := Option.bind_eq_some_iff.mp asks
    obtain ⟨hasSurface, readBack⟩ := WindowGpu.of_asked own
    have sound := keeps.sound gpu present
    obtain ⟨alive, window⟩ := sound.live surface hasSurface
    refine ⟨alive, window, sound.sized size readBack, fun painted => ?_⟩
    simp only [permits, asks, painted, Bool.and_eq_true, Bool.not_true,
      Bool.false_or, Option.any_some] at permitted
    rcases sound.configured surface hasSurface with without | same
    · rw [without] at permitted
      cases permitted.2
    · rw [same, readBack]

/-- Every permitted step keeps the surface safe. -/
theorem step
    (keeps : system.KeepsSurface)
    {label : LoopStep TextureId ImageDelta}
    (stepped : system.step? renderer label = some after) :
    after.KeepsSurface := by
  simp only [step?, Option.ite_none_right_eq_some] at stepped
  obtain ⟨permitted, moved⟩ := stepped
  obtain ⟨loop, taken, rfl⟩ := Option.map_eq_some_iff.mp moved
  obtain ⟨ledger, tracks⟩ := keeps.tracked
  have tracked : ∃ ledger : RepaintLedger, ledger.Tracks loop :=
    ⟨_, tracks.step taken⟩
  cases label with
  | readClock request =>
      cases taken
      exact ⟨keeps.behind, keeps.sound, keeps.uses, tracked⟩
  | lock index =>
      obtain ⟨request, waits, rfl⟩ := Option.map_eq_some_iff.mp taken
      exact ⟨keeps.behind, keeps.sound, keeps.uses, tracked⟩
  | drainInput now =>
      simp only [AndroidLoop.step?, Option.ite_none_right_eq_some] at taken
      obtain ⟨_, ⟨⟩⟩ := taken
      refine ⟨?_, keeps.sound, keeps.uses, tracked⟩
      rw [gpu_drainInput]
      exact keeps.behind
  | takeIfDue now =>
      simp only [AndroidLoop.step?, Option.ite_none_right_eq_some] at taken
      obtain ⟨_, ⟨⟩⟩ := taken
      exact ⟨keeps.behind, keeps.sound, keeps.uses, tracked⟩
  | frame delta current answers =>
      simp only [AndroidLoop.step?, Option.ite_none_right_eq_some] at taken
      obtain ⟨_, ⟨⟩⟩ := taken
      exact {
        behind := rel_map keeps.behind fun _ _ same =>
          (same.paint renderer delta _ current answers).1
        sound := sound_map keeps.sound fun _ sound =>
          sound.paint current answers
        uses := keeps.proper_use permitted
        tracked := tracked
      }
  | poll event now =>
      simp only [AndroidLoop.step?, Option.ite_none_right_eq_some] at taken
      obtain ⟨_, ⟨⟩⟩ := taken
      cases event with
      | destroy =>
          refine ⟨.none, ?_, keeps.uses, tracked⟩
          intro gpu present
          cases present
      | initWindow answers =>
          obtain ⟨behind, sound⟩ := keeps.initWindow permitted
          exact ⟨behind, sound, keeps.uses, tracked⟩
      | terminateWindow =>
          exact {
            behind := rel_map keeps.behind fun _ _ _ =>
              WindowGpu.Behind.detachWindow
            sound := sound_map keeps.sound fun gpu _ =>
              WindowGpu.Sound.detachWindow gpu _
            uses := keeps.uses
            tracked := tracked
          }
      | windowResized answers =>
          exact {
            behind := rel_map keeps.behind fun _ _ same =>
              (same.resizeFromApp answers).1
            sound := sound_map keeps.sound fun _ sound =>
              sound.resizeFromApp answers
            uses := keeps.uses
            tracked := tracked
          }
      | _ =>
          exact ⟨keeps.behind, keeps.sound, keeps.uses, tracked⟩

end KeepsSurface

/-- In every run the surface is used only while its window is there. -/
theorem surfaceSafe_always
    (renderer : Renderer TextureId ImageDelta Textures)
    (now : Instant)
    (labels : List (LoopStep TextureId ImageDelta)) :
    StepSystem.Always (step? renderer) SurfaceSafe (initial now) labels :=
  StepSystem.always_of_invariant
    (fun _ _ _ keeps stepped => KeepsSurface.step keeps stepped)
    (fun _ keeps => keeps.surfaceSafe) (KeepsSurface.initial now) labels

end WindowedLoop

end Waker
