import Waker.AndroidGpu
import Waker.StepSystem

namespace Waker

/-!
# Texture updates and frames that are not presented

A frame runs the user interface before it asks for a texture of the surface.
Egui hands out the texture changes of a frame once, and only a frame that gets
such a texture makes them.  The changes of every other frame are lost.
-/

/-- The main loop of the activity and all texture changes so far. -/
structure AndroidMain (TextureId ImageDelta Textures : Type) where
  running : Bool
  gpu : Option (AndroidGpu Textures)
  deltas : List (TexturesDelta TextureId ImageDelta)

/-- A window event or a frame, with what egui and the platform give. -/
inductive AndroidMainStep (TextureId ImageDelta : Type) where
  | destroy
  | initWindow (answers : WindowAnswers)
  | terminateWindow
  | windowResized (answers : WindowAnswers)
  | frame
      (delta : TexturesDelta TextureId ImageDelta)
      (current : CurrentSurfaceTexture)
      (answers : WindowAnswers)

namespace AndroidGpu

variable {TextureId ImageDelta Textures : Type}
variable {gpu : AndroidGpu Textures}

/-- Configuring the surface leaves the textures alone. -/
@[simp] theorem textures_configure
    (answers : WindowAnswers)
    (width height : Nat) :
    (gpu.configure answers width height).1.textures = gpu.textures := by
  unfold configure
  split
  · split <;> rfl
  · rfl

/-- So does adapting it to the native window. -/
@[simp] theorem textures_resizeFromApp
    (answers : WindowAnswers) :
    (gpu.resizeFromApp answers).1.textures = gpu.textures := by
  unfold resizeFromApp
  split
  · rfl
  · exact textures_configure ..

/-- So does attaching a native window. -/
@[simp] theorem textures_attachWindow
    (answers : WindowAnswers) :
    (gpu.attachWindow answers).1.textures = gpu.textures := by
  unfold attachWindow
  split
  · rfl
  · split
    · rfl
    · exact textures_configure ..

/-- A new renderer has no textures. -/
theorem textures_new
    {renderer : Renderer TextureId ImageDelta Textures}
    {answers : WindowAnswers}
    (created : new renderer answers = .ok gpu) :
    gpu.textures = renderer.noTextures := by
  unfold new at created
  split at created
  · cases created
  · cases surface : answers.createSurface with
    | error error =>
        simp [surface, bind, Except.bind] at created
    | ok value =>
        cases state : answers.createRenderState with
        | error error =>
            simp [surface, state, bind, Except.bind, Except.mapError]
              at created
        | ok value =>
            cases compatible : answers.compatible with
            | false =>
                simp [surface, state, compatible, bind, Except.bind,
                  Except.mapError, configure] at created
            | true =>
                simp [surface, state, compatible, bind, Except.bind,
                  Except.mapError, configure, pure, Except.pure] at created
                rw [← created]

/-- A frame makes its texture changes if it is presented. -/
theorem textures_paint
    (renderer : Renderer TextureId ImageDelta Textures)
    (delta : TexturesDelta TextureId ImageDelta)
    (current : CurrentSurfaceTexture)
    (answers : WindowAnswers) :
    (gpu.paint renderer delta current answers).1.textures =
      if gpu.presents current then
        renderer.applyDelta gpu.textures delta
      else
        gpu.textures := by
  unfold paint presents
  cases dimensions : gpu.dimensions with
  | none =>
      rfl
  | some size =>
      cases surface : gpu.surface with
      | false =>
          rfl
      | true =>
          cases current with
          | success =>
              rfl
          | suboptimal =>
              rfl
          | outdated =>
              exact textures_configure ..
          | lost =>
              exact textures_attachWindow ..
          | timeout =>
              rfl
          | occluded =>
              rfl
          | validation =>
              rfl

end AndroidGpu

namespace AndroidMain

variable {TextureId ImageDelta Textures : Type}

/-- The main loop before its first event. -/
def initial : AndroidMain TextureId ImageDelta Textures where
  running := true
  gpu := none
  deltas := []

/-- Take a window event or run a frame; frames need a configured surface. -/
def step?
    (renderer : Renderer TextureId ImageDelta Textures)
    (main : AndroidMain TextureId ImageDelta Textures)
    (label : AndroidMainStep TextureId ImageDelta) :
    Option (AndroidMain TextureId ImageDelta Textures) :=
  if main.running then
    match label with
    | .destroy => some { main with gpu := none, running := false }
    | .initWindow answers =>
        match main.gpu with
        | some gpu =>
            some { main with gpu := some (gpu.attachWindow answers).1 }
        | none =>
            some { main with gpu := (AndroidGpu.new renderer answers).toOption }
    | .terminateWindow =>
        some { main with gpu := main.gpu.map AndroidGpu.detachWindow }
    | .windowResized answers =>
        some { main with
          gpu := main.gpu.map fun gpu => (gpu.resizeFromApp answers).1 }
    | .frame delta current answers =>
        match main.gpu with
        | none => none
        | some gpu =>
            if gpu.dimensions.isSome then
              some { main with
                gpu := some (gpu.paint renderer delta current answers).1
                deltas := main.deltas ++ [delta] }
            else
              none
  else
    none

/-- The renderer has made all texture changes so far. -/
def TexturesCurrent
    (renderer : Renderer TextureId ImageDelta Textures)
    (main : AndroidMain TextureId ImageDelta Textures) : Prop :=
  ∀ gpu,
    main.gpu = some gpu →
    gpu.textures = renderer.applyDeltas main.deltas

/-- A frame that is not presented has only changes that change nothing. -/
def NothingLost
    (renderer : Renderer TextureId ImageDelta Textures)
    (main : AndroidMain TextureId ImageDelta Textures) :
    AndroidMainStep TextureId ImageDelta → Prop
  | .frame delta current _ =>
      ∀ gpu,
        main.gpu = some gpu →
        gpu.presents current = false →
        renderer.applyDelta gpu.textures delta = gpu.textures
  | _ => True

/-- The renderer is current, and without a renderer no frame has run. -/
structure Tracked
    (renderer : Renderer TextureId ImageDelta Textures)
    (main : AndroidMain TextureId ImageDelta Textures) : Prop where
  current : main.TexturesCurrent renderer
  unstarted : main.running = true → main.gpu = none → main.deltas = []

variable {renderer : Renderer TextureId ImageDelta Textures}
variable {main next : AndroidMain TextureId ImageDelta Textures}
variable {label : AndroidMainStep TextureId ImageDelta}

/-- At first there is no renderer. -/
theorem Tracked.initial :
    Tracked renderer (initial : AndroidMain TextureId ImageDelta Textures) where
  current := by
    intro gpu present
    cases present
  unstarted _ _ := rfl

/-- What a frame does to the textures and to the history. -/
theorem frame_cases
    {delta : TexturesDelta TextureId ImageDelta}
    {current : CurrentSurfaceTexture}
    {answers : WindowAnswers}
    (stepped :
      main.step? renderer (.frame delta current answers) = some next) :
    ∃ gpu painted,
      main.gpu = some gpu ∧
        next.gpu = some painted ∧
        painted.textures =
          (if gpu.presents current then
            renderer.applyDelta gpu.textures delta
          else
            gpu.textures) ∧
        next.deltas = main.deltas ++ [delta] := by
  unfold step? at stepped
  split at stepped
  · dsimp only at stepped
    split at stepped
    · cases stepped
    · rename_i gpu present
      split at stepped
      · cases stepped
        exact ⟨gpu, _, present, rfl, AndroidGpu.textures_paint .., rfl⟩
      · cases stepped
  · cases stepped

/-- A frame keeps the renderer current exactly when it loses nothing. -/
theorem texturesCurrent_frame_iff
    {delta : TexturesDelta TextureId ImageDelta}
    {current : CurrentSurfaceTexture}
    {answers : WindowAnswers}
    (tracked : main.Tracked renderer)
    (stepped :
      main.step? renderer (.frame delta current answers) = some next) :
    next.TexturesCurrent renderer ↔
      main.NothingLost renderer (.frame delta current answers) := by
  obtain ⟨gpu, painted, present, presentNext, textures, deltas⟩ :=
    frame_cases stepped
  have before := tracked.current gpu present
  simp only [TexturesCurrent, NothingLost, present, presentNext,
    Option.some.injEq, forall_eq', deltas, Renderer.applyDeltas_concat,
    ← before, textures]
  cases presented : gpu.presents current with
  | true =>
      simp
  | false =>
      simp [eq_comm]

/-- A change of the surface keeps the renderer current. -/
theorem Tracked.mapGpu
    (tracked : main.Tracked renderer)
    {change : AndroidGpu Textures → AndroidGpu Textures}
    (keeps : ∀ gpu, (change gpu).textures = gpu.textures) :
    ({ main with gpu := main.gpu.map change } :
      AndroidMain TextureId ImageDelta Textures).Tracked renderer where
  current := by
    intro gpu present
    obtain ⟨before, presentBefore, rfl⟩ := Option.map_eq_some_iff.mp present
    rw [keeps]
    exact tracked.current before presentBefore
  unstarted := by
    intro running absent
    exact tracked.unstarted running (Option.map_eq_none_iff.mp absent)

/-- A new renderer is current, for no frame has run without one. -/
theorem Tracked.newGpu
    (tracked : main.Tracked renderer)
    (running : main.running = true)
    (absent : main.gpu = none)
    (answers : WindowAnswers) :
    ({ main with gpu := (AndroidGpu.new renderer answers).toOption } :
      AndroidMain TextureId ImageDelta Textures).Tracked renderer where
  current := by
    intro gpu present
    cases created : AndroidGpu.new renderer answers with
    | error error =>
        simp [created, Except.toOption] at present
    | ok fresh =>
        have same : fresh = gpu := by
          simpa [created, Except.toOption] using present
        have textures := AndroidGpu.textures_new created
        dsimp only
        rw [tracked.unstarted running absent, ← same, textures]
        rfl
  unstarted := fun _ _ => tracked.unstarted running absent

/-- A step that loses nothing keeps the renderer current. -/
theorem Tracked.step
    (tracked : main.Tracked renderer)
    (nothingLost : main.NothingLost renderer label)
    (stepped : main.step? renderer label = some next) :
    next.Tracked renderer := by
  have running : main.running = true := by
    by_contra stopped
    simp [step?, stopped] at stepped
  cases label with
  | frame delta current answers =>
      obtain ⟨_, painted, _, presentNext, _, _⟩ := frame_cases stepped
      refine ⟨(texturesCurrent_frame_iff tracked stepped).mpr nothingLost,
        fun _ absent => ?_⟩
      rw [presentNext] at absent
      cases absent
  | destroy =>
      rw [step?, if_pos running] at stepped
      cases stepped
      refine ⟨fun gpu present => ?_, fun runs => ?_⟩
      · cases present
      · cases runs
  | terminateWindow =>
      rw [step?, if_pos running] at stepped
      cases stepped
      exact tracked.mapGpu fun _ => rfl
  | windowResized answers =>
      rw [step?, if_pos running] at stepped
      cases stepped
      exact tracked.mapGpu fun _ => AndroidGpu.textures_resizeFromApp answers
  | initWindow answers =>
      rw [step?, if_pos running] at stepped
      cases present : main.gpu with
      | some gpu =>
          simp only [present, Option.some.injEq] at stepped
          have attached :=
            tracked.mapGpu fun gpu =>
              @AndroidGpu.textures_attachWindow _ gpu answers
          rw [present, Option.map_some] at attached
          exact stepped ▸ attached
      | none =>
          simp only [present, Option.some.injEq] at stepped
          have created := tracked.newGpu running present answers
          exact stepped ▸ created

/-- A step that keeps the renderer current loses nothing. -/
theorem Tracked.nothingLost
    (tracked : main.Tracked renderer)
    (stepped : main.step? renderer label = some next)
    (current : next.TexturesCurrent renderer) :
    main.NothingLost renderer label := by
  cases label with
  | frame delta surface answers =>
      exact (texturesCurrent_frame_iff tracked stepped).mp current
  | _ =>
      trivial

/--
The renderer is current in every state of a run exactly when each frame that is
not presented has only changes that change nothing.
-/
theorem texturesCurrent_iff_nothingLost
    (renderer : Renderer TextureId ImageDelta Textures)
    (labels : List (AndroidMainStep TextureId ImageDelta)) :
    StepSystem.Always (step? renderer) (TexturesCurrent renderer) initial
        labels ↔
      StepSystem.Meets (step? renderer) (NothingLost renderer) initial
        labels :=
  StepSystem.always_iff_meets
    (fun _ _ _ tracked nothingLost stepped =>
      tracked.step nothingLost stepped)
    (fun _ tracked => tracked.current)
    (fun _ _ _ tracked stepped current =>
      tracked.nothingLost stepped current)
    Tracked.initial labels

/-- A renderer whose updates replace the whole image of a texture. -/
def imageRenderer : Renderer Nat String (List (Nat × String)) where
  noTextures := []
  updateTexture textures id image :=
    (id, image) :: textures.filter fun texture => texture.1 ≠ id
  freeTexture textures id := textures.filter fun texture => texture.1 ≠ id

/-- A native window that can be painted on. -/
def paintableWindow : WindowAnswers where
  nativeWindow := some (1080, 2400)
  createSurface := .ok ()
  createRenderState := .ok ()
  compatible := true

/-- The texture changes of a frame that allocates the font atlas. -/
def fontAtlas : TexturesDelta Nat String where
  set := [(0, ["font atlas"])]
  free := []

/-- The font atlas of a first frame that is not presented is lost. -/
theorem fontAtlas_lost :
    ¬ ∀ labels,
      StepSystem.Always (step? imageRenderer) (TexturesCurrent imageRenderer)
        initial labels := by
  intro always
  have current :=
    (always [.initWindow paintableWindow,
      .frame fontAtlas .outdated paintableWindow]).last rfl _ rfl
  exact absurd current (by decide)

end AndroidMain

end Waker
