import Waker.RepaintSlot

namespace Waker

/-!
# Surfaces and their native windows

A surface is made from the raw handle of a native window, and only the order of
the window events keeps it from being used when the window is gone.  Here the
surface is kept with the window it was made from and the configuration it was
given, and the main loop runs together with the windows of the activity.
-/

/-- A surface, its window, and what it was configured for, if it was. -/
structure Surface where
  window : Nat
  configuration : Option SurfaceConfiguration
  deriving Repr, DecidableEq

/-- The surface of the main loop, and the configuration that is read back. -/
structure WindowGpu where
  surface : Option Surface
  surfaceConfig : Option SurfaceConfiguration
  deriving Repr, DecidableEq

/-- The latest native window of the activity, and whether it is there. -/
structure ActivityWindow where
  id : Nat
  alive : Bool
  deriving Repr, DecidableEq

namespace WindowGpu

/-- `configure`. -/
def configure
    (gpu : WindowGpu)
    (answers : WindowAnswers)
    (width height : Nat) : WindowGpu × Except String Unit :=
  match gpu.surface with
  | none => (gpu, .error "Android render surface is unavailable")
  | some surface =>
      if answers.compatible then
        ({
            surface := some { surface with
              configuration := some ⟨width, height⟩ }
            surfaceConfig := some ⟨width, height⟩
          },
          .ok ())
      else
        (gpu, .error "Android surface is incompatible with the selected GPU")

/-- `resize_from_app`. -/
def resizeFromApp
    (gpu : WindowGpu)
    (answers : WindowAnswers) : WindowGpu × Except String Unit :=
  match answers.nativeWindow with
  | none => (gpu, .error "Android native window is unavailable")
  | some (width, height) =>
      gpu.configure answers (max width 1).toNat (max height 1).toNat

/-- `attach_window`; a new surface is not configured yet. -/
def attachWindow
    (gpu : WindowGpu)
    (window : Nat)
    (answers : WindowAnswers) : WindowGpu × Except String Unit :=
  match answers.nativeWindow with
  | none => (gpu, .error "Android native window is unavailable")
  | some (width, height) =>
      match answers.createSurface with
      | .error error => (gpu, .error error)
      | .ok () =>
          { gpu with surface := some ⟨window, none⟩ }.configure answers
            (max width 1).toNat (max height 1).toNat

/-- `detach_window`. -/
def detachWindow (_ : WindowGpu) : WindowGpu where
  surface := none
  surfaceConfig := none

/-- `AndroidGpu::new`. -/
def new
    (window : Nat)
    (answers : WindowAnswers) : Except String WindowGpu :=
  match answers.nativeWindow with
  | none => .error "Android native window is unavailable"
  | some (width, height) => do
      answers.createSurface
      answers.createRenderState.mapError
        ("could not initialise Android wgpu: " ++ ·)
      let (gpu, configured) :=
        configure ⟨some ⟨window, none⟩, none⟩ answers
          (max width 1).toNat (max height 1).toNat
      configured
      return gpu

/-- The surface that a frame asks for a texture, and the size it assumes. -/
def asked (gpu : WindowGpu) : Option (Surface × SurfaceConfiguration) :=
  match gpu.surfaceConfig, gpu.surface with
  | some config, some surface => some (surface, config)
  | _, _ => none

/-- `paint`, as far as the surface is concerned. -/
def paint
    (gpu : WindowGpu)
    (window : Nat)
    (current : CurrentSurfaceTexture)
    (answers : WindowAnswers) : WindowGpu × Except String Unit :=
  match gpu.asked with
  | none => (gpu, .ok ())
  | some (_, config) =>
      match current with
      | .outdated => gpu.configure answers config.width config.height
      | .lost => gpu.attachWindow window answers
      | .success | .suboptimal | .timeout | .occluded | .validation =>
          (gpu, .ok ())

/-- The graphics state of the main loop has this surface behind it. -/
structure Behind
    {Textures : Type}
    (gpu : AndroidGpu Textures)
    (real : WindowGpu) : Prop where
  surface : gpu.surface = real.surface.isSome
  surfaceConfig : gpu.surfaceConfig = real.surfaceConfig

/--
The surface belongs to the window that is there; the configuration that is read
back is that of the surface, unless it has none, and it is never empty.
-/
structure Sound (window : ActivityWindow) (gpu : WindowGpu) : Prop where
  present : gpu.surfaceConfig.isSome → gpu.surface.isSome
  live :
    ∀ surface,
      gpu.surface = some surface →
      window.alive = true ∧ surface.window = window.id
  configured :
    ∀ surface,
      gpu.surface = some surface →
      surface.configuration = none ∨
        surface.configuration = gpu.surfaceConfig
  sized :
    ∀ config,
      gpu.surfaceConfig = some config →
      0 < config.width ∧ 0 < config.height

section Refinement

variable {TextureId ImageDelta Textures : Type}
variable {gpu : AndroidGpu Textures}
variable {real : WindowGpu}

/-- Configuring does the same to both. -/
theorem Behind.configure
    (behind : Behind gpu real)
    (answers : WindowAnswers)
    (width height : Nat) :
    Behind (gpu.configure answers width height).1
        (real.configure answers width height).1 ∧
      (gpu.configure answers width height).2 =
        (real.configure answers width height).2 := by
  obtain ⟨textures, hasSurface, readBack⟩ := gpu
  obtain ⟨surface, config⟩ := real
  have sameSurface : hasSurface = surface.isSome := behind.surface
  have sameConfig : readBack = config := behind.surfaceConfig
  subst sameSurface sameConfig
  unfold AndroidGpu.configure WindowGpu.configure
  cases surface with
  | none =>
      exact ⟨⟨rfl, rfl⟩, rfl⟩
  | some surface =>
      cases answers.compatible with
      | false =>
          exact ⟨⟨rfl, rfl⟩, rfl⟩
      | true =>
          exact ⟨⟨rfl, rfl⟩, rfl⟩

/-- Adapting to the native window does the same to both. -/
theorem Behind.resizeFromApp
    (behind : Behind gpu real)
    (answers : WindowAnswers) :
    Behind (gpu.resizeFromApp answers).1 (real.resizeFromApp answers).1 ∧
      (gpu.resizeFromApp answers).2 = (real.resizeFromApp answers).2 := by
  unfold AndroidGpu.resizeFromApp WindowGpu.resizeFromApp
  cases answers.nativeWindow with
  | none =>
      exact ⟨behind, rfl⟩
  | some size =>
      exact behind.configure ..

/-- Attaching a window does the same to both. -/
theorem Behind.attachWindow
    (behind : Behind gpu real)
    (window : Nat)
    (answers : WindowAnswers) :
    Behind (gpu.attachWindow answers).1
        (real.attachWindow window answers).1 ∧
      (gpu.attachWindow answers).2 =
        (real.attachWindow window answers).2 := by
  unfold AndroidGpu.attachWindow WindowGpu.attachWindow
  cases answers.nativeWindow with
  | none =>
      exact ⟨behind, rfl⟩
  | some size =>
      cases answers.createSurface with
      | error error =>
          exact ⟨behind, rfl⟩
      | ok made =>
          have attached :
              Behind { gpu with surface := true }
                { real with surface := some ⟨window, none⟩ } :=
            ⟨rfl, behind.surfaceConfig⟩
          exact attached.configure ..

/-- Detaching the window does the same to both. -/
theorem Behind.detachWindow : Behind gpu.detachWindow real.detachWindow where
  surface := rfl
  surfaceConfig := rfl

/-- A new renderer is made in the same cases, with the same surface. -/
theorem behind_new
    (renderer : Renderer TextureId ImageDelta Textures)
    (window : Nat)
    (answers : WindowAnswers) :
    Option.Rel Behind (AndroidGpu.new renderer answers).toOption
      (new window answers).toOption := by
  unfold AndroidGpu.new new
  cases answers.nativeWindow with
  | none =>
      exact .none
  | some size =>
      have fresh :
          Behind ⟨renderer.noTextures, true, none⟩
            ⟨some ⟨window, none⟩, none⟩ :=
        ⟨rfl, rfl⟩
      obtain ⟨configured, sameResult⟩ :=
        fresh.configure answers (max size.1 1).toNat (max size.2 1).toNat
      cases answers.createSurface with
      | error error =>
          exact .none
      | ok made =>
          cases answers.createRenderState with
          | error error =>
              exact .none
          | ok state =>
              simp only [bind, Except.bind, Except.mapError, sameResult]
              cases (WindowGpu.configure _ answers _ _).2 with
              | error error =>
                  exact .none
              | ok done =>
                  exact .some configured

/-- Painting does the same to both. -/
theorem Behind.paint
    (behind : Behind gpu real)
    (renderer : Renderer TextureId ImageDelta Textures)
    (delta : TexturesDelta TextureId ImageDelta)
    (window : Nat)
    (current : CurrentSurfaceTexture)
    (answers : WindowAnswers) :
    Behind (gpu.paint renderer delta current answers).1
        (real.paint window current answers).1 ∧
      (gpu.paint renderer delta current answers).2 =
        (real.paint window current answers).2 := by
  cases config : real.surfaceConfig with
  | none =>
      simp only [AndroidGpu.paint, AndroidGpu.dimensions,
        behind.surfaceConfig, WindowGpu.paint, asked, config,
        Option.map_none, and_true]
      exact behind
  | some size =>
      cases present : real.surface with
      | none =>
          simp only [AndroidGpu.paint, AndroidGpu.dimensions,
            behind.surfaceConfig, behind.surface, WindowGpu.paint, asked,
            config, present, Option.map_some, Option.isSome_none,
            Bool.false_eq_true, if_false, and_true]
          exact behind
      | some surface =>
          simp only [AndroidGpu.paint, AndroidGpu.dimensions,
            behind.surfaceConfig, behind.surface, WindowGpu.paint, asked,
            config, present, Option.map_some, Option.isSome_some, if_true]
          cases current with
          | outdated =>
              exact behind.configure ..
          | lost =>
              exact behind.attachWindow ..
          | success =>
              exact ⟨⟨by simp [present], config.symm⟩, rfl⟩
          | suboptimal =>
              exact ⟨⟨by simp [present], config.symm⟩, rfl⟩
          | timeout =>
              exact ⟨behind, rfl⟩
          | occluded =>
              exact ⟨behind, rfl⟩
          | validation =>
              exact ⟨behind, rfl⟩

end Refinement

section Soundness

variable {gpu : WindowGpu}
variable {window : ActivityWindow}

/-- The sizes that are asked for are not empty. -/
theorem size_pos (length : Int) : 0 < (max length 1).toNat := by
  omega

/-- A surface that is configured has the configuration that is read back. -/
theorem Sound.configure
    (sound : gpu.Sound window)
    (answers : WindowAnswers)
    {width height : Nat}
    (wide : 0 < width)
    (high : 0 < height) :
    (gpu.configure answers width height).1.Sound window := by
  unfold WindowGpu.configure
  cases present : gpu.surface with
  | none =>
      exact sound
  | some surface =>
      cases answers.compatible with
      | false =>
          exact sound
      | true =>
          exact {
            present := fun _ => rfl
            live := fun other same => by
              cases same
              exact sound.live surface present
            configured := fun other same => by
              cases same
              exact .inr rfl
            sized := fun config same => by
              cases same
              exact ⟨wide, high⟩
          }

/-- So does one that is adapted to the native window. -/
theorem Sound.resizeFromApp
    (sound : gpu.Sound window)
    (answers : WindowAnswers) :
    (gpu.resizeFromApp answers).1.Sound window := by
  unfold WindowGpu.resizeFromApp
  cases answers.nativeWindow with
  | none =>
      exact sound
  | some size =>
      exact sound.configure answers (size_pos _) (size_pos _)

/-- A new surface belongs to the window it is made from. -/
theorem Sound.attachWindow
    (sound : gpu.Sound window)
    (alive : window.alive = true)
    (answers : WindowAnswers) :
    (gpu.attachWindow window.id answers).1.Sound window := by
  unfold WindowGpu.attachWindow
  cases answers.nativeWindow with
  | none =>
      exact sound
  | some size =>
      cases answers.createSurface with
      | error error =>
          exact sound
      | ok made =>
          have attached :
              Sound window
                { gpu with surface := some ⟨window.id, none⟩ } := {
            present := fun _ => rfl
            live := fun other same => by
              cases same
              exact ⟨alive, rfl⟩
            configured := fun other same => by
              cases same
              exact .inl rfl
            sized := sound.sized
          }
          exact attached.configure answers (size_pos _) (size_pos _)

/-- Without a surface nothing belongs to any window. -/
theorem Sound.detachWindow (gpu : WindowGpu) (window : ActivityWindow) :
    gpu.detachWindow.Sound window where
  present configured := by cases configured
  live _ same := by cases same
  configured _ same := by cases same
  sized _ same := by cases same

/-- When the window is gone there is no surface, so a new one may come. -/
theorem Sound.renew
    (sound : gpu.Sound window)
    (gone : window.alive = false)
    (next : ActivityWindow) :
    gpu.Sound next where
  present := sound.present
  live surface present := by
    have alive := (sound.live surface present).1
    rw [gone] at alive
    cases alive
  configured := sound.configured
  sized := sound.sized

/-- A new renderer has a surface of the window it is made for. -/
theorem sound_new
    {answers : WindowAnswers}
    (alive : window.alive = true)
    (created : (new window.id answers).toOption = some gpu) :
    gpu.Sound window := by
  unfold new at created
  cases native : answers.nativeWindow with
  | none =>
      rw [native] at created
      cases created
  | some size =>
      have fresh : Sound window ⟨some ⟨window.id, none⟩, none⟩ := {
        present := fun _ => rfl
        live := fun other same => by
          cases same
          exact ⟨alive, rfl⟩
        configured := fun other same => by
          cases same
          exact .inl rfl
        sized := fun config same => by cases same
      }
      have configured :=
        fresh.configure answers (size_pos size.1) (size_pos size.2)
      rw [native] at created
      cases surface : answers.createSurface with
      | error error =>
          simp [surface, bind, Except.bind, Except.toOption] at created
      | ok made =>
          cases state : answers.createRenderState with
          | error error =>
              simp [surface, state, bind, Except.bind, Except.mapError,
                Except.toOption] at created
          | ok ready =>
              simp only [surface, state, bind, Except.bind,
                Except.mapError] at created
              cases result : (WindowGpu.configure ⟨some ⟨window.id, none⟩,
                  none⟩ answers (max size.1 1).toNat
                  (max size.2 1).toNat).2 with
              | error error =>
                  simp [result, Except.toOption] at created
              | ok done =>
                  simp only [result, pure, Except.pure, Except.toOption,
                    Option.some.injEq] at created
                  rw [← created]
                  exact configured

/-- A frame asks the surface, and assumes the size that is read back. -/
theorem of_asked
    {surface : Surface}
    {size : SurfaceConfiguration}
    (asked : gpu.asked = some (surface, size)) :
    gpu.surface = some surface ∧ gpu.surfaceConfig = some size := by
  unfold WindowGpu.asked at asked
  split at asked
  · next config own sameConfig sameSurface =>
      cases asked
      exact ⟨sameSurface, sameConfig⟩
  · cases asked

/-- Painting keeps the surface with its window. -/
theorem Sound.paint
    (sound : gpu.Sound window)
    (current : CurrentSurfaceTexture)
    (answers : WindowAnswers) :
    (gpu.paint window.id current answers).1.Sound window := by
  unfold WindowGpu.paint
  cases asks : gpu.asked with
  | none =>
      exact sound
  | some use =>
      obtain ⟨present, readBack⟩ := of_asked asks
      have alive := (sound.live _ present).1
      obtain ⟨wide, high⟩ := sound.sized _ readBack
      cases current with
      | outdated =>
          exact sound.configure answers wide high
      | lost =>
          exact sound.attachWindow alive answers
      | _ =>
          exact sound

end Soundness

end WindowGpu

end Waker
