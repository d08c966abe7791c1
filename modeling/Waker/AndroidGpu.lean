import Mathlib.Data.List.Basic

namespace Waker

/-!
# Painting on Android

The surface, its configuration, and the renderer, and what the window events and
the frames of the main loop do with them.  The renderer is a parameter: it
allocates, updates, and frees textures.  What the native window and the graphics
library answer is part of the event that asks them.
-/

/-- The texture changes of one frame. -/
structure TexturesDelta (TextureId ImageDelta : Type) where
  set : List (TextureId × List ImageDelta)
  free : List TextureId
  deriving Repr, DecidableEq

/-- The textures of a renderer and its operations on them. -/
structure Renderer (TextureId ImageDelta Textures : Type) where
  noTextures : Textures
  updateTexture : Textures → TextureId → ImageDelta → Textures
  freeTexture : Textures → TextureId → Textures

namespace Renderer

variable {TextureId ImageDelta Textures : Type}

/-- Make all updates of a frame. -/
def updateTextures
    (renderer : Renderer TextureId ImageDelta Textures)
    (set : List (TextureId × List ImageDelta))
    (textures : Textures) : Textures :=
  set.foldl
    (fun textures (id, deltas) =>
      deltas.foldl
        (fun textures delta => renderer.updateTexture textures id delta)
        textures)
    textures

/-- Free all textures a frame frees. -/
def freeTextures
    (renderer : Renderer TextureId ImageDelta Textures)
    (free : List TextureId)
    (textures : Textures) : Textures :=
  free.foldl renderer.freeTexture textures

/-- Make all texture changes of a frame. -/
def applyDelta
    (renderer : Renderer TextureId ImageDelta Textures)
    (textures : Textures)
    (delta : TexturesDelta TextureId ImageDelta) : Textures :=
  renderer.freeTextures delta.free
    (renderer.updateTextures delta.set textures)

/-- Make all texture changes of a list of frames. -/
def applyDeltas
    (renderer : Renderer TextureId ImageDelta Textures)
    (deltas : List (TexturesDelta TextureId ImageDelta)) : Textures :=
  deltas.foldl renderer.applyDelta renderer.noTextures

/-- The changes of the last frame are made last. -/
@[simp] theorem applyDeltas_concat
    (renderer : Renderer TextureId ImageDelta Textures)
    (deltas : List (TexturesDelta TextureId ImageDelta))
    (delta : TexturesDelta TextureId ImageDelta) :
    renderer.applyDeltas (deltas ++ [delta]) =
      renderer.applyDelta (renderer.applyDeltas deltas) delta :=
  List.foldl_concat ..

end Renderer

/-- The part of a surface configuration that is read back. -/
structure SurfaceConfiguration where
  width : Nat
  height : Nat
  deriving Repr, DecidableEq

/-- What the native window and the graphics library answer. -/
structure WindowAnswers where
  nativeWindow : Option (Int × Int)
  createSurface : Except String Unit
  createRenderState : Except String Unit
  compatible : Bool
  deriving Repr, DecidableEq

/-- What `get_current_texture` gives. -/
inductive CurrentSurfaceTexture where
  | success
  | suboptimal
  | outdated
  | lost
  | timeout
  | occluded
  | validation
  deriving Repr, DecidableEq

/-- A texture of the surface can be painted on. -/
def CurrentSurfaceTexture.isAcquired : CurrentSurfaceTexture → Bool
  | .success | .suboptimal => true
  | .outdated | .lost | .timeout | .occluded | .validation => false

/-- The renderer's textures and the surface it paints on. -/
structure AndroidGpu (Textures : Type) where
  textures : Textures
  surface : Bool
  surfaceConfig : Option SurfaceConfiguration
  deriving Repr, DecidableEq

namespace AndroidGpu

variable {TextureId ImageDelta Textures : Type}

/-- Configure the surface for a size. -/
def configure
    (gpu : AndroidGpu Textures)
    (answers : WindowAnswers)
    (width height : Nat) : AndroidGpu Textures × Except String Unit :=
  if gpu.surface then
    if answers.compatible then
      ({ gpu with surfaceConfig := some ⟨width, height⟩ }, .ok ())
    else
      (gpu, .error "Android surface is incompatible with the selected GPU")
  else
    (gpu, .error "Android render surface is unavailable")

/-- Configure the surface for the size of the native window. -/
def resizeFromApp
    (gpu : AndroidGpu Textures)
    (answers : WindowAnswers) : AndroidGpu Textures × Except String Unit :=
  match answers.nativeWindow with
  | none => (gpu, .error "Android native window is unavailable")
  | some (width, height) =>
      gpu.configure answers (max width 1).toNat (max height 1).toNat

/-- Create a surface for the native window and configure it. -/
def attachWindow
    (gpu : AndroidGpu Textures)
    (answers : WindowAnswers) : AndroidGpu Textures × Except String Unit :=
  match answers.nativeWindow with
  | none => (gpu, .error "Android native window is unavailable")
  | some (width, height) =>
      match answers.createSurface with
      | .error error => (gpu, .error error)
      | .ok () =>
          { gpu with surface := true }.configure answers
            (max width 1).toNat (max height 1).toNat

/-- Give up the surface. -/
def detachWindow (gpu : AndroidGpu Textures) : AndroidGpu Textures :=
  { gpu with surface := false, surfaceConfig := none }

/-- The size of the configured surface. -/
def dimensions (gpu : AndroidGpu Textures) : Option (Nat × Nat) :=
  gpu.surfaceConfig.map fun config => (config.width, config.height)

/-- A frame is presented: there is a surface and it gives a texture. -/
def presents
    (gpu : AndroidGpu Textures)
    (current : CurrentSurfaceTexture) : Bool :=
  gpu.dimensions.isSome && gpu.surface && current.isAcquired

/-- Create the renderer and a configured surface. -/
def new
    (renderer : Renderer TextureId ImageDelta Textures)
    (answers : WindowAnswers) : Except String (AndroidGpu Textures) :=
  match answers.nativeWindow with
  | none => .error "Android native window is unavailable"
  | some (width, height) => do
      answers.createSurface
      answers.createRenderState.mapError
        ("could not initialise Android wgpu: " ++ ·)
      let (gpu, configured) :=
        (⟨renderer.noTextures, true, none⟩ : AndroidGpu Textures).configure
          answers (max width 1).toNat (max height 1).toNat
      configured
      return gpu

/-- Paint a frame whose user interface has already run. -/
def paint
    (renderer : Renderer TextureId ImageDelta Textures)
    (gpu : AndroidGpu Textures)
    (delta : TexturesDelta TextureId ImageDelta)
    (current : CurrentSurfaceTexture)
    (answers : WindowAnswers) : AndroidGpu Textures × Except String Unit :=
  match gpu.dimensions with
  | none => (gpu, .ok ())
  | some (width, height) =>
      if gpu.surface then
        match current with
        | .success | .suboptimal =>
            let textures := renderer.updateTextures delta.set gpu.textures
            ({ gpu with textures := renderer.freeTextures delta.free textures },
              .ok ())
        | .outdated => gpu.configure answers width height
        | .lost => gpu.attachWindow answers
        | .timeout | .occluded | .validation => (gpu, .ok ())
      else
        (gpu, .ok ())

end AndroidGpu

end Waker
