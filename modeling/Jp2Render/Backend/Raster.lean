import Jp2Render.Backend.Basic
import Jp2Render.Picture.Bicubic
import Jp2Render.Picture.Lanczos

/-!
The backend that works on pixels directly. Each step is done at once; the picture before a step is
released as soon as the one after it exists.
-/

namespace Jp2Render.RasterBackend

variable (libraries : Libraries)

/-- The library takes sides as machine words, and draws nothing without an area. -/
def checkCanvas (canvas : Dimensions) : Except PictureFault Unit :=
  if canvas.IsLong then
    .error (.sideTooLong (if Dimensions.longSide ≤ canvas.width then canvas.width else canvas.height))
  else if canvas.IsPositive then .ok ()
  else .error .noArea

def resized (picture : Picture) (target : Dimensions) : Picture :=
  let width := target.width.toNat
  let height := target.height.toNat
  { picture with
    grid := match picture.mode with
      | .bilevel => Bicubic.resizeNearest picture.grid width height
      | _ => Lanczos.resize picture.grid width height }

def scaled (target : Dimensions) (handle : HeldPicture) : Except PictureFault Picture := do
  let picture ← handle.content
  checkCanvas target
  libraries.pictures.ask (.scale target) picture
  return resized picture target

def scale (target : Dimensions) (handle : HeldPicture) :
    Except (StepFault HeldPicture) HeldPicture :=
  if handle.dimensions = target then .ok handle
  else
    match scaled libraries target handle with
    | .ok picture => .ok { picture }
    | .error fault => .error ⟨fault, handle⟩

def mirrored (handle : HeldPicture) : Except PictureFault HeldPicture := do
  let picture ← handle.content
  libraries.pictures.ask .mirror picture
  return { picture := { picture with grid := picture.grid.mirrored } }

def turned (degrees : Binary64) (handle : HeldPicture) : Except PictureFault Picture := do
  let (canvas, map) ←
    (Rotation.canvasAndMap handle.dimensions degrees .corner).mapError .arithmetic
  checkCanvas canvas
  libraries.pictures.ask (.turn canvas) handle.picture
  let picture ← handle.content
  let transform := match picture.mode with
    | .bilevel => Bicubic.transformNearest
    | _ => Bicubic.transform
  return { picture with
    grid := transform picture.grid canvas.width.toNat canvas.height.toNat map }

def turn (degrees : Binary64) (handle : HeldPicture) : Except PictureFault HeldPicture :=
  if degrees.isZero then .ok handle
  else (turned libraries degrees handle).map fun picture => { picture }

/-- Mirrors first. The handle is gone once it has been mirrored, even if turning fails then. -/
def rotate (rotation : Rotation) (handle : HeldPicture) :
    Except (StepFault HeldPicture) HeldPicture :=
  if rotation.mirror then
    match mirrored libraries handle with
    | .error fault => .error ⟨fault, handle⟩
    | .ok mirrored => (turn libraries rotation.normalized mirrored).mapError (⟨·, handle.release⟩)
  else (turn libraries rotation.normalized handle).mapError (⟨·, handle⟩)

def grayed (handle : HeldPicture) : Except PictureFault HeldPicture :=
  if handle.picture.mode = .gray then .ok handle
  else do
    let picture ← handle.content
    libraries.pictures.ask .toGray picture
    return { picture := picture.toGray }

/-- The handle in black and white. Like a mirrored one, it is gone as soon as it is gray. -/
def blackened (handle : HeldPicture) : Except (StepFault HeldPicture) HeldPicture := do
  let gray ← (grayed libraries handle).mapError (⟨·, handle⟩)
  let left := if handle.picture.mode = .gray then handle else handle.release
  let picture ← gray.content.mapError (⟨·, left⟩)
  (libraries.pictures.ask .toBilevel picture).mapError (⟨·, left⟩)
  return { picture := picture.toBilevel }

def filter (quality : Quality) (handle : HeldPicture) :
    Except (StepFault HeldPicture) HeldPicture :=
  match quality with
  | .gray => (grayed libraries handle).mapError (⟨·, handle⟩)
  | .bitonal => blackened libraries handle
  | .color | .default => .ok handle

def encode (_ : HeldPicture) (format : OutputFormat) (quality : Int) (handle : HeldPicture) :
    EncodingReport :=
  match handle.content with
  | .ok picture => Backend.encodePicture libraries picture format quality
  | .error fault => { result := .error fault, journal := [] }

def start (source : HeldPicture) : Except PictureFault HeldPicture := do
  let picture ← source.content
  libraries.pictures.ask .copy picture
  return { picture }

end RasterBackend

def rasterBackend (libraries : Libraries := .willing) : Backend HeldPicture where
  name := "raster"
  start := RasterBackend.start libraries
  scale := RasterBackend.scale libraries
  rotate := RasterBackend.rotate libraries
  filter := RasterBackend.filter libraries
  encode := RasterBackend.encode libraries
  release := HeldPicture.release
  dimensions := HeldPicture.dimensions

end Jp2Render
