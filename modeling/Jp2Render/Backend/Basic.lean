import Jp2Render.Journal
import Jp2Render.Picture.Encoded
import Jp2Render.Picture.Held
import Jp2Render.Picture.Library
import Jp2Render.Request

/-!
Backends of post-processing. A backend works on handles of its own: it opens one for a raster,
scales, rotates and filters it step by step, and encodes what it has become.
-/

namespace Jp2Render

inductive Stage where
  | opening
  | scaling
  | rotating
  | filtering
  | encoding
deriving DecidableEq, Repr

def Stage.name : Stage → String
  | .opening => "open"
  | .scaling => "scale"
  | .rotating => "rotate"
  | .filtering => "filter"
  | .encoding => "encode"

structure StepFault (Handle : Type) where
  fault : PictureFault
  left : Handle

structure EncodingReport where
  result : Except PictureFault EncodedPicture
  journal : Journal

structure Backend (Handle : Type) where
  name : String
  start : HeldPicture → Except PictureFault Handle
  scale : Dimensions → Handle → Except (StepFault Handle) Handle
  rotate : Rotation → Handle → Except (StepFault Handle) Handle
  filter : Quality → Handle → Except (StepFault Handle) Handle
  encode : HeldPicture → OutputFormat → Int → Handle → EncodingReport
  release : Handle → Handle
  /-- The dimensions that encoding the handle now would give. -/
  dimensions : Handle → Dimensions

inductive Adjustment where
  | scale (target : Dimensions)
  | rotate (rotation : Rotation)
  | filter (quality : Quality)
deriving DecidableEq, Repr

namespace Backend

variable {Handle : Type}

def adjust (backend : Backend Handle) : Adjustment → Handle → Except (StepFault Handle) Handle
  | .scale target => backend.scale target
  | .rotate rotation => backend.rotate rotation
  | .filter quality => backend.filter quality

def encodedRecord (picture : Picture) (format : OutputFormat) : Record :=
  ⟨.debug, .encode, "Encoded " ++ picture.dimensions.text ++ " " ++ picture.mode.name ++
    " image as " ++ format.codec ++ " (N bytes)"⟩

def encodePicture (libraries : Libraries) (picture : Picture) (format : OutputFormat)
    (quality : Int) : EncodingReport :=
  let result := libraries.pictures.ask (.write format quality) picture >>= fun _ =>
    EncodedPicture.ofPicture format quality picture
  { result, journal := if result.isOk then [encodedRecord picture format] else [] }

end Backend

end Jp2Render
