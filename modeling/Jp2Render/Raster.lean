import Jp2Render.Command
import Jp2Render.Picture.Library

/-!
Rasters: what the decoder delivers, as a picture in gray or in red, green and blue, together with
the native reduction that it was decoded with.
-/

namespace Jp2Render

structure RasterOrigin where
  source : Path
  command : List String
deriving DecidableEq, Repr

structure Raster where
  picture : Picture
  reduction : Int := 0
  origin : Option RasterOrigin := none
deriving Repr

inductive RasterFault where
  | empty
  | unread (length : Nat) (fault : LibraryFault)
  /-- The picture that has been read could not be brought into one of the two modes. -/
  | unconverted (fault : LibraryFault)
deriving DecidableEq, Repr

def LibraryFault.isUnreadable (fault : LibraryFault) : Bool :=
  fault.faultClass = .system || fault.faultClass = .value || fault.faultClass = .pixelLimit

namespace RasterFault

def unreadableMessage (length : Nat) (fault : LibraryFault) : String :=
  "Could not read " ++ Tool.decoder ++ " output (" ++ Nat.repr length ++ " bytes): " ++
    fault.text.message

def shown : RasterFault → FaultText
  | .empty => .ofMessage FailureKind.streamIO.name (Tool.decoder ++ " produced no output")
  | .unread length fault =>
    if fault.isUnreadable then .ofMessage FailureKind.streamIO.name (unreadableMessage length fault)
    else fault.text
  | .unconverted fault => fault.text

def cause? : RasterFault → Option FaultText
  | .unread _ fault => if fault.isUnreadable then some fault.text else none
  | _ => none

/-- Whether the output is to blame, and not the machine or a library that cannot deal with it. -/
def isReported : RasterFault → Bool
  | .empty => true
  | .unread _ fault => fault.isUnreadable
  | .unconverted _ => false

end RasterFault

namespace Raster

def dimensions (raster : Raster) : Dimensions := raster.picture.dimensions

def isStandard (picture : Picture) : Bool := picture.mode = .rgb || picture.mode = .gray

def standardized (picture : Picture) : Picture :=
  if isStandard picture then picture else picture.toRgb

def standardize (libraries : Libraries) (picture : Picture) : Except RasterFault Picture :=
  if isStandard picture then .ok picture
  else
    match libraries.pictures.refusal? .toRgb picture with
    | some fault => .error (.unconverted fault)
    | none => .ok picture.toRgb

def ofBytes (bytes : Bytes) (reduction : Int) (libraries : Libraries := .willing) :
    Except RasterFault Raster :=
  if bytes.isEmpty then .error .empty
  else do
    let picture ← (libraries.reader.read bytes).mapError (.unread bytes.length)
    return { picture := ← standardize libraries picture, reduction }

end Raster

end Jp2Render
