import Jp2Render.OutputFormat
import Jp2Render.Path
import Jp2Render.Region
import Jp2Render.Rotation
import Jp2Render.Size

/-!
A request: what to make of a source image. It names a region, a size, a rotation, a quality and an
output format; the source is a file with a format.
-/

namespace Jp2Render

inductive Quality where
  | color
  | gray
  | bitonal
  | default
deriving DecidableEq, Repr

namespace Quality

def name : Quality → String
  | .color => "color"
  | .gray => "gray"
  | .bitonal => "bitonal"
  | .default => "default"

def all : List Quality := [.color, .gray, .bitonal, .default]

def ofName? (name : String) : Option Quality := all.find? (·.name = name)

end Quality

inductive Feature where
  | mirroring
  | regionByPercent
  | regionByPixels
  | rotationArbitrary
  | rotationByQuarters
  | sizeAboveFull
  | sizeForced
  | sizeByHeight
  | sizeByPercent
  | sizeByWidth
  | sizeByWidthAndHeight
deriving DecidableEq, Repr

namespace Feature

def name : Feature → String
  | .mirroring => "mirroring"
  | .regionByPercent => "region_by_percent"
  | .regionByPixels => "region_by_pixels"
  | .rotationArbitrary => "rotation_arbitrary"
  | .rotationByQuarters => "rotation_by_90s"
  | .sizeAboveFull => "size_above_full"
  | .sizeForced => "size_by_forced_width_height"
  | .sizeByHeight => "size_by_height"
  | .sizeByPercent => "size_by_percent"
  | .sizeByWidth => "size_by_width"
  | .sizeByWidthAndHeight => "size_by_width_height"

def all : List Feature :=
  [.mirroring, .regionByPercent, .regionByPixels, .rotationArbitrary, .rotationByQuarters,
    .sizeAboveFull, .sizeForced, .sizeByHeight, .sizeByPercent, .sizeByWidth, .sizeByWidthAndHeight]

end Feature

namespace SourceFormat

def features (format : SourceFormat) : List Feature :=
  if format.outputs.isEmpty then [] else Feature.all

def qualities (format : SourceFormat) : List Quality :=
  if format.outputs.isEmpty then [] else [.bitonal, .color, .default, .gray]

end SourceFormat

structure Source where
  path : Path
  format : SourceFormat
deriving DecidableEq, Repr

namespace Source

def ofPath (path : Path) (declared : Option SourceFormat) : Source :=
  { path, format := declared.getD (SourceFormat.ofName path.name) }

end Source

structure Request where
  format : OutputFormat
  region : Region := .full
  size : Size := .full
  rotation : Rotation := .none
  quality : Quality := .default

end Jp2Render
