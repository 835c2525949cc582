import Jp2Render.OutputFormat
import Jp2Render.Picture.Basic
import Jp2Render.Picture.Fault

/-!
Encoded pictures, by what can be read from them again: their dimensions and mode, the samples where
the coding keeps them, and the tables by which samples were quantized where it does not.
-/

namespace Jp2Render

namespace Quantization

def lightTable : List Nat :=
  [16, 11, 10, 16, 24, 40, 51, 61,
   12, 12, 14, 19, 26, 58, 60, 55,
   14, 13, 16, 24, 40, 57, 69, 56,
   14, 17, 22, 29, 51, 87, 80, 62,
   18, 22, 37, 56, 68, 109, 103, 77,
   24, 35, 55, 64, 81, 104, 113, 92,
   49, 64, 78, 87, 103, 121, 120, 101,
   72, 92, 95, 98, 112, 100, 103, 99]

def colourTable : List Nat :=
  [17, 18, 24, 47, 99, 99, 99, 99,
   18, 21, 26, 66, 99, 99, 99, 99,
   24, 26, 56, 99, 99, 99, 99, 99,
   47, 66, 99, 99, 99, 99, 99, 99,
   99, 99, 99, 99, 99, 99, 99, 99,
   99, 99, 99, 99, 99, 99, 99, 99,
   99, 99, 99, 99, 99, 99, 99, 99,
   99, 99, 99, 99, 99, 99, 99, 99]

/-- A quality within the range of the tables; the quality below zero by one is the usual one. -/
def heldQuality (quality : Int) : Nat :=
  if quality = -1 then 75 else (max 1 (min 100 quality)).toNat

def percentage (quality : Nat) : Nat := if quality < 50 then 5000 / quality else 200 - 2 * quality

def scaled (quality : Int) (table : List Nat) : List Nat :=
  table.map fun entry => max 1 (min 255 ((entry * percentage (heldQuality quality) + 50) / 100))

end Quantization

structure EncodedPicture where
  format : OutputFormat
  dimensions : Dimensions
  mode : PictureMode
  /-- The tables for light and for colour, as far as there are such. -/
  tables : List (List Nat) := []
  /-- The samples, where reading the picture again gives them. -/
  samples : Option (Array Int) := none
deriving DecidableEq, Repr

namespace EncodedPicture

def nativeModes : OutputFormat → List PictureMode
  | .jpg => [.rgb, .gray]
  | .gif => [.palette, .gray, .bilevel]
  | .png => [.rgb, .rgba, .gray, .bilevel, .palette]
  | .tif => [.rgb, .rgba, .gray, .bilevel]
  | .webp => [.rgb, .rgba]

def isGrayish : PictureMode → Bool
  | .bilevel | .integer | .word | .real => true
  | _ => false

/-- The picture in a mode that the format takes. Colours are gathered into a palette only from
pictures of light or of red, green and blue. -/
def convertedFor (format : OutputFormat) (p : Picture) : Except PictureFault Picture :=
  if p.mode ∈ nativeModes format then .ok p
  else if format = .gif then
    if p.mode = .rgb || p.mode = .rgba then .ok p else .error .wrongMode
  else if isGrayish p.mode && .gray ∈ nativeModes format then .ok p.toGray
  else .ok p.toRgb

def checkSides (format : OutputFormat) (p : Picture) : Except PictureFault Unit :=
  let longest := max p.grid.width p.grid.height
  match format with
  | .jpg => if 65500 < longest then .error .brokenStream else .ok ()
  | .gif => if 65535 < longest then .error .fieldTooSmall else .ok ()
  | .webp => if 16383 < longest then .error .tooLargeForWebp else .ok ()
  | _ => .ok ()

def tablesFor (quality : Int) (mode : PictureMode) : List (List Nat) :=
  let light := Quantization.scaled quality Quantization.lightTable
  if mode = .rgb then [light, Quantization.scaled quality Quantization.colourTable] else [light]

/-- The samples that reading the picture again gives; colours that were gathered into a palette are
not kept. -/
def keptSamples (format : OutputFormat) (p : Picture) : Option (Array Int) :=
  match format with
  | .png | .tif => some p.grid.samples
  | .gif => if p.mode = .rgb || p.mode = .rgba then none else some p.toRgb.grid.samples
  | .jpg | .webp => none

def ofPicture (format : OutputFormat) (quality : Int) (p : Picture) :
    Except PictureFault EncodedPicture := do
  let converted ← convertedFor format p
  checkSides format converted
  return { format
           dimensions := converted.dimensions
           mode := converted.mode
           tables := if format = .jpg then tablesFor quality converted.mode else []
           samples := keptSamples format converted }

end EncodedPicture

end Jp2Render
