import Jp2Render.Arithmetic
import Jp2Render.Binary64.Trigonometry
import Jp2Render.Dimensions

/-!
Clockwise rotation about the centre of an image, with an optional mirroring before it. The canvas
grows to the bounding box of the rotated image, and an affine map takes points of that canvas back
to points of the image.
-/

namespace Jp2Render

structure Rotation where
  degrees : Binary64
  mirror : Bool
deriving DecidableEq, Repr

structure AffineMap (K : Type) where
  a : K
  b : K
  c : K
  d : K
  e : K
  f : K

namespace AffineMap

variable {K : Type} [Add K] [Sub K] [Mul K] [Neg K]

def apply (m : AffineMap K) (x y : K) : K × K := (m.a * x + m.b * y + m.c, m.d * x + m.e * y + m.f)

/-- The map that turns back by the angle of the given cosine and sine, and takes the centre of the
canvas to the centre of the image. -/
def turningBack (cos sin : K) (imageX imageY canvasX canvasY : K) : AffineMap K :=
  let a := cos
  let b := sin
  let d := -sin
  let e := cos
  { a, b, d, e
    c := imageX - a * canvasX - b * canvasY
    f := imageY - d * canvasX - e * canvasY }

end AffineMap

/-- Where a pixel is addressed: at its corner, so that the first pixel reaches from zero to one, or
at its centre, so that the first pixel is at zero. -/
inductive PixelOrigin where
  | corner
  | centre
deriving DecidableEq, Repr

def PixelOrigin.offset {K : Type} [Div K] [OfNat K 0] [OfNat K 1] [OfNat K 2] : PixelOrigin → K
  | .corner => 0
  | .centre => 1 / 2

/-- What turning asks of numbers, beside sums, products and quotients of them: the cosine and the sine
of an angle in degrees, magnitudes, and the way from whole pixels to numbers and back. -/
class TurningNumber (K : Type) where
  cosine (degrees : K) : K
  sine (degrees : K) : K
  magnitude : K → K
  ofPixels : Int → Except ArithmeticFault K
  toPixels : K → Except ArithmeticFault Int

namespace Rotation

open Arithmetic

def none : Rotation := ⟨0, false⟩

def fullTurn : Binary64 := 360

def withinOneTurn (degrees : Binary64) : Binary64 := degrees.floorMod fullTurn

def normalized (rotation : Rotation) : Binary64 := withinOneTurn rotation.degrees

def angle (degrees : Binary64) : Binary64 := (withinOneTurn degrees).radians

instance : TurningNumber Binary64 where
  cosine degrees := (angle degrees).cos
  sine degrees := (angle degrees).sin
  magnitude := Binary64.abs
  ofPixels := toReal
  toPixels := nearest

section

open TurningNumber

variable {K : Type} [Add K] [Sub K] [Mul K] [Neg K] [Div K] [OfNat K 0] [OfNat K 1] [OfNat K 2]
  [TurningNumber K]

def timesPixels (x : K) (pixels : Int) : Except ArithmeticFault K := do
  return x * (← ofPixels pixels)

def boundingBox (source : Dimensions) (degrees : K) : Except ArithmeticFault Dimensions := do
  let cos := magnitude (cosine degrees)
  let sin := magnitude (sine degrees)
  let width := (← timesPixels cos source.width) + (← timesPixels sin source.height)
  let wide ← toPixels width
  let height := (← timesPixels sin source.width) + (← timesPixels cos source.height)
  return { width := max 1 wide, height := max 1 (← toPixels height) }

def centre (origin : PixelOrigin) (side : Int) : Except ArithmeticFault K := do
  return (← ofPixels side) / 2 - origin.offset

def canvasAndMap (source : Dimensions) (degrees : K) (origin : PixelOrigin) :
    Except ArithmeticFault (Dimensions × AffineMap K) := do
  let canvas ← boundingBox source degrees
  let imageX ← centre origin source.width
  let imageY ← centre origin source.height
  let canvasX ← centre origin canvas.width
  let canvasY ← centre origin canvas.height
  return (canvas, AffineMap.turningBack (cosine degrees) (sine degrees)
    imageX imageY canvasX canvasY)

end

end Rotation

end Jp2Render
