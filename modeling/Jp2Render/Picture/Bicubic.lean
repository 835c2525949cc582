import Jp2Render.Binary64.Trigonometry
import Jp2Render.Picture.Grid
import Jp2Render.Rotation

/-!
Sampling through an affine map. A place of the new grid looks at a point of the old one, and takes
the value there of a piecewise cubic through the old samples, or just the nearest sample. What looks
past the old grid is zero.
-/

namespace Jp2Render.Bicubic

def machineMap (m : AffineMap Binary64) : AffineMap Float :=
  { a := m.a.toFloat, b := m.b.toFloat, c := m.c.toFloat
    d := m.d.toFloat, e := m.e.toFloat, f := m.f.toFloat }

/-- The cubic between the second and the third of four values, at a fraction of the way. -/
def cubic (v1 v2 v3 v4 t : Float) : Float :=
  let p1 := v2
  let p2 := v3 - v1
  let p3 := 2.0 * (v1 - v2) + v3 - v4
  let p4 := v2 - v1 - v3 + v4
  p1 + t * (p2 + t * (p3 + t * p4))

def held (length : Nat) (i : Int) : Nat := (max 0 (min (length - 1 : Int) i)).toNat

def split (x : Float) : Int × Float := (x.floor.toInt64.toInt, x - x.floor)

def toByte (v : Float) : Int :=
  if v ≤ 0.0 then 0 else if v ≥ 255.0 then 255 else v.toUInt8.toNat

def alongRow (g : Grid) (band : Nat) (x : Int) (t : Float) (y : Nat) : Float :=
  let sample (k : Int) : Float := Float.ofInt (g.sample (held g.width (x + k)) y band)
  cubic (sample 0) (sample 1) (sample 2) (sample 3) t

def rowOr (g : Grid) (row : Nat → Float) (y : Int) (before : Float) : Float :=
  if 0 ≤ y && y < g.height then row y.toNat else before

def value (g : Grid) (band : Nat) (px py : Float) : Int :=
  if px < 0.0 || px ≥ Float.ofNat g.width || py < 0.0 || py ≥ Float.ofNat g.height then 0
  else
    let (column, dx) := split (px - 0.5)
    let (row, dy) := split (py - 0.5)
    let along := alongRow g band (column - 1) dx
    let v1 := along (held g.height (row - 1))
    let v2 := rowOr g along row v1
    let v3 := rowOr g along (row + 1) v2
    let v4 := rowOr g along (row + 2) v3
    toByte (cubic v1 v2 v3 v4 dy)

def point (m : AffineMap Float) (x y : Nat) : Float × Float :=
  m.apply (Float.ofNat x + 0.5) (Float.ofNat y + 0.5)

def transform (g : Grid) (width height : Nat) (m : AffineMap Binary64) : Grid :=
  let m := machineMap m
  .ofFn width height g.bands fun x y band =>
    let (px, py) := point m x y
    value g band px py

def nearestValue (g : Grid) (band : Nat) (px py : Float) : Int :=
  if px < 0.0 || py < 0.0 then 0
  else g.sample px.floor.toUInt64.toNat py.floor.toUInt64.toNat band

def transformNearest (g : Grid) (width height : Nat) (m : AffineMap Binary64) : Grid :=
  let m := machineMap m
  .ofFn width height g.bands fun x y band =>
    let (px, py) := point m x y
    nearestValue g band px py

def resizeNearest (g : Grid) (width height : Nat) : Grid :=
  .ofFn width height g.bands fun x y band =>
    g.sample ((2 * x + 1) * g.width / (2 * width)) ((2 * y + 1) * g.height / (2 * height)) band

end Jp2Render.Bicubic
