import Jp2Render.Picture.Bicubic
import Jp2Render.Picture.Level

/-!
Resizing and sampling of levels by straight lines between samples. Before an axis is shortened it is
smoothed, so that no detail is lost between the new samples. At its ends an axis goes on as if it
were mirrored in its first and its last sample.
-/

namespace Jp2Render.Linear

def mirrorIndex (length : Nat) (i : Int) : Nat :=
  if length ≤ 1 then 0
  else
    let period : Int := 2 * (length - 1)
    let inside := i % period
    (if inside < length then inside else period - inside).toNat

def spread (n m : Nat) : Float :=
  let sigma := (Float.ofNat n / Float.ofNat m - 1.0) / 2.0
  if sigma < 0.0 then 0.0 else sigma

def weightUnit : Int := 1 <<< 48

def weights (sigma : Float) : Array Int :=
  let radius := (4.0 * sigma + 0.5).toUInt64.toNat
  let bell := Array.ofFn fun k : Fin (2 * radius + 1) =>
    let x := Float.ofNat k.val - Float.ofNat radius
    (-0.5 / (sigma * sigma) * (x * x)).exp
  let total := bell.foldl (· + ·) 0.0
  bell.map fun w => ((w / total) * 281474976710656.0 + 0.5).toUInt64.toNat

def mean (weights : Array Int) (length : Nat) (sample : Nat → Int) (place : Nat) : Int :=
  let radius := weights.size / 2
  let sum := weights.size.fold (fun k _ sum =>
    sum + weights.getD k 0 * sample (mirrorIndex length (place + k - radius))) 0
  sum / weightUnit

def smoothColumns (g : Grid) (height : Nat) : Grid :=
  let sigma := spread g.height height
  if sigma > 1e-15 then
    let weights := weights sigma
    .ofFn g.width g.height g.bands fun x y band =>
      mean weights g.height (fun k => g.sample x k band) y
  else g

def smoothRows (g : Grid) (width : Nat) : Grid :=
  let sigma := spread g.width width
  if sigma > 1e-15 then
    let weights := weights sigma
    .ofFn g.width g.height g.bands fun x y band =>
      mean weights g.width (fun k => g.sample k y band) x
  else g

/-- Where a new place lies on the old axis: the old place before it, the one after it, and how far
it is from the first to the second, as a numerator over twice the new length. -/
structure Between where
  first : Nat
  second : Nat
  part : Int

/-- The place of a new sample on an axis whose length goes from `n` to `m`. -/
def placeBetween (n m i : Nat) : Between :=
  let den : Int := 2 * m
  let last : Int := (n - 1) * den
  let plain : Int := (2 * i + 1) * n - m
  let place := if plain < 0 then -plain else if last < plain then 2 * last - plain else plain
  let first := (place / den).toNat
  ⟨min first (n - 1), min (first + 1) (n - 1), place % den⟩

def zoom (g : Grid) (width height : Nat) : Grid :=
  let columns := Array.ofFn fun i : Fin width => placeBetween g.width width i.val
  let rows := Array.ofFn fun i : Fin height => placeBetween g.height height i.val
  .ofFn width height g.bands fun x y band =>
    let column := columns.getD x ⟨0, 0, 0⟩
    let row := rows.getD y ⟨0, 0, 0⟩
    let along (k : Nat) : Int :=
      Level.between (g.sample column.first k band) (g.sample column.second k band) column.part
        (2 * width)
    Level.between (along row.first) (along row.second) row.part (2 * height)

def heldTo (g : Grid) (low high : Int) : Grid := g.mapSamples fun v => max low (min high v)

def resize (g : Grid) (width height : Nat) : Grid :=
  let shrinks := height < g.height || width < g.width
  let smooth := if shrinks then smoothRows (smoothColumns g height) width else g
  heldTo (zoom smooth width height) g.extremes.1 g.extremes.2

def sampleOrZero (g : Grid) (band : Nat) (x y : Int) : Int :=
  if x < 0 || y < 0 then 0 else g.sample x.toNat y.toNat band

def inUnits (t : Float) : Int := (t * 281474976710656.0).toUInt64.toNat

def value (g : Grid) (band : Nat) (px py : Float) : Int :=
  let (column, dx) := Bicubic.split px
  let (row, dy) := Bicubic.split py
  let along (y : Int) : Int :=
    Level.between (sampleOrZero g band column y) (sampleOrZero g band (column + 1) y) (inUnits dx)
      weightUnit
  Level.between (along row) (along (row + 1)) (inUnits dy) weightUnit

/-- The new grid, held to the old one's range. Where a new sample is zero because nothing of the old
grid is near, the range is widened by zero. -/
def transform (g : Grid) (width height : Nat) (m : AffineMap Binary64) : Grid :=
  let m := Bicubic.machineMap m
  let sampled := Grid.ofFn width height g.bands fun x y band =>
    let (px, py) := m.apply (Float.ofNat x) (Float.ofNat y)
    value g band px py
  let (low, high) := g.extremes
  heldTo sampled (if sampled.extremes.1 ≤ 0 then min 0 low else low) high

end Jp2Render.Linear
