import Jp2Render.Picture.Grid

/-!
Resizing by a windowed sinc. Each new sample is a weighted mean of the old samples around its place.
The weights of one axis depend on its old and new length only; they are fractions with a fixed
denominator, so that the means are exact. Rows and columns are resized one after the other, with
samples of eight bits in between.
-/

namespace Jp2Render.Lanczos

/-- The old samples that a new one is made of: the first of them, and their weights. -/
structure Window where
  first : Nat
  weights : Array Int

def unit : Nat := 1 <<< 22

def pi : Float := Float.ofBits 0x400921FB54442D18

def sinc (x : Float) : Float := if x == 0.0 then 1.0 else (x * pi).sin / (x * pi)

def kernel (x : Float) : Float :=
  if (-3.0 : Float) ≤ x && x < 3.0 then sinc x * sinc (x / 3.0) else 0.0

def wholePart (x : Float) : Nat := if x ≤ 0.0 then 0 else x.toUInt64.toNat

/-- A weight as a multiple of the unit; halves go away from zero. -/
def inUnits (w : Float) : Int :=
  let scaled := w * Float.ofNat unit
  if w < 0.0 then -(wholePart (0.5 - scaled) : Int) else (wholePart (0.5 + scaled) : Int)

/-- The window of a new place on an axis whose length goes from `n` to `m`. -/
def window (n m i : Nat) : Window :=
  let scale := Float.ofNat n / Float.ofNat m
  let stretch := if scale < 1.0 then 1.0 else scale
  let support := 3.0 * stretch
  let centre := (Float.ofNat i + 0.5) * scale
  let first := wholePart (centre - support + 0.5)
  let last := min n (wholePart (centre + support + 0.5))
  let weights := Array.ofFn fun k : Fin (last - first) =>
    kernel ((Float.ofNat (k.val + first) - centre + 0.5) * (1.0 / stretch))
  let total := weights.foldl (· + ·) 0.0
  { first, weights := weights.map fun w => inUnits (if total == 0.0 then w else w / total) }

def windows (n m : Nat) : Array Window := Array.ofFn fun i : Fin m => window n m i.val

def mean (w : Window) (sample : Nat → Int) : Int :=
  let sum := w.weights.size.fold (fun k _ sum => sum + w.weights.getD k 0 * sample (w.first + k)) 0
  max 0 (min 255 ((unit / 2 + sum) / unit))

def resizeRows (g : Grid) (width : Nat) : Grid :=
  let windows := windows g.width width
  .ofFn width g.height g.bands fun x y band =>
    mean (windows.getD x ⟨0, #[]⟩) fun k => g.sample k y band

def resizeColumns (g : Grid) (height : Nat) : Grid :=
  let windows := windows g.height height
  .ofFn g.width height g.bands fun x y band =>
    mean (windows.getD y ⟨0, #[]⟩) fun k => g.sample x k band

def columnsFirst (g : Grid) (width height : Nat) : Bool :=
  height < g.height && (g.height - height : Int) > 2 * (g.width - width : Int)

/-- Resizes a grid of eight-bit samples. An axis whose length stays is left alone. -/
def resize (g : Grid) (width height : Nat) : Grid :=
  let rows (g : Grid) := if width = g.width then g else resizeRows g width
  let columns (g : Grid) := if height = g.height then g else resizeColumns g height
  if columnsFirst g width height then rows (columns g) else columns (rows g)

end Jp2Render.Lanczos
