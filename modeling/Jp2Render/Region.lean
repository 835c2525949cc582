import Jp2Render.Arithmetic
import Jp2Render.Binary64.Decimal
import Jp2Render.Dimensions

/-!
The part of an image that a request asks for: all of it, or a rectangle in pixels or in percent of
the full image. A region has an extent in whole pixels, and an argument for the decoder, which
takes fractions of the full image, row before column.
-/

namespace Jp2Render

structure Rectangle where
  x : Binary64
  y : Binary64
  width : Binary64
  height : Binary64
deriving DecidableEq, Repr

inductive Region where
  | full
  | pixels (rectangle : Rectangle)
  | percent (rectangle : Rectangle)
deriving DecidableEq, Repr

namespace Region

open Arithmetic

def percentOf (percent : Binary64) (length : Int) : Except ArithmeticFault Binary64 :=
  timesInteger (percent / 100) length

def toPixels (full : Dimensions) : Region → Except ArithmeticFault Region
  | .percent r => do
    return .pixels
      { x := ← percentOf r.x full.width
        y := ← percentOf r.y full.height
        width := ← percentOf r.width full.width
        height := ← percentOf r.height full.height }
  | region => .ok region

def rectangle? (full : Dimensions) (region : Region) :
    Except ArithmeticFault (Option Rectangle) := do
  match ← region.toPixels full with
  | .full => return none
  | .pixels r => return some r
  | .percent r => return some r

/-- How much of a side that starts at `offset` lies before the end of the image, in whole pixels
and at least one. -/
def visibleLength (length offset : Binary64) (full : Int) : Except ArithmeticFault Int := do
  let room := (← toReal full) - offset
  return max 1 (← nearest (Binary64.leastOf length room))

def extent (region : Region) (full : Dimensions) : Except ArithmeticFault Dimensions := do
  match ← region.rectangle? full with
  | none => return full
  | some r =>
    return { width := ← visibleLength r.width r.x full.width
             height := ← visibleLength r.height r.y full.height }

def fractionPair (first second : Binary64) : String :=
  "\x7b" ++ first.fixedText 7 ++ "," ++ second.fixedText 7 ++ "\x7d"

/-- The decoder's region argument, top and left before height and width; none for the full
image. -/
def argument (region : Region) (full : Dimensions) : Except ArithmeticFault (Option String) := do
  match ← region.rectangle? full with
  | none => return none
  | some r =>
    let x ← overInteger r.x full.width
    let y ← overInteger r.y full.height
    let width ← overInteger r.width full.width
    let height ← overInteger r.height full.height
    return some (fractionPair y x ++ "," ++ fractionPair height width)

end Region

end Jp2Render
