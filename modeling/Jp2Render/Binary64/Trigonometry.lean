import Jp2Render.Binary64.Basic

/-!
Angles. The sine and the cosine of an angle within one turn are summed from their power series, in
whole multiples of a unit far below what rounding can see, and rounded once.
-/

namespace Jp2Render.Binary64

def toFloat (x : Binary64) : Float := Float.ofBits (UInt64.ofNat x.toBits)

def radiansPerDegree : Binary64 := .ofBits 0x3F91DF46A2529D39

def radians (degrees : Binary64) : Binary64 := degrees * radiansPerDegree

def seriesUnit : Nat := 1 <<< 256

/-- The terms that are summed; within one turn those after them are below the unit. -/
def seriesTerms : Nat := 60

def squareOf (units : Nat) : Nat := units * units * seriesUnit / (unitsPerOne * unitsPerOne)

def alternatingSum (square : Nat) : (terms n : Nat) → Int
  | 0, _ => seriesUnit
  | terms + 1, n =>
    seriesUnit -
      square * alternatingSum square terms (n + 2) / (seriesUnit * ((n + 1) * (n + 2)) : Nat)

/-- A sum is off by less than rounding can see, but no sine or cosine may pass one for that. -/
def ofSum (negative : Bool) (magnitude one : Nat) : Binary64 :=
  ofRatio negative (min magnitude one) one

def cos : Binary64 → Binary64
  | .finite _ units =>
    let sum := alternatingSum (squareOf units) seriesTerms 0
    ofSum (sum < 0) sum.natAbs seriesUnit
  | _ => .nan

def sin : Binary64 → Binary64
  | .finite negative units =>
    let sum := alternatingSum (squareOf units) seriesTerms 1
    ofSum (negative != decide (sum < 0)) (units * sum.natAbs) (unitsPerOne * seriesUnit)
  | _ => .nan

end Jp2Render.Binary64
