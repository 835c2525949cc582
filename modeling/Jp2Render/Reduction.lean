import Jp2Render.Arithmetic

/-!
Native reduction. The decoder can shrink an image by powers of two while decoding; a reduction of
`f` divides both sides by `2 ^ f`.
-/

namespace Jp2Render.Reduction

def limit : Int := 5

/-- How often a threshold can be halved, within a budget, before it falls below the scale. -/
def halvings (scale : Binary64) : (budget : Nat) → (threshold : Binary64) → Nat
  | 0, _ => 0
  | budget + 1, threshold =>
    if scale ≤ threshold then halvings scale budget (threshold / 2) + 1 else 0

def half : Binary64 := 1 / 2

/-- The largest reduction, up to a bound, that leaves at least the given scale. Halving a threshold
keeps exact powers of two exact. -/
def forScale (scale : Binary64) (bound : Int) : Nat :=
  halvings scale bound.toNat half

/-- The linear scale of a reduction, as one divided by a power of two. A negative reduction
enlarges; the power is then a small number itself. -/
def scale (reduction : Int) : Except ArithmeticFault Binary64 :=
  if 0 ≤ reduction then do
    Arithmetic.quotient 1 (← Arithmetic.toReal (1 <<< reduction.toNat))
  else
    Arithmetic.quotient 1 (.ofRatio false 1 (1 <<< min reduction.natAbs 1100))

end Jp2Render.Reduction
