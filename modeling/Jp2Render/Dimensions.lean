/-!
Pixel dimensions of an image.
-/

namespace Jp2Render

/-- Width and height. Both are integers as a header may state them, so neither need be positive. -/
structure Dimensions where
  width : Int
  height : Int
deriving DecidableEq, Repr, Inhabited

namespace Dimensions

def text (d : Dimensions) : String := toString d.width ++ "x" ++ toString d.height

def IsPositive (d : Dimensions) : Prop := 1 ≤ d.width ∧ 1 ≤ d.height

/-- The sides that a machine word is too short for, from two to the power of 31 on. -/
def longSide : Int := 2147483648

def IsLong (d : Dimensions) : Prop := longSide ≤ d.width ∨ longSide ≤ d.height

instance (d : Dimensions) : Decidable d.IsPositive := inferInstanceAs (Decidable (_ ∧ _))

instance (d : Dimensions) : Decidable d.IsLong := inferInstanceAs (Decidable (_ ∨ _))

structure IsCounted (d : Dimensions) : Prop where
  positive : d.IsPositive
  short : ¬ d.IsLong

end Dimensions

end Jp2Render
