import Jp2Render.Failure.Kind
import Jp2Render.FaultText

/-!
What can go wrong with pictures while they are read, scaled, rotated, filtered and encoded. Some of it
is found out by the program or follows from the sides of a picture; all else is for the libraries to
say that do the work.
-/

namespace Jp2Render

/-- The classes of faults that are told apart by those who handle them; nobody handles the others. -/
inductive FaultClass where
  | system
  | value
  | type
  | memory
  | pixelLimit
  | other
deriving DecidableEq, Repr

structure LibraryFault where
  faultClass : FaultClass
  text : FaultText
  foreign : FailureKind.ofName? text.kind = none
deriving DecidableEq, Repr

inductive PictureFault where
  | closed
  | noArea
  | sideTooLong (side : Int)
  | wrongMode
  | brokenStream
  | fieldTooSmall
  | tooLargeForWebp
  | bilevelInterpolation
  | bilevelSmoothing
  | arithmetic (fault : ArithmeticFault)
  | library (fault : LibraryFault)
deriving DecidableEq, Repr

namespace PictureFault

/-- Twice as many bits are tried for a side before the word that it has to fit in. -/
def sideMessage (side : Int) : String :=
  if side < 1 <<< 63 then "signed integer is greater than maximum"
  else "Python int too large to convert to C long"

def shown : PictureFault → FaultText
  | .closed => .value "Operation on closed image"
  | .noArea => .value "height and width must be > 0"
  | .sideTooLong side => .ofMessage "OverflowError" (sideMessage side)
  | .wrongMode => .value "image has wrong mode"
  | .brokenStream => .ofMessage "OSError" "broken data stream when writing image file"
  | .fieldTooSmall => .ofMessage "OverflowError" "int too big to convert"
  | .tooLargeForWebp =>
    .value "encoding error 5: Image size exceeds WebP limit of 16383 pixels"
  | .bilevelInterpolation =>
    .value ("Input image dtype is bool. Interpolation is not defined with bool data type. " ++
      "Please set order to 0 or explicitly cast input image to another data type.")
  | .bilevelSmoothing => .value "anti_aliasing must be False for boolean images"
  | .arithmetic fault => fault.shown
  | .library fault => fault.text

def faultClass : PictureFault → FaultClass
  | .brokenStream => .system
  | .sideTooLong _ | .fieldTooSmall => .other
  | .arithmetic .notANumberHasNoInteger => .value
  | .arithmetic _ => .other
  | .library fault => fault.faultClass
  | _ => .value

def failsStage (fault : PictureFault) : Bool := fault.faultClass ≠ .other

end PictureFault

end Jp2Render
