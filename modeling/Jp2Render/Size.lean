import Jp2Render.Arithmetic
import Jp2Render.Dimensions
import Jp2Render.Reduction

/-!
The requested output size. A size names a mode and states the numbers that its mode needs; what it
asks for is a `Scaling`. From a scaling follow the native reduction to decode with, and the target
dimensions of the scale step that comes after decoding.
-/

namespace Jp2Render

inductive ScaleMode where
  | full
  | fitWidth
  | fitHeight
  | fitInside
  | forced
  | percent
deriving DecidableEq, Repr

def ScaleMode.name : ScaleMode → String
  | .full => "full"
  | .fitWidth => "fit_width"
  | .fitHeight => "fit_height"
  | .fitInside => "fit_inside"
  | .forced => "forced"
  | .percent => "percent"

def ScaleMode.all : List ScaleMode := [.full, .fitWidth, .fitHeight, .fitInside, .forced, .percent]

def ScaleMode.ofName? (name : String) : Option ScaleMode := all.find? (·.name = name)

inductive Scaling where
  | full
  | fitWidth (width : Int)
  | fitHeight (height : Int)
  | fitInside (width height : Int)
  | forced (width height : Int)
  | percent (percent : Binary64)
deriving DecidableEq, Repr

/-- Why stated numbers are no size: the mode needs a positive one that is missing. -/
inductive SizeFault where
  | width (mode : ScaleMode)
  | height (mode : ScaleMode)
  | percent
deriving DecidableEq, Repr

def SizeFault.message : SizeFault → String
  | .width mode => mode.name ++ " scaling requires a positive width"
  | .height mode => mode.name ++ " scaling requires a positive height"
  | .percent => "percent scaling requires a positive percent"

structure SizeStatement where
  mode : ScaleMode
  width : Option Int
  height : Option Int
  percent : Option Binary64
deriving DecidableEq, Repr

namespace SizeStatement

def positiveWidth (s : SizeStatement) : Except SizeFault Int :=
  match s.width with
  | some w => if 0 < w then .ok w else .error (.width s.mode)
  | none => .error (.width s.mode)

def positiveHeight (s : SizeStatement) : Except SizeFault Int :=
  match s.height with
  | some h => if 0 < h then .ok h else .error (.height s.mode)
  | none => .error (.height s.mode)

def acceptedPercent (s : SizeStatement) : Except SizeFault Binary64 :=
  match s.percent with
  | some p => if p ≤ 0 then .error .percent else .ok p
  | none => .error .percent

/-- What the statement asks for. Numbers that the mode does not need may be anything. -/
def scaling (s : SizeStatement) : Except SizeFault Scaling :=
  match s.mode with
  | .full => .ok .full
  | .fitWidth => do return .fitWidth (← s.positiveWidth)
  | .fitHeight => do return .fitHeight (← s.positiveHeight)
  | .fitInside => do
    let width ← s.positiveWidth
    return .fitInside width (← s.positiveHeight)
  | .forced => do
    let width ← s.positiveWidth
    return .forced width (← s.positiveHeight)
  | .percent => do return .percent (← s.acceptedPercent)

end SizeStatement

structure Size where
  stated : SizeStatement
  scaling : Scaling
  meaning : stated.scaling = .ok scaling

namespace Size

def ofStatement (s : SizeStatement) : Except SizeFault Size :=
  match h : s.scaling with
  | .ok scaling => .ok ⟨s, scaling, h⟩
  | .error fault => .error fault

def full : Size := ⟨⟨.full, none, none, none⟩, .full, rfl⟩

end Size

namespace Scaling

open Arithmetic

/-- The linear scale that a scaling needs, where one number tells it. Forced sizes have two. -/
def linearScale? (scaling : Scaling) (area : Dimensions) :
    Except ArithmeticFault (Option Binary64) :=
  match scaling with
  | .full => .ok none
  | .forced _ _ => .ok none
  | .fitWidth width => do return some (← ratio width area.width)
  | .fitHeight height => do return some (← ratio height area.height)
  | .fitInside width height => do
    let horizontal ← ratio width area.width
    return some (Binary64.leastOf horizontal (← ratio height area.height))
  | .percent p => .ok (some (p / 100))

def reduction (scaling : Scaling) (area : Dimensions) (bound : Int) :
    Except ArithmeticFault Nat := do
  match ← scaling.linearScale? area with
  | none => return 0
  | some scale => return Reduction.forScale scale bound

def wholeLength (x : Binary64) : Except ArithmeticFault Int := do
  return max 1 (← nearest x)

def scaledBy (scale : Binary64) (source : Dimensions) : Except ArithmeticFault Dimensions := do
  let width ← timesInteger scale source.width
  let height ← timesInteger scale source.height
  return { width := ← wholeLength width, height := ← wholeLength height }

/-- The dimensions of the scaled raster. The source is what the decoder delivered, already reduced;
only a percentage has to make up for that, since the other targets are absolute. -/
def target (scaling : Scaling) (source : Dimensions) (reduction : Int) :
    Except ArithmeticFault Dimensions :=
  match scaling with
  | .full => .ok source
  | .forced width height => .ok { width := max 1 width, height := max 1 height }
  | .fitWidth width => do
    let height ← ratio (source.height * width) source.width
    return { width := max 1 width, height := ← wholeLength height }
  | .fitHeight height => do
    let width ← ratio (source.width * height) source.height
    return { width := ← wholeLength width, height := max 1 height }
  | .fitInside width height => do
    let horizontal ← ratio width source.width
    scaledBy (Binary64.leastOf horizontal (← ratio height source.height)) source
  | .percent p => do
    scaledBy (← quotient (p / 100) (← Reduction.scale reduction)) source

end Scaling

end Jp2Render
