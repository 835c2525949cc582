import Jp2Render.Region
import Jp2Render.Rotation
import Jp2Render.Size
import Jp2Render.Text.Fields
import Jp2Render.Text.Numeral

/-!
The texts in which a request states its region, size and rotation.

A region is `full`, `x,y,w,h` or `pct:x,y,w,h`; a size is `full`, `max`, `w,`, `,h`, `w,h`, `!w,h`
or `pct:n`; a rotation is a number of degrees, after an exclamation mark if the image is mirrored
first. Region numbers, percents and degrees are real numerals, widths and heights are integers.
-/

namespace Jp2Render

/-- Why a text states no region, size or rotation. -/
inductive RequestTextFault where
  | numberCount (expected : Nat) (text : String)
  | notAReal (fault : Text.RealFault)
  | notAnInteger (fault : Text.IntegerFault)
  | regionNotPositive (text : String)
  | sizeWithoutComma (text : String)
  | sizeNotPositive (text : String)
  | sizeWithoutNumbers (text : String)
  | noSize (fault : SizeFault)
deriving DecidableEq, Repr

def RequestTextFault.message : RequestTextFault → String
  | .numberCount expected text =>
    "expected " ++ Nat.repr expected ++ " comma-separated numbers, got " ++ Text.quoted text
  | .notAReal fault => fault.message
  | .notAnInteger fault => fault.message
  | .regionNotPositive text => "region width and height must be positive: " ++ Text.quoted text
  | .sizeWithoutComma text => "size must contain a comma: " ++ Text.quoted text
  | .sizeNotPositive text => "size width and height must be positive: " ++ Text.quoted text
  | .sizeWithoutNumbers text => "size needs a width or a height: " ++ Text.quoted text
  | .noSize fault => fault.message

namespace RequestText

def real (cs : List Char) : Except RequestTextFault Binary64 :=
  (Text.readReal (String.ofList cs)).mapError .notAReal

def optionalInteger (cs : List Char) : Except RequestTextFault (Option Int) :=
  if cs.isEmpty then .ok none
  else ((Text.readInteger (String.ofList cs)).mapError .notAnInteger).map some

def percentMark : List Char := "pct:".toList

def rectangle (cs : List Char) : Except RequestTextFault Rectangle :=
  match Text.fields ',' cs with
  | [x, y, width, height] => do
    let x ← real x
    let y ← real y
    let width ← real width
    return { x, y, width, height := ← real height }
  | _ => .error (.numberCount 4 (String.ofList cs))

def regionRectangle (text : String) (cs : List Char) : Except RequestTextFault Rectangle := do
  let r ← rectangle cs
  if r.width ≤ 0 || r.height ≤ 0 then .error (.regionNotPositive text) else return r

def region (text : String) : Except RequestTextFault Region :=
  if text = "full" then .ok .full
  else
    match Text.after? percentMark text.toList with
    | some numbers => (regionRectangle text numbers).map .percent
    | none => (regionRectangle text text.toList).map .pixels

def sized (s : SizeStatement) : Except RequestTextFault Size :=
  (Size.ofStatement s).mapError .noSize

/-- The mode that the given numbers select; a leading mark asks to fit inside both. -/
def modeOf? (inside : Bool) (width height : Option Int) : Option ScaleMode :=
  match width, height with
  | some _, some _ => some (if inside then .fitInside else .forced)
  | some _, none => some .fitWidth
  | none, some _ => some .fitHeight
  | none, none => none

def isNotPositive : Option Int → Bool
  | some n => n ≤ 0
  | none => false

def widthAndHeight (text : String) : Except RequestTextFault Size :=
  match Text.cut? ',' (text.toList.dropWhile (· = '!')) with
  | none => .error (.sizeWithoutComma text)
  | some (before, after) => do
    let width ← optionalInteger before
    let height ← optionalInteger after
    if isNotPositive width || isNotPositive height then .error (.sizeNotPositive text)
    else
      match modeOf? (text.toList.head? = some '!') width height with
      | none => .error (.sizeWithoutNumbers text)
      | some mode => sized ⟨mode, width, height, none⟩

def size (text : String) : Except RequestTextFault Size :=
  if text = "full" || text = "max" then .ok .full
  else
    match Text.after? percentMark text.toList with
    | some number => do sized ⟨.percent, none, none, some (← real number)⟩
    | none => widthAndHeight text

/-- Degrees after any leading marks; one mark or more asks for mirroring. -/
def rotation (text : String) : Except RequestTextFault Rotation := do
  let degrees ← real (text.toList.dropWhile (· = '!'))
  return { degrees, mirror := text.toList.head? = some '!' }

end RequestText

end Jp2Render
