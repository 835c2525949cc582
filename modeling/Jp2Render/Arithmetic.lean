import Jp2Render.Binary64.Basic

/-!
Arithmetic that mixes integers of any size with binary64 numbers. An integer takes part as the
number nearest to it; where there is none, and where a divisor is zero, the operation fails.
-/

namespace Jp2Render

inductive ArithmeticFault where
  | divisionByZero
  | realDivisionByZero
  | integerTooLarge
  | quotientTooLarge
  | infinityHasNoInteger
  | notANumberHasNoInteger
deriving DecidableEq, Repr

def ArithmeticFault.message : ArithmeticFault → String
  | .divisionByZero => "division by zero"
  | .realDivisionByZero => "float division by zero"
  | .integerTooLarge => "int too large to convert to float"
  | .quotientTooLarge => "integer division result too large for a float"
  | .infinityHasNoInteger => "cannot convert float infinity to integer"
  | .notANumberHasNoInteger => "cannot convert float NaN to integer"

namespace Arithmetic

def toReal (z : Int) : Except ArithmeticFault Binary64 :=
  let real := Binary64.ofInt z
  if real.isFinite then .ok real else .error .integerTooLarge

/-- The quotient of two integers, rounded once however large they are. -/
def ratio (num den : Int) : Except ArithmeticFault Binary64 :=
  if den = 0 then .error .divisionByZero
  else
    let real := Binary64.ofIntRatio num den
    if real.isFinite then .ok real else .error .quotientTooLarge

def quotient (x y : Binary64) : Except ArithmeticFault Binary64 :=
  if y.isZero then .error .realDivisionByZero else .ok (x / y)

def overInteger (x : Binary64) (den : Int) : Except ArithmeticFault Binary64 := do
  quotient x (← toReal den)

def timesInteger (x : Binary64) (z : Int) : Except ArithmeticFault Binary64 := do
  return x * (← toReal z)

def nearest (x : Binary64) : Except ArithmeticFault Int :=
  match x.round with
  | .ok z => .ok z
  | .error .infinity => .error .infinityHasNoInteger
  | .error .notANumber => .error .notANumberHasNoInteger

end Arithmetic

end Jp2Render
