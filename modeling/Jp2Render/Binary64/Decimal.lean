import Jp2Render.Binary64.Basic

/-!
Binary64 numbers in decimal: rounded to a fixed number of places, as the fewest digits that read
back, and read from a decimal numeral. All three work on the exact value, in natural numbers.
-/

namespace Jp2Render.Binary64

def paddedDigits (width n : Nat) : String :=
  let digits := Nat.repr n
  String.ofList (List.replicate (width - digits.length) '0') ++ digits

def signText (negative : Bool) : String := if negative then "-" else ""

/-- The value rounded to `places` decimal places, ties to the even digit. The sign of a negative
number stays when every digit is zero. -/
def fixedText (places : Nat) : Binary64 → String
  | .finite negative units =>
    let scaled := roundQuotient (units * Nat.pow 10 places) unitsPerOne
    let whole := Nat.repr (scaled / Nat.pow 10 places)
    let fraction := paddedDigits places (scaled % Nat.pow 10 places)
    signText negative ++ whole ++ (if places = 0 then "" else "." ++ fraction)
  | .infinite negative => signText negative ++ "inf"
  | .nan => "nan"

/-!
The reals that round to a number form an interval around it; its ends belong to it iff the
significand is even. A number's shortest digits are the coarsest decimal grid that meets the
interval, and on that grid the nearest point. If any point of a grid lies in the interval, so does
one of the two neighbours of the number, so only these two are tried.
-/

/-- The interval of reals that round to a magnitude, as integers over `4 * scale`. -/
structure Interval where
  low : Nat
  high : Nat
  closed : Bool

/-- Half way to the neighbours of `units`, in quarter units: the lower neighbour of a power of two
is nearer than the upper one. -/
def roundingInterval (units : Nat) : Interval :=
  let exponent := Nat.log2 units - 52
  let gap := 1 <<< exponent
  let lowerGap := if exponent ≠ 0 ∧ units = 1 <<< (exponent + 52) then gap / 2 else gap
  { low := 4 * units - 2 * lowerGap
    high := 4 * units + 2 * gap
    closed := units / gap % 2 = 0 }

def Interval.contains (interval : Interval) (num den : Nat) : Bool :=
  -- `num / den` in quarter units against both ends
  if interval.closed then interval.low * den ≤ num && num ≤ interval.high * den
  else interval.low * den < num && num < interval.high * den

structure GridPoint where
  mantissa : Nat
  step : Int

def GridPoint.leading (point : GridPoint) : Int :=
  point.step + (Nat.repr point.mantissa).length - 1

/-- The power of ten of the first decimal digit of a positive magnitude. No magnitude is below
10⁻⁴⁰⁰, so the digits of 10⁴⁰⁰ times the value can be counted. -/
def leadingExponent (units : Nat) : Int :=
  ((Nat.repr (units * Nat.pow 10 400 / unitsPerOne)).length : Int) - 401

/-- The point of the grid of the given step that is nearest to the value and reads back; of two
equally near points the even one. -/
def onGrid? (units : Nat) (interval : Interval) (step : Int) : Option GridPoint :=
  -- the step of the grid over the size of a quarter unit
  let (num, den) := if 0 ≤ step then (Nat.pow 10 step.toNat * unitsPerOne * 4, 1)
    else (unitsPerOne * 4, Nat.pow 10 (-step).toNat)
  let value := 4 * units * den
  let below := value / num
  let twiceRest := 2 * (value % num)
  let reads (point : Nat) := interval.contains (point * num) den
  let belowIsNearer := twiceRest < num || (twiceRest = num && below % 2 = 0)
  if reads below && (belowIsNearer || !reads (below + 1)) then some ⟨below, step⟩
  else if reads (below + 1) then some ⟨below + 1, step⟩
  else none

/-- The coarsest grid point that reads back. Seventeen digits always read back. -/
def shortest (units : Nat) : GridPoint :=
  let interval := roundingInterval units
  let leading := leadingExponent units
  ((List.range 17).findSome? fun (count : Nat) => onGrid? units interval (leading - count)).getD
    ⟨0, 0⟩

def withoutTrailingZeros (digits : List Char) : List Char :=
  (digits.reverse.dropWhile (· = '0')).reverse

def exponentText (digits : List Char) (exponent : Int) : String :=
  let fraction := digits.drop 1
  String.ofList (digits.take 1) ++
    (if fraction.isEmpty then "" else "." ++ String.ofList fraction) ++
    "e" ++ (if exponent < 0 then "-" else "+") ++ paddedDigits 2 exponent.natAbs

def positionalText (digits : List Char) (exponent : Int) : String :=
  if exponent < 0 then
    "0." ++ String.ofList (List.replicate (exponent.natAbs - 1) '0' ++ digits)
  else
    let whole := exponent.toNat + 1
    let fraction := digits.drop whole
    String.ofList (digits.take whole ++ List.replicate (whole - digits.length) '0') ++ "." ++
      (if fraction.isEmpty then "0" else String.ofList fraction)

def text : Binary64 → String
  | .finite negative units =>
    signText negative ++
      if units = 0 then "0.0"
      else
        let point := shortest units
        let digits := withoutTrailingZeros (Nat.repr point.mantissa).toList
        if point.leading < -4 || 16 ≤ point.leading then exponentText digits point.leading
        else positionalText digits point.leading
  | .infinite negative => signText negative ++ "inf"
  | .nan => "nan"

/-- The number nearest to `digits * 10 ^ exponent`. Magnitudes that are plainly out of range are
settled by their digit count, so that no huge power is computed. -/
def ofDecimal (negative : Bool) (digits : Nat) (exponent : Int) : Binary64 :=
  let magnitude := ((Nat.repr digits).length : Int) + exponent
  if digits = 0 then .finite negative 0
  else if 400 < magnitude then .infinite negative
  else if magnitude < -400 then .finite negative 0
  else if 0 ≤ exponent then ofRatio negative (digits * Nat.pow 10 exponent.toNat) 1
  else ofRatio negative digits (Nat.pow 10 (-exponent).toNat)

end Jp2Render.Binary64
