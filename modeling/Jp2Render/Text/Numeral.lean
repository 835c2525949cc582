import Jp2Render.Binary64.Decimal
import Jp2Render.Text.Blank
import Jp2Render.Text.Digit
import Jp2Render.Text.Quoted

/-!
Numerals in text. A numeral may stand between blanks and may have a sign; its digits may be of any
script, and single underscores may group them. A real numeral has a fraction or an exponent if it
likes, and may also name an infinity or the number that is not a number, in any case.
-/

namespace Jp2Render.Text

def afterDigit (value? : Char → Option Nat) : List Char → List Char
  | '_' :: d :: rest => if (value? d).isSome then d :: rest else '_' :: d :: rest
  | cs => cs

theorem length_afterDigit_le (value? : Char → Option Nat) (cs : List Char) :
    (afterDigit value? cs).length ≤ cs.length := by
  unfold afterDigit
  split
  · split <;> simp
  · exact Nat.le_refl _

/-- A run of digits with single underscores between digits, and the rest of the text. What counts as
a digit, and for how much, is given. -/
def groupedDigits (value? : Char → Option Nat) : List Char → List Nat × List Char
  | [] => ([], [])
  | c :: rest =>
    match value? c with
    | none => ([], c :: rest)
    | some value =>
      let (values, left) := groupedDigits value? (afterDigit value? rest)
      (value :: values, left)
termination_by cs => cs.length
decreasing_by exact Nat.lt_succ_of_le (length_afterDigit_le value? rest)

def digitRun (cs : List Char) : List Nat × List Char := groupedDigits digitValue? cs

def takeSign : List Char → Bool × List Char
  | '+' :: rest => (false, rest)
  | '-' :: rest => (true, rest)
  | cs => (false, cs)

inductive IntegerFault where
  | notANumeral (text : String)
  | tooManyDigits (count : Nat)
deriving DecidableEq, Repr

def integerDigitLimit : Nat := 4300

def IntegerFault.message : IntegerFault → String
  | .notANumeral text => "invalid literal for int() with base 10: " ++ quotedUpTo 200 text
  | .tooManyDigits count =>
    "Exceeds the limit (4300 digits) for integer string conversion: value has " ++
      Nat.repr count ++ " digits; use sys.set_int_max_str_digits() to increase the limit"

def integerOf? (cs : List Char) : Option (Except Nat Int) :=
  let (negative, unsigned) := takeSign cs
  let (digits, rest) := digitRun unsigned
  if digits.isEmpty || rest.head? = some '_' then none
  else if integerDigitLimit < digits.length then some (.error digits.length)
  else if rest.isEmpty then
    some (.ok (if negative then -(ofDigits digits : Int) else ofDigits digits))
  else none

def readInteger (s : String) : Except IntegerFault Int :=
  match integerOf? (trimBy isNumeralBlank s.toList) with
  | none => .error (.notANumeral s)
  | some (.error count) => .error (.tooManyDigits count)
  | some (.ok value) => .ok value

structure RealFault where
  text : String
deriving DecidableEq, Repr

def RealFault.message (fault : RealFault) : String :=
  "could not convert string to float: " ++ quoted fault.text

def takeExponent : List Char → Option (Int × List Char)
  | c :: rest =>
    if c = 'e' || c = 'E' then
      let (negative, unsigned) := takeSign rest
      let (digits, left) := digitRun unsigned
      if digits.isEmpty then none
      else some (if negative then -(ofDigits digits : Int) else ofDigits digits, left)
    else some (0, c :: rest)
  | [] => some (0, [])

def takeFraction : List Char → List Nat × List Char
  | '.' :: rest => digitRun rest
  | cs => ([], cs)

def decimalOf? (negative : Bool) (cs : List Char) : Option Binary64 :=
  let (whole, afterWhole) := digitRun cs
  let (fraction, afterFraction) := takeFraction afterWhole
  if whole.isEmpty && fraction.isEmpty then none
  else
    match takeExponent afterFraction with
    | some (exponent, []) =>
      some (Binary64.ofDecimal negative (ofDigits (whole ++ fraction)) (exponent - fraction.length))
    | _ => none

def realOf? (cs : List Char) : Option Binary64 :=
  let (negative, unsigned) := takeSign cs
  let name := String.ofList (unsigned.map Char.toLower)
  if name = "inf" || name = "infinity" then some (.infinite negative)
  else if name = "nan" then some .nan
  else decimalOf? negative unsigned

def readReal (s : String) : Except RealFault Binary64 :=
  match realOf? (trimBy isNumeralBlank s.toList) with
  | some value => .ok value
  | none => .error ⟨s⟩

end Jp2Render.Text
