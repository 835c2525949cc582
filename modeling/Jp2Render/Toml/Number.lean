import Jp2Render.Toml.Quotation

/-!
Numbers of configuration documents. A reader answers the number and the rest of the text, or nothing
if no number stands at the beginning. What looks like the beginning of a longer number but is none
is left in the rest.
-/

namespace Jp2Render.Toml

def digitBelow? (bound : Nat) (c : Char) : Option Nat := (hexValue? c).filter (· < bound)

def base? : Char → Option Nat
  | 'x' => some 16
  | 'b' => some 2
  | 'o' => some 8
  | _ => none

def takeMarked : List Char → Option (Int × List Char)
  | '0' :: letter :: rest => do
    let base ← base? letter
    let (digits, left) := Text.groupedDigits (digitBelow? base) rest
    if digits.isEmpty then none
    else some (Int.ofNat (digits.foldl (fun value digit => base * value + digit) 0), left)
  | _ => none

/-- The digits of a whole number: a zero alone, or digits without a leading zero. -/
def takeWhole (cs : List Char) : Option (List Nat × List Char) :=
  match cs with
  | '0' :: rest => some ([0], rest)
  | _ =>
    let (digits, left) := Text.groupedDigits (digitBelow? 10) cs
    if digits.isEmpty then none else some (digits, left)

def takeFraction (cs : List Char) : Option (List Nat × List Char) :=
  match cs with
  | '.' :: rest =>
    let (digits, left) := Text.groupedDigits (digitBelow? 10) rest
    if digits.isEmpty then none else some (digits, left)
  | _ => none

def takeExponent (cs : List Char) : Option (Int × List Char) :=
  match cs with
  | letter :: rest =>
    if letter = 'e' || letter = 'E' then
      let (negative, unsigned) := Text.takeSign rest
      let (digits, left) := Text.groupedDigits (digitBelow? 10) unsigned
      if digits.isEmpty then none
      else some (if negative then -(Text.ofDigits digits : Int) else Text.ofDigits digits, left)
    else none
  | [] => none

def decimal? (cs : List Char) : Option (Except Fault (Value × List Char)) :=
  let (negative, unsigned) := Text.takeSign cs
  match takeWhole unsigned with
  | none => none
  | some (whole, left) =>
    let fraction := takeFraction left
    let afterFraction := (fraction.map Prod.snd).getD left
    let exponent := takeExponent afterFraction
    if fraction.isNone && exponent.isNone then
      if Text.integerDigitLimit < whole.length then some (.error (.tooManyDigits whole.length))
      else
        let n : Int := Text.ofDigits whole
        some (.ok (.integer (if negative then -n else n), left))
    else
      let places := (fraction.map Prod.fst).getD []
      let scale := (exponent.map Prod.fst).getD 0 - places.length
      some (.ok (.real (Binary64.ofDecimal negative (Text.ofDigits (whole ++ places)) scale),
        (exponent.map Prod.snd).getD afterFraction))

def named? (cs : List Char) : Option (Value × List Char) :=
  let (negative, unsigned) := Text.takeSign cs
  if startsWith ['i', 'n', 'f'] unsigned then some (.real (.infinite negative), unsigned.drop 3)
  else if startsWith ['n', 'a', 'n'] unsigned then some (.real .nan, unsigned.drop 3)
  else none

def number? (cs : List Char) : Option (Except Fault (Value × List Char)) :=
  match takeMarked cs with
  | some (n, left) => some (.ok (.integer n, left))
  | none => (decimal? cs).orElse fun _ => (named? cs).map .ok

end Jp2Render.Toml
