/-!
Binary64 numbers as exact values. A finite number is a sign and a whole number of units, one unit
being 2⁻¹⁰⁷⁴, the smallest positive binary64 number; every finite binary64 number is such a
multiple. Each operation computes its exact result as a ratio of natural numbers and rounds once,
to 53 significant bits with ties to the even neighbour. Nothing below rests on the machine's own
arithmetic, so statements about rounded quotients become statements about natural numbers.
-/

namespace Jp2Render

/-- A binary64 number: signed zero and the finite numbers in units of 2⁻¹⁰⁷⁴, the two infinities,
and one number that is not a number. -/
inductive Binary64 where
  | finite (negative : Bool) (units : Nat)
  | infinite (negative : Bool)
  | nan
deriving DecidableEq, Repr, Inhabited

namespace Binary64

def unitsPerOne : Nat := 1 <<< 1074

def overflowUnits : Nat := 1 <<< 2098

/-- The integer nearest to `num / den`; a tie goes to the even neighbour. -/
def roundQuotient (num den : Nat) : Nat :=
  let whole := num / den
  let twice := 2 * (num % den)
  if twice < den then whole
  else if den < twice then whole + 1
  else if whole % 2 = 0 then whole else whole + 1

/-- How many low bits a magnitude of about `num / den` units loses to keep 53 significant ones. -/
def droppedBits (num den : Nat) : Nat := Nat.log2 (num / den) + 1 - 53

def roundUnits (num den : Nat) : Nat :=
  let dropped := droppedBits num den
  roundQuotient num (den <<< dropped) <<< dropped

/-- A rounded magnitude with its sign; past the finite range it is an infinity. -/
def ofUnits (negative : Bool) (units : Nat) : Binary64 :=
  if units < overflowUnits then .finite negative units else .infinite negative

def ofRatio (negative : Bool) (num den : Nat) : Binary64 :=
  ofUnits negative (roundUnits (num * unitsPerOne) den)

def zero : Binary64 := .finite false 0

/-- The number nearest to an integer; an infinity if the integer is too large. -/
def ofInt (z : Int) : Binary64 := ofRatio (z < 0) z.natAbs 1

instance (n : Nat) : OfNat Binary64 n := ⟨ofInt n⟩

def signedUnits (negative : Bool) (units : Nat) : Int :=
  if negative then -(units : Int) else units

def isNegative : Binary64 → Bool
  | .finite negative _ => negative
  | .infinite negative => negative
  | .nan => false

def isNaN : Binary64 → Bool
  | .nan => true
  | _ => false

def isFinite : Binary64 → Bool
  | .finite _ _ => true
  | _ => false

def isZero : Binary64 → Bool
  | .finite _ units => units == 0
  | _ => false

protected def neg : Binary64 → Binary64
  | .finite negative units => .finite (!negative) units
  | .infinite negative => .infinite (!negative)
  | .nan => .nan

def abs : Binary64 → Binary64
  | .finite _ units => .finite false units
  | .infinite _ => .infinite false
  | .nan => .nan

/-- A sum of opposite values is positive zero; zeros of one sign keep it. -/
protected def add : Binary64 → Binary64 → Binary64
  | .finite s a, .finite t b =>
    let sum := signedUnits s a + signedUnits t b
    if sum = 0 then .finite (s && t) 0
    else ofUnits (sum < 0) (roundUnits sum.natAbs 1)
  | .finite _ _, .infinite t => .infinite t
  | .infinite s, .finite _ _ => .infinite s
  | .infinite s, .infinite t => if s = t then .infinite s else .nan
  | .nan, _ => .nan
  | _, .nan => .nan

protected def sub (a b : Binary64) : Binary64 := a.add b.neg

protected def mul : Binary64 → Binary64 → Binary64
  | .finite s a, .finite t b => ofUnits (s != t) (roundUnits (a * b) unitsPerOne)
  | .finite s a, .infinite t => if a = 0 then .nan else .infinite (s != t)
  | .infinite s, .finite t b => if b = 0 then .nan else .infinite (s != t)
  | .infinite s, .infinite t => .infinite (s != t)
  | .nan, _ => .nan
  | _, .nan => .nan

protected def div : Binary64 → Binary64 → Binary64
  | .finite s a, .finite t b =>
    if b = 0 then (if a = 0 then .nan else .infinite (s != t))
    else ofUnits (s != t) (roundUnits (a * unitsPerOne) b)
  | .finite s _, .infinite t => .finite (s != t) 0
  | .infinite s, .finite t _ => .infinite (s != t)
  | .infinite _, .infinite _ => .nan
  | .nan, _ => .nan
  | _, .nan => .nan

instance : Neg Binary64 := ⟨Binary64.neg⟩
instance : Add Binary64 := ⟨Binary64.add⟩
instance : Sub Binary64 := ⟨Binary64.sub⟩
instance : Mul Binary64 := ⟨Binary64.mul⟩
instance : Div Binary64 := ⟨Binary64.div⟩

/-- The remainder with the sign of the divisor: the exact remainder of the magnitudes, moved up by
one divisor when the signs differ. The remainder is exact; only the move rounds. -/
def floorMod (a b : Binary64) : Binary64 :=
  match a, b with
  | .finite s m, .finite t n =>
    if n = 0 then .nan
    else
      let rest := m % n
      if rest = 0 then .finite t 0
      else if s = t then .finite s rest
      else Binary64.finite s rest + Binary64.finite t n
  | .finite s m, .infinite t => if m = 0 || s = t then .finite t m else .infinite t
  | _, _ => .nan

/-- The usual order; a number that is not a number is below nothing, and zeros are equal. -/
protected def lt : Binary64 → Binary64 → Bool
  | .finite s a, .finite t b => signedUnits s a < signedUnits t b
  | .finite _ _, .infinite t => !t
  | .infinite s, .finite _ _ => s
  | .infinite s, .infinite t => s && !t
  | .nan, _ => false
  | _, .nan => false

protected def le : Binary64 → Binary64 → Bool
  | .finite s a, .finite t b => signedUnits s a ≤ signedUnits t b
  | .finite _ _, .infinite t => !t
  | .infinite s, .finite _ _ => s
  | .infinite s, .infinite t => s || !t
  | .nan, _ => false
  | _, .nan => false

instance : LT Binary64 := ⟨fun a b => a.lt b = true⟩
instance : LE Binary64 := ⟨fun a b => a.le b = true⟩
instance (a b : Binary64) : Decidable (a < b) := inferInstanceAs (Decidable (_ = true))
instance (a b : Binary64) : Decidable (a ≤ b) := inferInstanceAs (Decidable (_ = true))

def leastOf (a b : Binary64) : Binary64 := if b < a then b else a

inductive RoundingFault where
  | infinity
  | notANumber
deriving DecidableEq, Repr

/-- The nearest integer; a tie goes to the even neighbour. -/
def round : Binary64 → Except RoundingFault Int
  | .finite negative units => .ok (signedUnits negative (roundQuotient units unitsPerOne))
  | .infinite _ => .error .infinity
  | .nan => .error .notANumber

/-- The number nearest to `num / den` for integers with `den ≠ 0`, whatever their size. A zero
takes the sign of the quotient of the signs. -/
def ofIntRatio (num den : Int) : Binary64 :=
  ofRatio (decide (num < 0) != decide (den < 0)) num.natAbs den.natAbs

def toBits : Binary64 → Nat
  | .finite negative units =>
    let exponent := Nat.log2 units - 52
    (if negative then 1 <<< 63 else 0) + exponent <<< 52 + units >>> exponent
  | .infinite negative => (if negative then 1 <<< 63 else 0) + 2047 <<< 52
  | .nan => 2047 <<< 52 + 1 <<< 51

def ofBits (bits : Nat) : Binary64 :=
  let negative := bits >>> 63 % 2 = 1
  let exponent := bits >>> 52 % 2048
  let fraction := bits % (1 <<< 52)
  if exponent = 2047 then (if fraction = 0 then .infinite negative else .nan)
  else if exponent = 0 then .finite negative fraction
  else .finite negative ((1 <<< 52 + fraction) <<< (exponent - 1))

end Binary64

end Jp2Render
