import Jp2Render.Binary64.Decimal
import Jp2Render.Proofs.Binary64.Powers
import Jp2Render.Text.Numeral

/-!
The range of binary64 numbers. Every numeral is read as a rounded number, so none as a finite number
beyond the largest one; and an integer that is nearest to such a number has itself a number that is
nearest to it.
-/

namespace Jp2Render

namespace Binary64

inductive InRange : Binary64 → Prop
  | finite {negative : Bool} {units : Nat} (within : units ≤ largestUnits) :
      InRange (.finite negative units)
  | infinite {negative : Bool} : InRange (.infinite negative)
  | nan : InRange .nan

theorem Rounded.inRange {x : Binary64} (number : x.Rounded) : x.InRange := by
  cases number with
  | nan => exact .nan
  | @ofUnits negative units representable =>
      by_cases inside : units < overflowUnits
      · have kept : roundUnits units 1 = units := by
          simpa using roundUnits_mul representable Nat.one_pos
        have range : units < rangeUnits * 1 :=
          (roundUnits_lt_overflow_iff Nat.one_pos).mp (by rwa [kept])
        have within := roundUnits_le_largest Nat.one_pos range
        rw [kept] at within
        rw [ofUnits_finite inside]
        exact .finite within
      · rw [ofUnits_infinite (Nat.le_of_not_lt inside)]
        exact .infinite

theorem rounded_zero (negative : Bool) : (finite negative 0).Rounded := by
  rw [← ofUnits_finite overflowUnits_pos]
  exact .ofUnits (representable_of_lt (by decide))

theorem rounded_ofRatio (negative : Bool) (num : Nat) {den : Nat} (positive : 0 < den) :
    (ofRatio negative num den).Rounded :=
  .ofUnits (representable_roundUnits _ positive)

theorem rounded_add (x y : Binary64) : (x + y).Rounded := by
  show (x.add y).Rounded
  unfold Binary64.add
  split
  · simp only
    split
    · exact rounded_zero _
    · exact .ofUnits (representable_roundUnits _ Nat.one_pos)
  · exact rounded_infinite _
  · exact rounded_infinite _
  · split
    · exact rounded_infinite _
    · exact .nan
  · exact .nan
  · exact .nan

theorem rounded_ofDecimal (negative : Bool) (digits : Nat) (exponent : Int) :
    (ofDecimal negative digits exponent).Rounded := by
  unfold ofDecimal
  simp only
  split
  · exact rounded_zero negative
  · split
    · exact rounded_infinite negative
    · split
      · exact rounded_zero negative
      · split
        · exact rounded_ofRatio negative _ Nat.one_pos
        · exact rounded_ofRatio negative _ (Nat.pow_pos (by decide))

end Binary64

namespace Text

open Binary64

theorem rounded_decimalOf? {negative : Bool} {cs : List Char} {x : Binary64}
    (read : decimalOf? negative cs = some x) : x.Rounded := by
  unfold decimalOf? at read
  simp only at read
  split at read
  · cases read
  · split at read
    · rw [← Option.some.inj read]
      exact rounded_ofDecimal _ _ _
    · cases read

theorem rounded_readReal {text : String} {x : Binary64} (read : readReal text = .ok x) :
    x.Rounded := by
  unfold readReal at read
  split at read
  · next value found =>
    rw [← Except.ok.inj read]
    unfold realOf? at found
    simp only at found
    split at found
    · rw [← Option.some.inj found]
      exact rounded_infinite _
    · split at found
      · rw [← Option.some.inj found]
        exact .nan
      · exact rounded_decimalOf? found
  · cases read

end Text

namespace Arithmetic

open Binary64

def largestInteger : Nat := (2 ^ 53 - 1) <<< 971

theorem largestInteger_mul : largestInteger * unitsPerOne = largestUnits := by
  rw [largestInteger, unitsPerOne, mul_one_shiftLeft, ← Nat.shiftLeft_add, largestUnits]

theorem nearest_lt_integerRange {x : Binary64} {z : Int} (inside : x.InRange)
    (rounded : nearest x = .ok z) : z.natAbs < integerRange := by
  cases inside with
  | nan => cases rounded
  | infinite => cases rounded
  | @finite negative units within =>
      have whole : z.natAbs = roundQuotient units unitsPerOne := by
        rw [← Except.ok.inj rounded]
        cases negative with
        | false => exact Int.natAbs_natCast _
        | true => exact (Int.natAbs_neg _).trans (Int.natAbs_natCast _)
      rw [whole]
      calc roundQuotient units unitsPerOne ≤ largestInteger :=
            roundQuotient_le unitsPerOne_pos (by rw [largestInteger_mul]; exact within)
        _ < integerRange := by decide +kernel

end Arithmetic

end Jp2Render
