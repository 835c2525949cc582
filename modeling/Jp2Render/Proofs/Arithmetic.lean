import Jp2Render.Proofs.Binary64.Integers
import Jp2Render.Proofs.Sequencing

/-!
Where arithmetic fails. Integers of any size take part, so each operation on them has a range of its
own in which it gives a number.
-/

namespace Jp2Render

theorem Binary64.isZero_ofInt {z : Int} : (ofInt z).isZero = true ↔ z = 0 := by
  constructor
  · intro zero
    by_contra some
    have above : 1 * unitsPerOne ≤ roundUnits (z.natAbs * unitsPerOne) 1 := by
      refine le_roundUnits (representable_integer (by decide)) Nat.one_pos ?_
      rw [Nat.mul_one]
      exact Nat.mul_le_mul_right _ (Int.natAbs_pos.mpr some)
    have positive := unitsPerOne_pos
    rw [ofInt, ofRatio] at zero
    generalize roundUnits (z.natAbs * unitsPerOne) 1 = units at above zero
    by_cases inside : units < overflowUnits
    · rw [ofUnits_finite inside] at zero
      have : units = 0 := by simpa only [isZero, beq_iff_eq] using zero
      omega
    · rw [ofUnits, if_neg inside] at zero
      cases zero
  · rintro rfl
    rw [ofInt, ofRatio, Int.natAbs_zero, Nat.zero_mul, roundUnits_zero,
      ofUnits_finite overflowUnits_pos]
    rfl

namespace Arithmetic

open Binary64

variable {x y : Binary64} {z num den : Int}

theorem fails_nearest : Fails (nearest x) ↔ x.isFinite = false := by
  cases x <;> simp [nearest, Binary64.round, isFinite]

theorem toReal_ofInt (inside : z.natAbs < integerRange) : toReal z = .ok (ofInt z) :=
  (toReal_eq_ok_iff z _).mpr ⟨inside, rfl⟩

theorem isFinite_ofIntRatio (some : den ≠ 0) :
    (ofIntRatio num den).isFinite = true ↔ num.natAbs < integerRange * den.natAbs := by
  have positive : 0 < den.natAbs := Int.natAbs_pos.mpr some
  rw [ofIntRatio, ofRatio, isFinite_ofUnits, roundUnits_lt_overflow_iff positive,
    ← integerRange_mul, Nat.mul_right_comm, Nat.mul_lt_mul_right unitsPerOne_pos]

theorem fails_ratio : Fails (ratio num den) ↔ den = 0 ∨ integerRange * den.natAbs ≤ num.natAbs := by
  unfold ratio
  split
  · next none => simp only [failsWith_error, none, true_or]
  · next some =>
    have range : (ofIntRatio num den).isFinite = true ↔ num.natAbs < integerRange * den.natAbs :=
      isFinite_ofIntRatio some
    simp only
    split
    · next finite =>
      have := range.mp finite
      simp only [not_failsWith_ok, some, false_or, false_iff]
      omega
    · next outside =>
      have := mt range.mpr outside
      simp only [failsWith_error, some, false_or, true_iff]
      omega

theorem ratio_ok {real : Binary64} (done : ratio num den = .ok real) : real = ofIntRatio num den := by
  unfold ratio at done
  split at done
  · cases done
  · simp only at done
    split at done
    · exact (Except.ok.inj done).symm
    · cases done

theorem fails_quotient : Fails (quotient x y) ↔ y.isZero = true := by
  unfold quotient
  split <;> simp_all

theorem quotient_ok (divides : y.isZero = false) : quotient x y = .ok (x / y) := by
  rw [quotient, divides]
  rfl

theorem timesInteger_ok (inside : z.natAbs < integerRange) :
    timesInteger x z = .ok (x * ofInt z) := by
  rw [timesInteger, toReal_ofInt inside]
  rfl

theorem fails_overInteger (inside : z.natAbs < integerRange) :
    Fails (overInteger x z) ↔ z = 0 := by
  rw [overInteger, toReal_ofInt inside, ok_bind, fails_quotient, isZero_ofInt]

end Arithmetic

end Jp2Render
