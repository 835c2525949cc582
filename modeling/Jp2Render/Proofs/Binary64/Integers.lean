import Jp2Render.Proofs.Binary64.Rounding
import Jp2Render.Proofs.Sequencing

/-!
Integers among the binary64 numbers. An integer has a nearest number iff it is in the finite range,
and that number is the integer itself below 2⁵³. A number within a quarter of an integer has it for
its nearest integer.
-/

namespace Jp2Render

namespace Binary64

theorem mul_one_shiftLeft (n k : Nat) : n * 1 <<< k = n <<< k := by
  rw [Nat.shiftLeft_eq, Nat.shiftLeft_eq, Nat.one_mul]

theorem one_shiftLeft_add_two (k : Nat) : 1 <<< (k + 2) = 4 * 2 ^ k := by
  rw [Nat.one_shiftLeft, Nat.pow_add, Nat.mul_comm]

theorem unitsPerOne_eq_quarters : unitsPerOne = 4 * 2 ^ 1072 := by
  rw [unitsPerOne, one_shiftLeft_add_two]

theorem unitsPerOne_pos : 0 < unitsPerOne := by
  rw [unitsPerOne, Nat.one_shiftLeft]
  positivity

theorem overflowUnits_pos : 0 < overflowUnits := by
  rw [overflowUnits, Nat.one_shiftLeft]
  positivity

@[simp] theorem isFinite_ofUnits (negative : Bool) (units : Nat) :
    (ofUnits negative units).isFinite = true ↔ units < overflowUnits := by
  unfold ofUnits
  split <;> simp_all [isFinite]

theorem ofUnits_finite {units : Nat} (inside : units < overflowUnits) (negative : Bool) :
    ofUnits negative units = .finite negative units := by
  simp [ofUnits, inside]

theorem finite_mul_finite (s t : Bool) (a b : Nat) :
    finite s a * finite t b = ofUnits (s != t) (roundUnits (a * b) unitsPerOne) := by
  show Binary64.mul _ _ = _
  rw [Binary64.mul]

theorem ofNat_eq (n : Nat) : (OfNat.ofNat n : Binary64) = ofInt n := rfl

@[simp] theorem signedUnits_false (units : Nat) : signedUnits false units = units := rfl

theorem finite_add_finite (a b : Nat) :
    finite false a + finite false b = ofUnits false (roundUnits (a + b) 1) := by
  show Binary64.add _ _ = _
  unfold Binary64.add
  by_cases none : a + b = 0
  · obtain ⟨rfl, rfl⟩ : a = 0 ∧ b = 0 := by omega
    rw [Nat.add_zero, roundUnits_zero, ofUnits_finite overflowUnits_pos]
    rfl
  · have some : ¬ (a + b : Int) = 0 := by omega
    have positive : ¬ (a + b : Int) < 0 := by omega
    have magnitude : (a + b : Int).natAbs = a + b := by omega
    simp only [signedUnits_false, some, if_false, magnitude, positive, decide_false]

theorem add_comm (x y : Binary64) : x + y = y + x := by
  show Binary64.add x y = Binary64.add y x
  cases x with
  | nan => cases y <;> rfl
  | infinite s =>
      cases y with
      | infinite t => cases s <;> cases t <;> rfl
      | _ => rfl
  | finite s a =>
      cases y with
      | finite t b => simp only [Binary64.add, Int.add_comm (signedUnits s a), Bool.and_comm s]
      | _ => rfl

theorem representable_integer {n : Nat} (small : n < 2 ^ 53) : Representable (n * unitsPerOne) := by
  rw [unitsPerOne, mul_one_shiftLeft]
  exact (representable_of_lt small).shiftLeft 1074

theorem integer_lt_overflow {n : Nat} (small : n < 2 ^ 53) : n * unitsPerOne < overflowUnits := by
  rw [unitsPerOne, mul_one_shiftLeft]
  exact shiftLeft_lt_one_shiftLeft small (by decide)

theorem unitsPerOne_lt_overflow : unitsPerOne < overflowUnits := by
  have inside := integer_lt_overflow (by decide : 1 < 2 ^ 53)
  rwa [Nat.one_mul] at inside

theorem representable_quarter {n : Nat} (small : n < 2 ^ 50) :
    Representable (n * unitsPerOne + 2 ^ 1072) := by
  refine ⟨4 * n + 1, 1072, by omega, ?_⟩
  rw [unitsPerOne_eq_quarters]
  generalize 2 ^ 1072 = quarter
  ring

theorem isNegative_ofUnits (negative : Bool) (units : Nat) :
    (ofUnits negative units).isNegative = negative := by
  unfold ofUnits
  split <;> rfl

theorem isNegative_ofRatio (negative : Bool) (num den : Nat) :
    (ofRatio negative num den).isNegative = negative := by
  rw [ofRatio, isNegative_ofUnits]

theorem isNegative_ofInt {z : Int} (least : 0 ≤ z) : (ofInt z).isNegative = false := by
  rw [ofInt, isNegative_ofRatio, decide_eq_false_iff_not]
  omega

theorem isNegative_mul {x y : Binary64} (left : x.isNegative = false)
    (right : y.isNegative = false) : (x * y).isNegative = false := by
  show (Binary64.mul x y).isNegative = false
  cases x with
  | nan => rfl
  | infinite s =>
      obtain rfl : s = false := left
      cases y with
      | nan => rfl
      | infinite t => rwa [Binary64.mul, Bool.false_bne]
      | finite t b =>
          rw [Binary64.mul, Bool.false_bne]
          split
          · rfl
          · exact right
  | finite s a =>
      obtain rfl : s = false := left
      cases y with
      | nan => rfl
      | infinite t =>
          rw [Binary64.mul, Bool.false_bne]
          split
          · rfl
          · exact right
      | finite t b =>
          rw [Binary64.mul, isNegative_ofUnits, Bool.false_bne]
          exact right

theorem round_nonneg {x : Binary64} (positive : x.isNegative = false) {z : Int}
    (rounded : x.round = .ok z) : 0 ≤ z := by
  cases x with
  | finite negative units =>
      obtain rfl : negative = false := positive
      rw [← Except.ok.inj rounded]
      exact Int.natCast_nonneg _
  | infinite negative => cases rounded
  | nan => cases rounded

end Binary64

namespace Arithmetic

open Binary64

def integerRange : Nat := (2 ^ 54 - 1) <<< 970

theorem integerRange_mul : integerRange * unitsPerOne = rangeUnits := by
  rw [integerRange, unitsPerOne, mul_one_shiftLeft, ← Nat.shiftLeft_add, rangeUnits]

theorem two_pow_lt_integerRange {k : Nat} (small : k ≤ 1022) : 2 ^ k < integerRange := by
  have low := Nat.pow_le_pow_right Nat.two_pos small
  exact low.trans_lt (by decide +kernel)

theorem isFinite_ofInt_iff (z : Int) : (ofInt z).isFinite = true ↔ z.natAbs < integerRange := by
  rw [ofInt, ofRatio, isFinite_ofUnits, roundUnits_lt_overflow_iff Nat.one_pos, Nat.mul_one,
    ← integerRange_mul, Nat.mul_lt_mul_right unitsPerOne_pos]

theorem toReal_eq_ok_iff (z : Int) (x : Binary64) :
    toReal z = .ok x ↔ z.natAbs < integerRange ∧ x = ofInt z := by
  unfold toReal
  rw [← isFinite_ofInt_iff]
  by_cases finite : (ofInt z).isFinite = true
  · simp [finite, eq_comm]
  · simp [finite]

theorem ofInt_of_lt {n : Nat} (small : n < 2 ^ 53) : ofInt n = .finite false (n * unitsPerOne) := by
  have exact : roundUnits (n * unitsPerOne) 1 = n * unitsPerOne := by
    have kept := roundUnits_mul (representable_integer small) Nat.one_pos
    rwa [Nat.mul_one] at kept
  rw [ofInt, ofRatio, Int.natAbs_natCast, exact, ofUnits_finite (integer_lt_overflow small)]
  simp

theorem toReal_of_lt {n : Nat} (small : n < 2 ^ 53) :
    toReal n = .ok (.finite false (n * unitsPerOne)) := by
  rw [toReal_eq_ok_iff, ofInt_of_lt small]
  refine ⟨?_, rfl⟩
  rw [Int.natAbs_natCast]
  exact small.trans (two_pow_lt_integerRange (by decide))

theorem nearest_eq_ok_iff (x : Binary64) : (∃ z, nearest x = .ok z) ↔ x.isFinite = true := by
  cases x <;> simp [nearest, Binary64.round, isFinite]

theorem nearest_finite (units : Nat) :
    nearest (.finite false units) = .ok (roundQuotient units unitsPerOne : Nat) := rfl

theorem nearest_of_near {n units : Nat} (low : n * unitsPerOne ≤ units)
    (high : units ≤ n * unitsPerOne + 2 ^ 1072) : nearest (.finite false units) = .ok n := by
  have under : roundQuotient units unitsPerOne ≤ n := by
    apply roundQuotient_le_of_lt_half unitsPerOne_pos
    have quarters := unitsPerOne_eq_quarters
    have positive := unitsPerOne_pos
    rw [Nat.add_mul, Nat.one_mul, Nat.mul_assoc]
    omega
  have above := le_roundQuotient unitsPerOne_pos low
  rw [nearest_finite, Nat.le_antisymm under above]

theorem nearest_ofUnits {units : Nat} {z : Int} (rounded : nearest (ofUnits false units) = .ok z) :
    units < overflowUnits ∧ z = (roundQuotient units unitsPerOne : Nat) := by
  have inside : units < overflowUnits := by
    rw [← isFinite_ofUnits false, ← nearest_eq_ok_iff]
    exact ⟨z, rounded⟩
  rw [ofUnits_finite inside, nearest_finite] at rounded
  exact ⟨inside, (Except.ok.inj rounded).symm⟩

theorem timesInteger_units {units n : Nat} {x : Binary64}
    (product : timesInteger (.finite false units) n = .ok x) :
    x = ofUnits false (roundUnits (units * roundUnits (n * unitsPerOne) 1) unitsPerOne) := by
  rw [timesInteger, bind_eq_ok_iff] at product
  obtain ⟨real, exact, product⟩ := product
  obtain ⟨inside, same⟩ := (toReal_eq_ok_iff n real).mp exact
  rw [same] at product
  have finite := (isFinite_ofInt_iff n).mpr inside
  have positive : ¬ (n : Int) < 0 := by omega
  rw [ofInt, ofRatio, Int.natAbs_natCast, isFinite_ofUnits] at finite
  rw [ofInt, ofRatio, Int.natAbs_natCast, ofUnits_finite finite, decide_eq_false positive,
    pure_eq_ok_iff, finite_mul_finite, bne_self_eq_false] at product
  exact product.symm

theorem le_nearest_add {a b n : Nat} {z : Int} (representable : Representable (n * unitsPerOne))
    (low : n * unitsPerOne ≤ a)
    (rounded : nearest (ofUnits false a + ofUnits false b) = .ok z) : n ≤ z := by
  -- a sum with an infinity has no nearest integer
  by_cases inside : a < overflowUnits
  · by_cases inside' : b < overflowUnits
    · rw [ofUnits_finite inside, ofUnits_finite inside', finite_add_finite] at rounded
      obtain ⟨-, rfl⟩ := nearest_ofUnits rounded
      have above : n * unitsPerOne ≤ roundUnits (a + b) 1 :=
        le_roundUnits representable Nat.one_pos (by omega)
      exact Int.ofNat_le.mpr (le_roundQuotient unitsPerOne_pos above)
    · simp only [ofUnits, inside, inside', if_true, if_false] at rounded
      cases rounded
  · by_cases inside' : b < overflowUnits
    · simp only [ofUnits, inside, inside', if_true, if_false] at rounded
      cases rounded
    · simp only [ofUnits, inside, inside', if_false] at rounded
      cases rounded

end Arithmetic

end Jp2Render
