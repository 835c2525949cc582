import Jp2Render.Proofs.Binary64.Powers
import Mathlib.Algebra.Order.Field.Rat
import Mathlib.Tactic.FieldSimp
import Mathlib.Tactic.NormNum
import Mathlib.Tactic.Positivity

/-!
Exact values. A finite number is a rational, and so is what an operation on two of them would give if
nothing were rounded. The integer that a number is rounded to is the nearest to its value, and a result
within range differs from the exact one by at most one part in 2⁵³, or by half of the smallest number.
-/

namespace Jp2Render

def IsNearest (value : ℚ) (whole : ℤ) : Prop :=
  |value - whole| ≤ 1 / 2 ∧ (|value - whole| = 1 / 2 → Even whole)

namespace IsNearest

variable {value : ℚ} {whole : ℤ}

theorem neg (nearest : IsNearest value whole) : IsNearest (-value) (-whole) := by
  have same : |-value - ((-whole : ℤ) : ℚ)| = |value - whole| := by
    rw [Int.cast_neg, neg_sub_neg, abs_sub_comm]
  unfold IsNearest
  rw [same]
  exact ⟨nearest.1, fun tie => (nearest.2 tie).neg⟩

theorem within (nearest : IsNearest value whole) {least greatest : ℤ} (low : (least : ℚ) ≤ value)
    (high : value ≤ greatest) : least ≤ whole ∧ whole ≤ greatest := by
  have bounds := abs_le.mp nearest.1
  have below : (least : ℚ) < whole + 1 := by linarith
  have above : (whole : ℚ) < greatest + 1 := by linarith
  constructor
  · exact Int.lt_add_one_iff.mp (by exact_mod_cast below)
  · exact Int.lt_add_one_iff.mp (by exact_mod_cast above)

theorem of_int (whole : ℤ) : IsNearest whole whole := by
  unfold IsNearest
  norm_num

end IsNearest

namespace Binary64

theorem isNearest_roundQuotient (num : ℕ) {den : ℕ} (positive : 0 < den) :
    IsNearest (num / den) (roundQuotient num den : ℕ) := by
  obtain ⟨high, evenHigh, low, evenLow⟩ := roundQuotient_nearest num positive
  have divisor : (0 : ℚ) < den := Nat.cast_pos.mpr positive
  generalize roundQuotient num den = whole at *
  have highRat : (2 * num : ℚ) ≤ (2 * whole + 1) * den := by exact_mod_cast high
  have lowRat : (2 * whole * den : ℚ) ≤ 2 * num + den := by exact_mod_cast low
  have even : whole % 2 = 0 → Even ((whole : ℕ) : ℤ) := fun rest =>
    (Int.even_coe_nat whole).mpr (Nat.even_iff.mpr rest)
  have difference : (num / den : ℚ) - ((whole : ℕ) : ℤ) = (num - whole * den) / den := by
    rw [Int.cast_natCast]
    field_simp
  unfold IsNearest
  rw [difference, abs_div, abs_of_pos divisor, div_le_iff₀ divisor, div_eq_iff divisor.ne']
  refine ⟨abs_le.mpr ⟨by linarith, by linarith⟩, fun tie => ?_⟩
  rcases (abs_eq (by positivity)).mp tie with above | below
  · have exact : (2 * num : ℚ) = (2 * whole + 1) * den := by linarith
    exact even (evenHigh (by exact_mod_cast exact))
  · have exact : (2 * whole * den : ℚ) = 2 * num + den := by linarith
    exact even (evenLow (by exact_mod_cast exact))

theorem unitsPerOne_pos_rat : (0 : ℚ) < unitsPerOne := Nat.cast_pos.mpr unitsPerOne_pos

def signed (negative : Bool) (value : ℚ) : ℚ := if negative then -value else value

theorem signed_false (value : ℚ) : signed false value = value := rfl

theorem signed_zero (negative : Bool) : signed negative 0 = 0 := by
  cases negative <;> simp [signed]

theorem abs_signed_sub (negative : Bool) (value other : ℚ) :
    |signed negative value - signed negative other| = |value - other| := by
  cases negative with
  | false => rfl
  | true => simp only [signed, if_true, neg_sub_neg, abs_sub_comm]

theorem abs_signed (negative : Bool) (value : ℚ) : |signed negative value| = |value| := by
  have distance := abs_signed_sub negative value 0
  rwa [signed_zero, sub_zero, sub_zero] at distance

theorem signed_mul (s t : Bool) (value other : ℚ) :
    signed (s != t) (value * other) = signed s value * signed t other := by
  cases s <;> cases t <;> simp [signed]

theorem signed_div (s t : Bool) (value other : ℚ) :
    signed (s != t) (value / other) = signed s value / signed t other := by
  cases s <;> cases t <;> simp [signed, neg_div, div_neg]

/-- The exact value of a number. What is not finite has none, and counts as zero. -/
def toRat : Binary64 → ℚ
  | .finite negative units => signed negative (units / unitsPerOne)
  | .infinite _ => 0
  | .nan => 0

theorem toRat_finite (negative : Bool) (units : ℕ) :
    (finite negative units).toRat = signed negative (units / unitsPerOne) := rfl

theorem units_nonneg (units : ℕ) : (0 : ℚ) ≤ units / unitsPerOne :=
  div_nonneg (Nat.cast_nonneg units) unitsPerOne_pos_rat.le

theorem toRat_finite_eq_signedUnits (negative : Bool) (units : ℕ) :
    (finite negative units).toRat = (signedUnits negative units : ℤ) / unitsPerOne := by
  cases negative with
  | false => simp [toRat, signed, signedUnits]
  | true => simp [toRat, signed, signedUnits, neg_div]

theorem toRat_neg (x : Binary64) : (-x).toRat = -x.toRat := by
  show x.neg.toRat = -x.toRat
  cases x with
  | finite negative units => cases negative <;> simp [Binary64.neg, toRat, signed]
  | infinite negative => simp [Binary64.neg, toRat]
  | nan => simp [Binary64.neg, toRat]

def IsInteger (x : Binary64) (whole : ℤ) : Prop := x.isFinite = true ∧ x.toRat = whole

theorem isFinite_neg (x : Binary64) : (-x).isFinite = x.isFinite := by
  cases x <;> rfl

theorem finite_lt_finite_iff (s t : Bool) (a b : ℕ) :
    finite s a < finite t b ↔ (finite s a).toRat < (finite t b).toRat := by
  rw [toRat_finite_eq_signedUnits, toRat_finite_eq_signedUnits,
    div_lt_div_iff_of_pos_right unitsPerOne_pos_rat, Int.cast_lt]
  exact decide_eq_true_iff

theorem isZero_iff_toRat {x : Binary64} (finite : x.isFinite = true) :
    x.isZero = true ↔ x.toRat = 0 := by
  have units := unitsPerOne_pos_rat.ne'
  cases x with
  | finite negative units => cases negative <;> simp_all [isZero, toRat, signed]
  | infinite negative => cases finite
  | nan => cases finite

theorem isNearest_round {x : Binary64} {whole : ℤ} (rounded : x.round = .ok whole) :
    IsNearest x.toRat whole := by
  cases x with
  | finite negative units =>
      have magnitude := isNearest_roundQuotient units unitsPerOne_pos
      rw [← Except.ok.inj rounded]
      cases negative with
      | false => exact magnitude
      | true => exact magnitude.neg
  | infinite negative => cases rounded
  | nan => cases rounded

theorem abs_roundUnits_sub_le (num : ℕ) {den : ℕ} (positive : 0 < den) :
    |(roundUnits num den : ℚ) - num / den| ≤ num / den / 2 ^ 53 + 1 / 2 := by
  have divisor : (0 : ℚ) < den := Nat.cast_pos.mpr positive
  have some : (0 : ℚ) ≤ num / den / 2 ^ 53 := by positivity
  have kept : 0 < den * 2 ^ droppedBits num den := Nat.mul_pos positive (Nat.two_pow_pos _)
  obtain ⟨near, -⟩ := isNearest_roundQuotient num kept
  have filled := @le_quotient num den
  rw [roundUnits_eq]
  generalize roundQuotient num (den * 2 ^ droppedBits num den) = whole at *
  generalize droppedBits num den = dropped at *
  have power : (0 : ℚ) < 2 ^ dropped := by positivity
  -- what is rounded away is at most half of the last bit that is kept
  have scaled : |((whole * 2 ^ dropped : ℕ) : ℚ) - num / den| ≤ 2 ^ dropped / 2 := by
    have split : ((whole * 2 ^ dropped : ℕ) : ℚ) - num / den =
        -((num / (den * 2 ^ dropped : ℕ) : ℚ) - ((whole : ℕ) : ℤ)) * 2 ^ dropped := by
      push_cast
      field_simp
      ring
    rw [split, abs_mul, abs_neg, abs_of_pos power]
    calc _ ≤ 1 / 2 * (2 : ℚ) ^ dropped := mul_le_mul_of_nonneg_right near power.le
      _ = 2 ^ dropped / 2 := by ring
  by_cases none : dropped = 0
  · have whole : (2 : ℚ) ^ dropped = 1 := by rw [none, pow_zero]
    linarith
  · have large : (2 : ℚ) ^ 52 * (den * 2 ^ dropped) ≤ num := by
      have bits := (Nat.le_div_iff_mul_le kept).mp (filled (Nat.pos_of_ne_zero none))
      exact_mod_cast bits
    have part : (2 : ℚ) ^ dropped / 2 ≤ num / den / 2 ^ 53 := by
      rw [div_div, le_div_iff₀ (by positivity)]
      calc (2 : ℚ) ^ dropped / 2 * (den * 2 ^ 53 : ℚ) = 2 ^ 52 * (den * 2 ^ dropped) := by ring
        _ ≤ num := large
    linarith

def IsNumber (value : ℚ) : Prop :=
  ∃ negative units, Representable units ∧ (finite negative units).toRat = value

theorem IsNumber.neg {value : ℚ} (number : IsNumber value) : IsNumber (-value) := by
  obtain ⟨negative, units, representable, rfl⟩ := number
  exact ⟨!negative, units, representable, toRat_neg (finite negative units)⟩

theorem isNumber_natCast {n : ℕ} (small : n < 2 ^ 53) : IsNumber n := by
  have units := unitsPerOne_pos_rat
  refine ⟨false, _, representable_integer small, ?_⟩
  rw [toRat_finite, signed_false]
  push_cast
  field_simp

structure Rounds (value : ℚ) (x : Binary64) : Prop where
  finite : x.isFinite = true
  number : IsNumber x.toRat
  near : |x.toRat - value| ≤ |value| / 2 ^ 53 + 1 / (2 * unitsPerOne)
  le : ∀ {bound}, IsNumber bound → value ≤ bound → x.toRat ≤ bound
  ge : ∀ {bound}, IsNumber bound → bound ≤ value → bound ≤ x.toRat

namespace Rounds

variable {value : ℚ} {x : Binary64}

theorem exact (rounds : Rounds value x) (number : IsNumber value) : x.toRat = value :=
  le_antisymm (rounds.le number le_rfl) (rounds.ge number le_rfl)

theorem near_of_le (rounds : Rounds value x) {bound : ℚ} (within : |value| ≤ bound) :
    |x.toRat - value| ≤ bound / 2 ^ 53 + 1 / 2 ^ 61 := by
  have large : (2 : ℚ) ^ 60 ≤ unitsPerOne := by
    exact_mod_cast two_pow_le_unitsPerOne (by decide : 60 ≤ 1074)
  have unit : (1 : ℚ) / (2 * unitsPerOne) ≤ 1 / 2 ^ 61 := by
    refine one_div_le_one_div_of_le (by norm_num) ?_
    linarith
  have part : |value| / 2 ^ 53 ≤ bound / 2 ^ 53 := div_le_div_of_nonneg_right within (by norm_num)
  exact rounds.near.trans (add_le_add part unit)

theorem neg (rounds : Rounds value x) : Rounds (-value) (-x) where
  finite := (isFinite_neg x).trans rounds.finite
  number := by
    rw [toRat_neg]
    exact rounds.number.neg
  near := by
    rw [toRat_neg, neg_sub_neg, abs_sub_comm, abs_neg]
    exact rounds.near
  le := by
    intro bound number below
    rw [toRat_neg]
    exact neg_le.mp (rounds.ge number.neg (neg_le.mp below))
  ge := by
    intro bound number above
    rw [toRat_neg]
    exact le_neg.mp (rounds.le number.neg (le_neg.mp above))

end Rounds

theorem magnitude_nonneg (num den : ℕ) : (0 : ℚ) ≤ num / den / unitsPerOne :=
  div_nonneg (div_nonneg (Nat.cast_nonneg num) (Nat.cast_nonneg den)) unitsPerOne_pos_rat.le

/-- Values whose results are within the finite range, with much to spare. -/
def rangeBound : ℚ := 2 ^ 100

theorem lt_overflow_of_lt_bound {num den : ℕ} (positive : 0 < den)
    (bounded : (num / den / unitsPerOne : ℚ) ≤ rangeBound) : roundUnits num den < overflowUnits := by
  have divisor : (0 : ℚ) < den := Nat.cast_pos.mpr positive
  have units := unitsPerOne_pos_rat
  have within : num ≤ 2 ^ 100 * unitsPerOne * den := by
    have exact : (num : ℚ) ≤ 2 ^ 100 * unitsPerOne * den := by
      generalize (unitsPerOne : ℚ) = one at *
      rw [rangeBound, div_div, div_le_iff₀ (by positivity)] at bounded
      linarith
    exact_mod_cast exact
  have representable : Representable (2 ^ 100 * unitsPerOne) := by
    rw [Nat.mul_comm]
    exact (representable_integer (by decide : 1 < 2 ^ 53)).mul_two_pow 100
  have inside : 2 ^ 100 * unitsPerOne < overflowUnits := by
    rw [unitsPerOne, mul_one_shiftLeft]
    exact shiftLeft_lt_one_shiftLeft (by decide : 2 ^ 100 < 2 ^ 101) (by decide)
  exact (roundUnits_le representable positive within).trans_lt inside

theorem rounds_magnitude (num : ℕ) {den : ℕ} (positive : 0 < den)
    (bounded : (num / den / unitsPerOne : ℚ) ≤ rangeBound) :
    Rounds (num / den / unitsPerOne) (ofUnits false (roundUnits num den)) := by
  have units := unitsPerOne_pos_rat
  have divisor : (0 : ℚ) < den := Nat.cast_pos.mpr positive
  have least := magnitude_nonneg num den
  rw [ofUnits_finite (lt_overflow_of_lt_bound positive bounded)]
  constructor
  · rfl
  · exact ⟨false, _, representable_roundUnits num positive, rfl⟩
  · have near := abs_roundUnits_sub_le num positive
    rw [toRat_finite, signed_false, abs_of_nonneg least]
    generalize (unitsPerOne : ℚ) = one at *
    rw [← sub_div, abs_div, abs_of_pos units]
    calc _ ≤ (num / den / 2 ^ 53 + 1 / 2 : ℚ) / one := div_le_div_of_nonneg_right near units.le
      _ = _ := by field_simp
  · rintro bound ⟨negative, size, representable, rfl⟩ below
    rw [toRat_finite, signed_false]
    cases negative with
    | false =>
        rw [toRat_finite, signed_false] at below ⊢
        have exact : (num : ℚ) ≤ size * den :=
          (div_le_iff₀ divisor).mp ((div_le_div_iff_of_pos_right units).mp below)
        have within := roundUnits_le representable positive (by exact_mod_cast exact)
        exact div_le_div_of_nonneg_right (Nat.cast_le.mpr within) units.le
    | true =>
        -- nothing but zero is below a negative bound
        have size := units_nonneg size
        have none : (num / den / unitsPerOne : ℚ) = 0 :=
          le_antisymm (below.trans (neg_nonpos.mpr size)) least
        have zero : num = 0 := by simpa [units.ne', divisor.ne'] using none
        rw [zero, roundUnits_zero, Nat.cast_zero, zero_div]
        exact none.symm.le.trans below
  · rintro bound ⟨negative, size, representable, rfl⟩ above
    cases negative with
    | false =>
        rw [toRat_finite, signed_false] at above
        have exact : (size * den : ℚ) ≤ num :=
          (le_div_iff₀ divisor).mp ((div_le_div_iff_of_pos_right units).mp above)
        have within := le_roundUnits representable positive (by exact_mod_cast exact)
        exact div_le_div_of_nonneg_right (Nat.cast_le.mpr within) units.le
    | true =>
        exact (neg_nonpos.mpr (units_nonneg size)).trans (units_nonneg _)

theorem rounds_ofUnits (negative : Bool) (num : ℕ) {den : ℕ} (positive : 0 < den)
    (bounded : (num / den / unitsPerOne : ℚ) ≤ rangeBound) :
    Rounds (signed negative (num / den / unitsPerOne)) (ofUnits negative (roundUnits num den)) := by
  have magnitude := rounds_magnitude num positive bounded
  cases negative with
  | false => exact magnitude
  | true =>
      have opposite : ofUnits true (roundUnits num den) = -ofUnits false (roundUnits num den) := by
        have inside := lt_overflow_of_lt_bound positive bounded
        rw [ofUnits_finite inside, ofUnits_finite inside]
        rfl
      rw [opposite]
      exact magnitude.neg

theorem rounds_zero (negative : Bool) : Rounds 0 (finite negative 0) := by
  have zero : (0 : ℚ) = signed negative ((0 : ℕ) / (1 : ℕ) / unitsPerOne) := by simp [signed_zero]
  have rounds := rounds_ofUnits negative 0 Nat.one_pos (by simp [rangeBound])
  rwa [roundUnits_zero, ofUnits_finite overflowUnits_pos, ← zero] at rounds

theorem exists_finite {x : Binary64} (finite : x.isFinite = true) :
    ∃ negative units, x = .finite negative units := by
  cases x with
  | finite negative units => exact ⟨negative, units, rfl⟩
  | infinite negative => cases finite
  | nan => cases finite

variable {x y : Binary64}

theorem rounds_add (left : x.isFinite = true) (right : y.isFinite = true)
    (bounded : |x.toRat + y.toRat| ≤ rangeBound) : Rounds (x.toRat + y.toRat) (x + y) := by
  have units := unitsPerOne_pos_rat
  obtain ⟨s, a, rfl⟩ := exists_finite left
  obtain ⟨t, b, rfl⟩ := exists_finite right
  rw [toRat_finite_eq_signedUnits, toRat_finite_eq_signedUnits, ← add_div, ← Int.cast_add] at *
  show Rounds _ (Binary64.add _ _)
  rw [Binary64.add]
  generalize signedUnits s a + signedUnits t b = sum at *
  by_cases none : sum = 0
  · simp only [none, if_true, Int.cast_zero, zero_div]
    exact rounds_zero _
  · simp only [none, if_false]
    have split : (sum : ℚ) / unitsPerOne =
        signed (decide (sum < 0)) ((sum.natAbs : ℕ) / (1 : ℕ) / unitsPerOne) := by
      rw [Nat.cast_one, div_one, Nat.cast_natAbs, signed]
      by_cases below : sum < 0
      · simp [below, abs_of_neg below, neg_div]
      · simp [below, abs_of_nonneg (Int.not_lt.mp below)]
    rw [split] at bounded ⊢
    refine rounds_ofUnits _ _ Nat.one_pos ?_
    rwa [abs_signed, abs_of_nonneg (magnitude_nonneg _ _)] at bounded

theorem rounds_sub (left : x.isFinite = true) (right : y.isFinite = true)
    (bounded : |x.toRat - y.toRat| ≤ rangeBound) : Rounds (x.toRat - y.toRat) (x - y) := by
  have opposite : x.toRat - y.toRat = x.toRat + (-y).toRat := by rw [toRat_neg, sub_eq_add_neg]
  rw [opposite] at bounded ⊢
  exact rounds_add left ((isFinite_neg y).trans right) bounded

theorem rounds_mul (left : x.isFinite = true) (right : y.isFinite = true)
    (bounded : |x.toRat * y.toRat| ≤ rangeBound) : Rounds (x.toRat * y.toRat) (x * y) := by
  have units := unitsPerOne_pos_rat
  obtain ⟨s, a, rfl⟩ := exists_finite left
  obtain ⟨t, b, rfl⟩ := exists_finite right
  have product : (finite s a).toRat * (finite t b).toRat =
      signed (s != t) ((a * b : ℕ) / unitsPerOne / unitsPerOne) := by
    rw [toRat_finite, toRat_finite, ← signed_mul]
    congr 1
    push_cast
    field_simp
  rw [product] at bounded ⊢
  rw [finite_mul_finite]
  refine rounds_ofUnits _ _ unitsPerOne_pos ?_
  rwa [abs_signed, abs_of_nonneg (magnitude_nonneg _ _)] at bounded

theorem share_mul {value : ℚ} {n : ℕ} (share : Rounds value x) (least : 0 ≤ value) (most : value ≤ 1)
    (whole : y.IsInteger n) (small : n < 2 ^ 31) :
    (x * y).isFinite = true ∧ 0 ≤ (x * y).toRat ∧ (x * y).toRat ≤ n ∧
      |(x * y).toRat - value * n| ≤ 1 / 2 ^ 20 := by
  obtain ⟨finite, exact⟩ := whole
  rw [Int.cast_natCast] at exact
  have wide : (n : ℚ) < 2 ^ 31 := by exact_mod_cast small
  have above : (0 : ℚ) ≤ n := Nat.cast_nonneg n
  have zero : IsNumber 0 := by exact_mod_cast isNumber_natCast (by decide : 0 < 2 ^ 53)
  have one : IsNumber 1 := by exact_mod_cast isNumber_natCast (by decide : 1 < 2 ^ 53)
  have number : IsNumber n := isNumber_natCast (by omega)
  have near := share.near_of_le ((abs_of_nonneg least).trans_le most)
  have part : 0 ≤ x.toRat * n ∧ x.toRat * n ≤ n :=
    ⟨mul_nonneg (share.ge zero least) above, mul_le_of_le_one_left above (share.le one most)⟩
  have product := rounds_mul share.finite finite (by
    rw [exact, abs_of_nonneg part.1]
    norm_num [rangeBound]
    linarith)
  rw [exact] at product
  have moved := product.near_of_le ((abs_of_nonneg part.1).trans_le (part.2.trans wide.le))
  -- what the share is off by, times the side, is still far below a pixel
  have carried : |x.toRat * n - value * n| ≤ 1 / 2 ^ 21 := by
    rw [← sub_mul, abs_mul, abs_of_nonneg above]
    calc _ ≤ (1 / 2 ^ 53 + 1 / 2 ^ 61) * (2 ^ 31 : ℚ) := mul_le_mul near wide.le above (by norm_num)
      _ ≤ 1 / 2 ^ 21 := by norm_num
  refine ⟨product.finite, product.ge zero part.1, product.le number part.2, ?_⟩
  have both := abs_sub_le (x * y).toRat (x.toRat * n) (value * n)
  norm_num at moved carried ⊢
  linarith

theorem rounds_div (left : x.isFinite = true) (right : y.isFinite = true) (some : y.isZero = false)
    (bounded : |x.toRat / y.toRat| ≤ rangeBound) : Rounds (x.toRat / y.toRat) (x / y) := by
  have units := unitsPerOne_pos_rat
  obtain ⟨s, a, rfl⟩ := exists_finite left
  obtain ⟨t, b, rfl⟩ := exists_finite right
  have positive : 0 < b := Nat.pos_of_ne_zero (by simpa [isZero] using some)
  have divisor : (0 : ℚ) < b := Nat.cast_pos.mpr positive
  have quotient : (finite s a).toRat / (finite t b).toRat =
      signed (s != t) ((a * unitsPerOne : ℕ) / b / unitsPerOne) := by
    rw [toRat_finite, toRat_finite, ← signed_div]
    congr 1
    push_cast
    field_simp
  rw [quotient] at bounded ⊢
  rw [finite_div_finite s t a positive]
  refine rounds_ofUnits _ _ positive ?_
  rwa [abs_signed, abs_of_nonneg (magnitude_nonneg _ _)] at bounded

theorem rounds_ofRatio (num : ℕ) {den : ℕ} (positive : 0 < den)
    (bounded : (num / den : ℚ) ≤ rangeBound) : Rounds (num / den) (ofRatio false num den) := by
  have units := unitsPerOne_pos_rat.ne'
  have value : ((num * unitsPerOne : ℕ) / den / unitsPerOne : ℚ) = num / den := by
    push_cast
    field_simp
  rw [← value] at bounded ⊢
  exact rounds_magnitude _ positive bounded

end Binary64

namespace Arithmetic

open Binary64

theorem isNearest_nearest {x : Binary64} {whole : ℤ} (rounded : nearest x = .ok whole) :
    IsNearest x.toRat whole := by
  apply isNearest_round
  unfold nearest at rounded
  split at rounded
  · next value found => rwa [← Except.ok.inj rounded]
  · cases rounded
  · cases rounded

theorem toRat_ofInt_of_lt {n : ℕ} (small : n < 2 ^ 53) : (ofInt n).toRat = n := by
  have units := unitsPerOne_pos_rat
  rw [ofInt_of_lt small, toRat_finite, signed_false]
  push_cast
  field_simp

theorem isInteger_ofInt {z : ℤ} (low : 0 ≤ z) (small : z < 2 ^ 53) : (ofInt z).IsInteger z := by
  obtain ⟨n, rfl⟩ := Int.eq_ofNat_of_zero_le low
  have short : n < 2 ^ 53 := by exact_mod_cast small
  refine ⟨?_, toRat_ofInt_of_lt short⟩
  rw [ofInt_of_lt short]
  rfl

theorem toReal_exact {z : ℤ} (low : 0 ≤ z) (small : z < 2 ^ 53) :
    ∃ x, toReal z = .ok x ∧ x.IsInteger z := by
  have short : z.natAbs < 2 ^ 53 := by omega
  have inside := short.trans (two_pow_lt_integerRange (by decide))
  exact ⟨_, (toReal_eq_ok_iff z _).mpr ⟨inside, rfl⟩, isInteger_ofInt low small⟩

end Arithmetic

end Jp2Render
