import Jp2Render.Proofs.Arithmetic

/-!
Powers of two among the binary64 numbers. A rounded quotient depends on the quotient alone, not on
how it is written. Above the smallest magnitudes rounding commutes with powers of two, and it moves a
quotient by at most one part in 2⁵³. So multiplying by a power of two and then by an integer rounds
once, in either order, and it overflows in either order or in none.
-/

namespace Jp2Render

namespace Binary64

theorem roundQuotient_mul_mul (num den : Nat) {c : Nat} (positive : 0 < c) :
    roundQuotient (num * c) (den * c) = roundQuotient num den := by
  have below : ∀ a b : Nat, 2 * (a * c) < b * c ↔ 2 * a < b := by
    intro a b
    rw [← Nat.mul_assoc, Nat.mul_lt_mul_right positive]
  have above : ∀ a b : Nat, b * c < 2 * (a * c) ↔ b < 2 * a := by
    intro a b
    rw [← Nat.mul_assoc, Nat.mul_lt_mul_right positive]
  simp only [roundQuotient, Nat.mul_div_mul_right _ _ positive, Nat.mul_mod_mul_right, below, above]

theorem roundUnits_mul_mul (num den : Nat) {c : Nat} (positive : 0 < c) :
    roundUnits (num * c) (den * c) = roundUnits num den := by
  have bits : droppedBits (num * c) (den * c) = droppedBits num den := by
    rw [droppedBits, droppedBits, Nat.mul_div_mul_right _ _ positive]
  rw [roundUnits_eq, roundUnits_eq, bits, Nat.mul_right_comm, roundQuotient_mul_mul _ _ positive]

theorem unitsPerOne_split {k : Nat} (within : k ≤ 1074) :
    unitsPerOne = 2 ^ (1074 - k) * 2 ^ k := by
  rw [unitsPerOne, Nat.one_shiftLeft, ← Nat.pow_add, Nat.sub_add_cancel within]

theorem two_pow_le_unitsPerOne {k : Nat} (within : k ≤ 1074) : 2 ^ k ≤ unitsPerOne := by
  rw [unitsPerOne_split within]
  exact Nat.le_mul_of_pos_left _ (Nat.two_pow_pos _)

theorem droppedBits_mul_two_pow {num den : Nat} (positive : 0 < den) (normal : 2 ^ 52 * den ≤ num)
    (k : Nat) : droppedBits (num * 2 ^ k) den = droppedBits num den + k := by
  have large : 2 ^ 52 ≤ num / den := (Nat.le_div_iff_mul_le positive).mpr normal
  have some : num / den ≠ 0 := by omega
  have low : 2 ^ ((num / den).log2 + k) ≤ num * 2 ^ k / den := by
    rw [Nat.le_div_iff_mul_le positive, Nat.pow_add, Nat.mul_right_comm]
    apply Nat.mul_le_mul_right
    exact (Nat.le_div_iff_mul_le positive).mp (Nat.log2_self_le some)
  have high : num * 2 ^ k / den < 2 ^ ((num / den).log2 + k + 1) := by
    rw [Nat.div_lt_iff_lt_mul positive, Nat.add_right_comm, Nat.pow_add, Nat.mul_right_comm]
    apply Nat.mul_lt_mul_of_pos_right _ (Nat.two_pow_pos k)
    exact (Nat.div_lt_iff_lt_mul positive).mp Nat.lt_log2_self
  have logarithm : (num * 2 ^ k / den).log2 = (num / den).log2 + k := by
    rw [Nat.log2_eq_iff (Nat.ne_of_gt ((Nat.two_pow_pos _).trans_le low))]
    exact ⟨low, high⟩
  have least : 52 ≤ (num / den).log2 := (Nat.le_log2 some).mpr large
  rw [droppedBits, droppedBits, logarithm]
  omega

theorem roundUnits_mul_two_pow {num den : Nat} (positive : 0 < den) (normal : 2 ^ 52 * den ≤ num)
    (k : Nat) : roundUnits (num * 2 ^ k) den = roundUnits num den * 2 ^ k := by
  rw [roundUnits_eq, roundUnits_eq, droppedBits_mul_two_pow positive normal, Nat.pow_add,
    ← Nat.mul_assoc, ← Nat.mul_assoc, roundQuotient_mul_mul _ _ (Nat.two_pow_pos k)]

theorem roundUnits_near {num den : Nat} (positive : 0 < den) (normal : 2 ^ 52 * den ≤ num) :
    2 ^ 53 * num ≤ (2 ^ 53 + 1) * (roundUnits num den * den) := by
  have filled : 2 ^ 52 ≤ roundQuotient num (den * 2 ^ droppedBits num den) := by
    apply le_roundQuotient (Nat.mul_pos positive (Nat.two_pow_pos _))
    by_cases dropped : 0 < droppedBits num den
    · exact (Nat.le_div_iff_mul_le (Nat.mul_pos positive (Nat.two_pow_pos _))).mp
        (le_quotient dropped)
    · rw [Nat.eq_zero_of_not_pos dropped, Nat.pow_zero, Nat.mul_one]
      exact normal
  obtain ⟨near, -⟩ :=
    roundQuotient_nearest num (Nat.mul_pos positive (Nat.two_pow_pos (droppedBits num den)))
  rw [roundUnits_eq]
  generalize roundQuotient num (den * 2 ^ droppedBits num den) = kept at *
  generalize 2 ^ droppedBits num den = unit at *
  -- the kept bits make up 2⁵² units at least, and half a unit is the most that rounding moves
  calc 2 ^ 53 * num = 2 ^ 52 * (2 * num) := by ring
    _ ≤ 2 ^ 52 * ((2 * kept + 1) * (den * unit)) := Nat.mul_le_mul_left _ near
    _ = 2 ^ 53 * (kept * (den * unit)) + 2 ^ 52 * (den * unit) := by ring
    _ ≤ 2 ^ 53 * (kept * (den * unit)) + kept * (den * unit) :=
      Nat.add_le_add_left (Nat.mul_le_mul_right _ filled) _
    _ = _ := by ring

theorem Representable.mul_two_pow {units : Nat} (representable : Representable units)
    (exponent : Nat) : Representable (units * 2 ^ exponent) := by
  rw [← Nat.shiftLeft_eq]
  exact representable.shiftLeft exponent

theorem representable_two_pow (exponent : Nat) : Representable (2 ^ exponent) :=
  ⟨1, exponent, by decide, (Nat.one_mul _).symm⟩

theorem Representable.min {a b : Nat} (left : Representable a) (right : Representable b) :
    Representable (min a b) := by
  rcases Nat.le_total a b with order | order
  · rwa [Nat.min_eq_left order]
  · rwa [Nat.min_eq_right order]

theorem Representable.mod {a b : Nat} (left : Representable a) (right : Representable b) :
    Representable (a % b) := by
  obtain ⟨first, exponent, small, rfl⟩ := left
  obtain ⟨second, exponent', small', rfl⟩ := right
  -- both are counted in the smaller one of their units
  rcases Nat.le_total exponent exponent' with finer | coarser
  · obtain ⟨more, rfl⟩ := Nat.exists_eq_add_of_le finer
    refine ⟨first % (second * 2 ^ more), exponent, (Nat.mod_le _ _).trans_lt small, ?_⟩
    rw [← Nat.mul_mod_mul_right, Nat.mul_assoc second, ← Nat.pow_add, Nat.add_comm more]
  · obtain ⟨more, rfl⟩ := Nat.exists_eq_add_of_le coarser
    rcases Nat.eq_zero_or_pos second with rfl | some
    · exact ⟨first, exponent' + more, small, by simp⟩
    · refine ⟨first * 2 ^ more % second, exponent', (Nat.mod_lt _ some).trans small', ?_⟩
      rw [← Nat.mul_mod_mul_right, Nat.mul_assoc first, ← Nat.pow_add, Nat.add_comm more]

theorem representable_roundUnits (num : Nat) {den : Nat} (positive : 0 < den) :
    Representable (roundUnits num den) := by
  have under : roundQuotient num (den * 2 ^ droppedBits num den) ≤ 2 ^ 53 := by
    apply roundQuotient_le (Nat.mul_pos positive (Nat.two_pow_pos _))
    exact Nat.le_of_lt ((Nat.div_lt_iff_lt_mul (Nat.mul_pos positive (Nat.two_pow_pos _))).mp
      (quotient_lt num den))
  rw [roundUnits_eq]
  rcases Nat.eq_or_lt_of_le under with carried | within
  · -- rounding up to 2⁵³ has carried into a further bit
    rw [carried]
    exact (representable_two_pow 53).mul_two_pow _
  · exact ⟨_, _, within, rfl⟩

theorem two_pow_lt_overflow {exponent : Nat} (inside : exponent < 2098) :
    2 ^ exponent < overflowUnits := by
  rw [← Nat.one_shiftLeft]
  exact shiftLeft_lt_one_shiftLeft (by decide : 1 < 2 ^ 1) (by omega)

theorem representable_overflowUnits : Representable overflowUnits :=
  (representable_of_lt (by decide : 1 < 2 ^ 53)).shiftLeft 2098

theorem ofUnits_infinite {units : Nat} (outside : overflowUnits ≤ units) (negative : Bool) :
    ofUnits negative units = .infinite negative := by
  rw [ofUnits, if_neg (Nat.not_lt.mpr outside)]

theorem finite_le_finite {a b : Nat} : finite false a ≤ finite false b ↔ a ≤ b := by
  show decide ((a : Int) ≤ b) = true ↔ a ≤ b
  rw [decide_eq_true_eq, Int.ofNat_le]

theorem leastOf_finite (a b : Nat) :
    leastOf (finite false a) (finite false b) = finite false (min a b) := by
  have less : finite false b < finite false a ↔ b < a := by
    show decide ((b : Int) < a) = true ↔ b < a
    rw [decide_eq_true_eq, Int.ofNat_lt]
  unfold leastOf
  by_cases smaller : b < a
  · rw [if_pos (less.mpr smaller), Nat.min_eq_right (Nat.le_of_lt smaller)]
  · rw [if_neg (mt less.mp smaller), Nat.min_eq_left (Nat.le_of_not_lt smaller)]

theorem finite_div_finite (s t : Bool) (a : Nat) {b : Nat} (positive : 0 < b) :
    finite s a / finite t b = ofUnits (s != t) (roundUnits (a * unitsPerOne) b) := by
  show Binary64.div _ _ = _
  rw [Binary64.div, if_neg (Nat.ne_of_gt positive)]

theorem finite_div_exact {a b q : Nat} (representable : Representable q) (positive : 0 < b)
    (exact : a * unitsPerOne = q * b) (s t : Bool) :
    finite s a / finite t b = ofUnits (s != t) q := by
  rw [finite_div_finite s t a positive, exact, roundUnits_mul representable positive]

theorem infinite_div_finite (s t : Bool) (b : Nat) :
    infinite s / finite t b = infinite (s != t) := rfl

theorem nan_div (y : Binary64) : nan / y = nan := by
  show Binary64.div _ _ = _
  cases y <;> rfl

/-- What an operation gives: a representable magnitude with a sign, or not a number. -/
inductive Rounded : Binary64 → Prop
  | ofUnits {negative : Bool} {units : Nat} (representable : Representable units) :
      Rounded (ofUnits negative units)
  | nan : Rounded .nan

theorem Rounded.representable {negative : Bool} {units : Nat}
    (number : (finite negative units).Rounded) : Representable units := by
  generalize same : finite negative units = x at number
  cases number with
  | nan => cases same
  | @ofUnits _ kept representable =>
      by_cases inside : kept < overflowUnits
      · rw [ofUnits_finite inside] at same
        rwa [(finite.inj same).2]
      · rw [ofUnits_infinite (Nat.le_of_not_lt inside)] at same
        cases same

theorem rounded_infinite (negative : Bool) : (infinite negative).Rounded := by
  rw [← ofUnits_infinite (Nat.le_refl overflowUnits)]
  exact .ofUnits representable_overflowUnits

theorem rounded_div_finite (x : Binary64) {b : Nat} (positive : 0 < b) :
    (x / finite false b).Rounded := by
  cases x with
  | finite s a =>
      rw [finite_div_finite s false a positive]
      exact .ofUnits (representable_roundUnits _ positive)
  | infinite s =>
      rw [infinite_div_finite]
      exact rounded_infinite _
  | nan => exact .nan

theorem ofUnits_mul_finite {units factor : Nat} (representable : Representable units)
    (least : unitsPerOne ≤ factor) (negative : Bool) :
    ofUnits negative units * finite false factor =
      ofUnits negative (roundUnits (units * factor) unitsPerOne) := by
  by_cases inside : units < overflowUnits
  · rw [ofUnits_finite inside, finite_mul_finite, Bool.bne_false]
  · have outside : overflowUnits ≤ units := Nat.le_of_not_lt inside
    have grown : units ≤ roundUnits (units * factor) unitsPerOne :=
      le_roundUnits representable unitsPerOne_pos (Nat.mul_le_mul_left _ least)
    have some : factor ≠ 0 := Nat.ne_of_gt (unitsPerOne_pos.trans_le least)
    rw [ofUnits_infinite outside, ofUnits_infinite (outside.trans grown)]
    show Binary64.mul _ _ = _
    rw [Binary64.mul, if_neg some, Bool.bne_false]

end Binary64

namespace Arithmetic

open Binary64

theorem timesInteger_ofUnits {units n : Nat} (representable : Representable units)
    (positive : 0 < n) (small : n < 2 ^ 53) (negative : Bool) :
    timesInteger (ofUnits negative units) n =
      .ok (ofUnits negative (roundUnits (units * n) 1)) := by
  have least : unitsPerOne ≤ n * unitsPerOne := Nat.le_mul_of_pos_left _ positive
  have cancelled : roundUnits (units * (n * unitsPerOne)) unitsPerOne =
      roundUnits (units * n) 1 := by
    have written := roundUnits_mul_mul (units * n) 1 unitsPerOne_pos
    rwa [Nat.one_mul, Nat.mul_assoc] at written
  rw [timesInteger, toReal_of_lt small, ok_bind, ofUnits_mul_finite representable least, cancelled]
  rfl

theorem timesInteger_nan {n : Nat} (small : n < 2 ^ 53) :
    timesInteger .nan n = .ok .nan := by
  rw [timesInteger, toReal_of_lt small, ok_bind]
  rfl

theorem ratio_mul_mul (num den : Int) {c : Nat} (positive : 0 < c) :
    ratio (c * num) (c * den) = ratio num den := by
  have zero : (c * den = 0) = (den = 0) := by
    simp only [Int.mul_eq_zero, Int.natCast_eq_zero, Nat.ne_of_gt positive, false_or]
  have sign : ∀ z : Int, decide (c * z < 0) = decide (z < 0) := by
    intro z
    have scaled : c * z < c * 0 ↔ z < 0 := Int.mul_lt_mul_left (Int.natCast_pos.mpr positive)
    rw [Int.mul_zero] at scaled
    exact decide_eq_decide.mpr scaled
  have quotient : ofIntRatio (c * num) (c * den) = ofIntRatio num den := by
    simp only [ofIntRatio, ofRatio, sign, Int.natAbs_mul, Int.natAbs_natCast]
    rw [Nat.mul_comm c, Nat.mul_comm c, Nat.mul_right_comm, roundUnits_mul_mul _ _ positive]
  simp only [ratio, zero, quotient]

theorem ratio_normal {num den : Nat} (some : 0 < num) (small : den < 2 ^ 53) :
    2 ^ 52 * den ≤ num * unitsPerOne := by
  calc 2 ^ 52 * den ≤ 2 ^ 52 * 2 ^ 53 := Nat.mul_le_mul_left _ (Nat.le_of_lt small)
    _ = 2 ^ 105 := by decide
    _ ≤ unitsPerOne := two_pow_le_unitsPerOne (by decide)
    _ ≤ num * unitsPerOne := Nat.le_mul_of_pos_left _ some

theorem ratio_units_le {num den n : Nat} (positive : 0 < den) (small : n < 2 ^ 53)
    (within : num ≤ n * den) : roundUnits (num * unitsPerOne) den ≤ n * unitsPerOne := by
  apply roundUnits_le (representable_integer small) positive
  calc num * unitsPerOne ≤ n * den * unitsPerOne := Nat.mul_le_mul_right _ within
    _ = n * unitsPerOne * den := Nat.mul_right_comm n den unitsPerOne

theorem ofIntRatio_natCast (num den : Nat) : ofIntRatio num den = ofRatio false num den := by
  have sign : ∀ n : Nat, decide ((n : Int) < 0) = false := by
    intro n
    rw [decide_eq_false_iff_not]
    omega
  rw [ofIntRatio, sign, sign, Int.natAbs_natCast, Int.natAbs_natCast, bne_self_eq_false]

theorem ratio_of_le {num den n : Nat} (positive : 0 < den) (small : n < 2 ^ 53)
    (within : num ≤ n * den) :
    ratio num den = .ok (.finite false (roundUnits (num * unitsPerOne) den)) := by
  have inside : roundUnits (num * unitsPerOne) den < overflowUnits :=
    (ratio_units_le positive small within).trans_lt (integer_lt_overflow small)
  have some : ¬ (den : Int) = 0 := by omega
  rw [ratio, if_neg some, ofIntRatio_natCast, ofRatio, ofUnits_finite inside]
  rfl

end Arithmetic

end Jp2Render
