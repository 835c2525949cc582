import Jp2Render.Proofs.Binary64.Values
import Jp2Render.Proofs.Reduction.Plan

/-!
Which reduction is planned. Whole sides can be compared with what is asked for in whole numbers, with
powers of two alone, and no quotient is needed; the percentage is compared with one hundred. The plan
takes quotients and halves thresholds, and still finds the largest reduction that this comparison allows,
at exact powers of two as well.
-/

namespace Jp2Render

open Binary64 Arithmetic

namespace Scaling

/-- The reduction leaves no less of the area than is asked for, in exact numbers. Nothing is gained by a
reduction where all of the area is asked for, or two sides are that need not be in proportion. -/
def Allows (area : Dimensions) (reduction : ℕ) : Scaling → Prop
  | .full => False
  | .fitWidth width => width * 2 ^ reduction ≤ area.width
  | .fitHeight height => height * 2 ^ reduction ≤ area.height
  | .fitInside width height =>
    width * 2 ^ reduction ≤ area.width ∨ height * 2 ^ reduction ≤ area.height
  | .forced _ _ => False
  | .percent p => p.isFinite = true ∧ p.toRat * 2 ^ reduction ≤ 100

end Scaling

theorem Reduction.ratio_le_threshold_iff {wanted side reduction : ℕ} (some : 0 < wanted)
    (positive : 0 < side) (small : side < 2 ^ 53) (few : reduction ≤ 1074) :
    finite false (roundUnits (wanted * unitsPerOne) side) ≤ threshold reduction ↔
      wanted * 2 ^ reduction ≤ side := by
  rw [threshold_eq few, finite_le_finite, Nat.mul_comm wanted (2 ^ reduction)]
  constructor
  · exact Scaling.mul_le_of_ratio_le some positive small few
  · intro within
    -- a quotient that is not above a power of two is not rounded above it either
    apply roundUnits_le (representable_two_pow _) positive
    calc wanted * unitsPerOne = 2 ^ (1074 - reduction) * (2 ^ reduction * wanted) := by
          rw [unitsPerOne_split few]
          ring
      _ ≤ 2 ^ (1074 - reduction) * side := Nat.mul_le_mul_left _ within

namespace Binary64

theorem ofUnits_le_finite_iff {units bound : ℕ} (inside : bound < overflowUnits) :
    ofUnits false units ≤ finite false bound ↔ units ≤ bound := by
  constructor
  · exact le_of_ofUnits_le
  · intro le
    rw [ofUnits_finite (le.trans_lt inside)]
    exact finite_le_finite.mpr le

/-- Numbers of 53 bits that are above one hundred times a power of two are above it by so much that their
hundredth part is not rounded down to the power. -/
theorem roundUnits_hundred_iff {units exponent : ℕ} (representable : Representable units)
    (normal : 6 ≤ exponent) :
    roundUnits units 100 ≤ 2 ^ (exponent + 46) ↔ units ≤ 100 * 2 ^ (exponent + 46) := by
  constructor
  · intro rounded
    by_contra above
    push Not at above
    obtain ⟨significand, shift, small, rfl⟩ := representable
    -- a number above the threshold has so large units that it lies a whole one of them above
    have coarse : exponent ≤ shift := by
      by_contra fine
      have within : significand * 2 ^ shift < 2 ^ 53 * 2 ^ shift :=
        Nat.mul_lt_mul_of_pos_right small (Nat.two_pow_pos shift)
      have low : 2 ^ 53 * 2 ^ shift ≤ 2 ^ 52 * 2 ^ exponent := by
        rw [← Nat.pow_add, ← Nat.pow_add]
        exact Nat.pow_le_pow_right Nat.two_pos (by omega)
      rw [Nat.pow_add] at above
      omega
    obtain ⟨more, rfl⟩ := Nat.exists_eq_add_of_le coarse
    have large : 2 ^ 52 * 100 ≤ significand * 2 ^ (exponent + more) := by
      have power : 2 ^ 52 ≤ 2 ^ (exponent + 46) := Nat.pow_le_pow_right Nat.two_pos (by omega)
      omega
    have near := roundUnits_near (by decide : 0 < 100) large
    generalize roundUnits (significand * 2 ^ (exponent + more)) 100 = part at *
    have multiple : significand * 2 ^ (exponent + more) = significand * 2 ^ more * 2 ^ exponent := by
      ring
    have next : 100 * 2 ^ 46 < significand * 2 ^ more := by
      rw [multiple, Nat.pow_add, Nat.mul_comm (2 ^ exponent), ← Nat.mul_assoc] at above
      exact Nat.lt_of_mul_lt_mul_right above
    have under : part * 100 ≤ 100 * 2 ^ 46 * 2 ^ exponent := by
      rw [Nat.pow_add] at rounded
      omega
    -- rounding loses one part in 2 ^ 53, which is less than that unit
    have bound : 2 ^ 53 * (significand * 2 ^ more) * 2 ^ exponent ≤
        (2 ^ 53 + 1) * (100 * 2 ^ 46) * 2 ^ exponent := by
      calc 2 ^ 53 * (significand * 2 ^ more) * 2 ^ exponent
          = 2 ^ 53 * (significand * 2 ^ (exponent + more)) := by rw [multiple, Nat.mul_assoc]
        _ ≤ (2 ^ 53 + 1) * (part * 100) := near
        _ ≤ (2 ^ 53 + 1) * (100 * 2 ^ 46 * 2 ^ exponent) := Nat.mul_le_mul_left _ under
        _ = _ := (Nat.mul_assoc ..).symm
    have := Nat.le_of_mul_le_mul_right bound (Nat.two_pow_pos exponent)
    omega
  · intro within
    apply roundUnits_le (representable_two_pow _) (by decide)
    rwa [Nat.mul_comm]

end Binary64

theorem Binary64.toRat_mul_two_pow_le_iff (units bound : ℕ) {reduction : ℕ} (few : reduction ≤ 1074) :
    (finite false units).toRat * 2 ^ reduction ≤ bound ↔ units ≤ bound * 2 ^ (1074 - reduction) := by
  have one : (unitsPerOne : ℚ) = 2 ^ (1074 - reduction) * 2 ^ reduction := by
    rw [unitsPerOne_split few]
    push_cast
    rfl
  have left : (0 : ℚ) < 2 ^ (1074 - reduction) := by positivity
  have right : (0 : ℚ) < 2 ^ reduction := by positivity
  have cast : units ≤ bound * 2 ^ (1074 - reduction) ↔
      (units : ℚ) ≤ bound * 2 ^ (1074 - reduction) := by
    exact_mod_cast Iff.rfl
  rw [cast, toRat_finite, signed_false, one]
  generalize (2 : ℚ) ^ (1074 - reduction) = size at *
  have cancelled : (units : ℚ) / (size * 2 ^ reduction) * 2 ^ reduction = units / size := by
    field_simp
  rw [cancelled, div_le_iff₀ left]

theorem Reduction.hundredth_le_threshold_iff {p : Binary64} (number : p.Rounded) (stated : ¬ p ≤ 0)
    {reduction : ℕ} (few : reduction ≤ 1000) :
    p / 100 ≤ threshold reduction ↔ p.isFinite = true ∧ p.toRat * 2 ^ reduction ≤ 100 := by
  have hundred : 0 < 100 * unitsPerOne := Nat.mul_pos (by decide) unitsPerOne_pos
  rw [threshold_eq (by omega), ofNat_of_lt (by decide)]
  rcases cases_of_pos stated with rfl | rfl | ⟨units, rfl⟩
  · exact iff_of_false Bool.false_ne_true (by simp [isFinite])
  · exact iff_of_false Bool.false_ne_true (by simp [isFinite])
  · have representable := number.representable
    obtain ⟨exponent, same⟩ : ∃ exponent, 1074 - reduction = exponent + 46 :=
      ⟨1028 - reduction, by omega⟩
    have exact := toRat_mul_two_pow_le_iff units 100 (by omega : reduction ≤ 1074)
    rw [finite_div_finite _ _ _ hundred, bne_self_eq_false, roundUnits_mul_mul _ _ unitsPerOne_pos,
      ofUnits_le_finite_iff (two_pow_lt_overflow (by omega)), same,
      roundUnits_hundred_iff representable (by omega), ← same, ← exact]
    simp [isFinite]

namespace Scaling

theorem linearScale?_allows {scaling : Scaling} (stated : scaling.IsPositive)
    (sides : scaling.SidesBelow (2 ^ 53)) (number : ∀ p, scaling = .percent p → p.Rounded)
    {area : Dimensions} (some : area.IsPositive) (bounded : area.SidesBelow (2 ^ 53)) :
    ∃ scale?, scaling.linearScale? area = .ok scale? ∧ ∀ reduction ≤ 1000,
      scaling.Allows area reduction ↔ ∃ scale ∈ scale?, scale ≤ Reduction.threshold reduction := by
  obtain ⟨across, down, wide, high, rfl⟩ := Dimensions.exists_nat some
  obtain ⟨narrow, low⟩ : (across : ℤ) < 2 ^ 53 ∧ (down : ℤ) < 2 ^ 53 := bounded
  -- sides below 2 ^ 53 are floats, and rounding their quotient does not move it past a power of two
  have quotient : ∀ wanted side : ℕ, 0 < wanted → 0 < side → side < 2 ^ 53 → ∀ reduction ≤ 1000,
      (finite false (roundUnits (wanted * unitsPerOne) side) ≤ Reduction.threshold reduction ↔
        (wanted : ℤ) * 2 ^ reduction ≤ side) := by
    intro wanted side asked positive small reduction few
    rw [Reduction.ratio_le_threshold_iff asked positive small (by omega)]
    exact_mod_cast Iff.rfl
  cases scaling with
  | full => exact ⟨none, rfl, fun reduction _ => by simp [Allows]⟩
  | forced _ _ => exact ⟨none, rfl, fun reduction _ => by simp [Allows]⟩
  | fitWidth width =>
      obtain ⟨width, rfl⟩ := Int.eq_ofNat_of_zero_le (Int.le_of_lt stated)
      have asked : 0 < width := Int.natCast_pos.mp stated
      have short : (width : ℤ) < 2 ^ 53 := sides
      refine ⟨_, by rw [linearScale?, ratio_sides (by omega) wide]; rfl, fun reduction few => ?_⟩
      simp [Allows, quotient width across asked wide (by omega) reduction few]
  | fitHeight height =>
      obtain ⟨height, rfl⟩ := Int.eq_ofNat_of_zero_le (Int.le_of_lt stated)
      have asked : 0 < height := Int.natCast_pos.mp stated
      have short : (height : ℤ) < 2 ^ 53 := sides
      refine ⟨_, by rw [linearScale?, ratio_sides (by omega) high]; rfl, fun reduction few => ?_⟩
      simp [Allows, quotient height down asked high (by omega) reduction few]
  | fitInside width height =>
      obtain ⟨width, rfl⟩ := Int.eq_ofNat_of_zero_le (Int.le_of_lt stated.1)
      obtain ⟨height, rfl⟩ := Int.eq_ofNat_of_zero_le (Int.le_of_lt stated.2)
      have asked : 0 < width := Int.natCast_pos.mp stated.1
      have asked' : 0 < height := Int.natCast_pos.mp stated.2
      obtain ⟨short, short'⟩ : (width : ℤ) < 2 ^ 53 ∧ (height : ℤ) < 2 ^ 53 := sides
      refine ⟨_, by
        rw [linearScale?, ratio_sides (by omega) wide, ok_bind, ratio_sides (by omega) high,
          ok_bind, leastOf_finite]; rfl, fun reduction few => ?_⟩
      have across := quotient width across asked wide (by omega) reduction few
      have down := quotient height down asked' high (by omega) reduction few
      rw [Reduction.threshold, finite_le_finite] at across down
      simp [Allows, Reduction.threshold, finite_le_finite, across, down]
  | percent p =>
      refine ⟨_, rfl, fun reduction few => ?_⟩
      simp [Allows, Reduction.hundredth_le_threshold_iff (number p rfl) stated few]

end Scaling

/-- The plan finds the largest reduction within the bound that is allowed, and none where none is. -/
theorem Size.reduction_greatest (size : Size) (sides : size.scaling.SidesBelow (2 ^ 53))
    (number : ∀ p, size.scaling = .percent p → p.Rounded) {area : Dimensions}
    (positive : area.IsPositive) (bounded : area.SidesBelow (2 ^ 53)) {bound : ℕ}
    (known : bound ≤ 1000) :
    ∃ reduction, size.scaling.reduction area bound = .ok reduction ∧
      IsGreatest {f | f ≤ bound ∧ (f = 0 ∨ size.scaling.Allows area f)} reduction ∧
      (size.scaling = .full → reduction = 0) ∧
      (∀ width height, size.scaling = .forced width height → reduction = 0) := by
  obtain ⟨scale?, linear, allows⟩ :=
    Scaling.linearScale?_allows size.isPositive sides number positive bounded
  -- without a scale nothing is allowed; with one, the loop stops at the greatest
  cases scale? with
  | none =>
      refine ⟨0, by rw [Scaling.reduction, linear]; rfl, ⟨⟨Nat.zero_le _, .inl rfl⟩, ?_⟩,
        fun _ => rfl, fun _ _ _ => rfl⟩
      rintro f ⟨within, none | allowed⟩
      · exact none.le
      · simp [allows f (within.trans known)] at allowed
  | some scale =>
      refine ⟨Reduction.forScale scale bound, by rw [Scaling.reduction, linear]; rfl, ?_, ?_, ?_⟩
      · have same : {f | f ≤ bound ∧ (f = 0 ∨ size.scaling.Allows area f)} =
            {f | f ≤ (bound : ℤ).toNat ∧ (f = 0 ∨ scale ≤ Reduction.threshold f)} := by
          ext f
          refine and_congr_right fun within => or_congr_right ?_
          simp [allows f (within.trans known)]
        rw [same]
        exact Reduction.isGreatest_forScale scale bound
      · intro all
        rw [all] at linear
        cases linear
      · intro width height forces
        rw [forces] at linear
        cases linear

/-- Of 200 by 100 pixels an eighth is too little for a picture that has to fit inside 50 by 40, but a
quarter is exactly as wide. -/
theorem Size.reduction_greatest_quarter :
    ∃ size : Size, size.scaling = .fitInside 50 40 ∧
      size.scaling.reduction ⟨200, 100⟩ (1000 : ℕ) = .ok 2 ∧
      IsGreatest {f | f ≤ 1000 ∧ (f = 0 ∨ size.scaling.Allows ⟨200, 100⟩ f)} 2 := by
  let size : Size := ⟨⟨.fitInside, some 50, some 40, none⟩, .fitInside 50 40, by decide +kernel⟩
  have quarter : size.scaling.reduction ⟨200, 100⟩ (1000 : ℕ) = .ok 2 := by decide +kernel
  have positive : Dimensions.IsPositive ⟨200, 100⟩ := ⟨by decide, by decide⟩
  have small : Dimensions.SidesBelow (2 ^ 53) ⟨200, 100⟩ := ⟨by decide, by decide⟩
  obtain ⟨reduction, planned, greatest, -⟩ := size.reduction_greatest ⟨by decide, by decide⟩
    (by rintro p ⟨⟩) positive small (Nat.le_refl 1000)
  obtain rfl : reduction = 2 := Except.ok.inj (planned.symm.trans quarter)
  exact ⟨size, rfl, quarter, greatest⟩

end Jp2Render
