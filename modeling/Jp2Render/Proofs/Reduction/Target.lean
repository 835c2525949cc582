import Jp2Render.Proofs.Binary64.Powers
import Jp2Render.Size

/-!
Targets after a native reduction. A reduction divides the sides of a raster by a power of two, and
every mode of scaling makes up for it: absolute sides do not see it, ratios of sides move by exactly
that power, and a percentage is divided by it. So the reduced raster and the full one are scaled to
the same size, and neither of them has one where a side overflows.
-/

namespace Jp2Render

open Binary64 Arithmetic

theorem Binary64.ofNat_of_lt {n : Nat} (small : n < 2 ^ 53) :
    (OfNat.ofNat n : Binary64) = .finite false (n * unitsPerOne) := ofInt_of_lt small

theorem Binary64.zero_eq : (0 : Binary64) = .finite false 0 := by
  rw [ofNat_of_lt (by decide), Nat.zero_mul]

theorem Binary64.isZero_finite {units : Nat} (positive : 0 < units) :
    (Binary64.finite false units).isZero = false := by
  rw [isZero, beq_eq_false_iff_ne]
  exact Nat.ne_of_gt positive

theorem Reduction.few_of_known {reduction : Nat} (known : (reduction : Int) ≤ limit) :
    reduction ≤ 52 := by
  unfold limit at known
  omega

theorem Reduction.scale_eq {reduction : Nat} (few : reduction ≤ 52) :
    Reduction.scale reduction = .ok (.finite false (2 ^ (1074 - reduction))) := by
  have small : 2 ^ reduction < 2 ^ 53 := Nat.pow_lt_pow_right (by decide) (by omega)
  have positive : 0 < 2 ^ reduction * unitsPerOne :=
    Nat.mul_pos (Nat.two_pow_pos reduction) unitsPerOne_pos
  have inside : 2 ^ (1074 - reduction) < overflowUnits := two_pow_lt_overflow (by omega)
  have exact : 1 * unitsPerOne * unitsPerOne =
      2 ^ (1074 - reduction) * (2 ^ reduction * unitsPerOne) := by
    rw [Nat.one_mul, ← Nat.mul_assoc, ← unitsPerOne_split (by omega)]
  rw [Reduction.scale, if_pos (Int.natCast_nonneg reduction), Int.toNat_natCast, Nat.one_shiftLeft,
    toReal_of_lt small, ok_bind, quotient_ok (isZero_finite positive), ofNat_of_lt (by decide),
    finite_div_exact (representable_two_pow _) positive exact, bne_self_eq_false,
    ofUnits_finite inside]

theorem Reduction.quotient_scale {reduction units : Nat} (few : reduction ≤ 1074)
    (representable : Representable units) (negative : Bool) :
    quotient (ofUnits negative units) (.finite false (2 ^ (1074 - reduction))) =
      .ok (ofUnits negative (units * 2 ^ reduction)) := by
  have positive : 0 < 2 ^ (1074 - reduction) := Nat.two_pow_pos _
  have exact : units * unitsPerOne = units * 2 ^ reduction * 2 ^ (1074 - reduction) := by
    rw [unitsPerOne_split few, Nat.mul_comm (2 ^ (1074 - reduction)), Nat.mul_assoc]
  rw [quotient_ok (isZero_finite positive)]
  by_cases inside : units < overflowUnits
  · rw [ofUnits_finite inside, finite_div_exact (representable.mul_two_pow reduction) positive exact,
      Bool.bne_false]
  · -- what is infinite stays so
    have outside : overflowUnits ≤ units := Nat.le_of_not_lt inside
    have grown : units ≤ units * 2 ^ reduction := Nat.le_mul_of_pos_right _ (Nat.two_pow_pos _)
    rw [ofUnits_infinite outside, ofUnits_infinite (outside.trans grown), infinite_div_finite,
      Bool.bne_false]

namespace Dimensions

/-- The dimensions before a native reduction that divides without a rest. -/
def unreduced (delivered : Dimensions) (reduction : Nat) : Dimensions where
  width := 2 ^ reduction * delivered.width
  height := 2 ^ reduction * delivered.height

def SidesBelow (bound : Int) (d : Dimensions) : Prop := d.width < bound ∧ d.height < bound

theorem exists_nat {d : Dimensions} (positive : d.IsPositive) :
    ∃ width height : Nat, 0 < width ∧ 0 < height ∧ d = ⟨width, height⟩ := by
  obtain ⟨width, height⟩ := d
  obtain ⟨wide, high⟩ : 1 ≤ width ∧ 1 ≤ height := positive
  obtain ⟨width, rfl⟩ := Int.eq_ofNat_of_zero_le (by omega : 0 ≤ width)
  obtain ⟨height, rfl⟩ := Int.eq_ofNat_of_zero_le (by omega : 0 ≤ height)
  exact ⟨width, height, by omega, by omega, rfl⟩

theorem unreduced_nat (width height reduction : Nat) :
    unreduced ⟨width, height⟩ reduction =
      ⟨(2 ^ reduction * width : Nat), (2 ^ reduction * height : Nat)⟩ := by
  simp only [unreduced, Int.natCast_mul, Int.natCast_pow, Int.cast_ofNat_Int]

end Dimensions

namespace Scaling

/-- Sides above zero, and a percentage that is not zero or below. -/
def IsPositive : Scaling → Prop
  | .full => True
  | .fitWidth width => 0 < width
  | .fitHeight height => 0 < height
  | .fitInside width height => 0 < width ∧ 0 < height
  | .forced width height => 0 < width ∧ 0 < height
  | .percent p => ¬ p ≤ 0

def SidesBelow (bound : Int) : Scaling → Prop
  | .full => True
  | .fitWidth width => width < bound
  | .fitHeight height => height < bound
  | .fitInside width height => width < bound ∧ height < bound
  | .forced width height => width < bound ∧ height < bound
  | .percent _ => True

end Scaling

namespace SizeStatement

variable {statement : SizeStatement} {side : Int}

theorem positiveWidth_pos (stated : statement.positiveWidth = .ok side) : 0 < side := by
  unfold positiveWidth at stated
  split at stated
  · split at stated
    · next positive => rwa [← Except.ok.inj stated]
    · cases stated
  · cases stated

theorem positiveHeight_pos (stated : statement.positiveHeight = .ok side) : 0 < side := by
  unfold positiveHeight at stated
  split at stated
  · split at stated
    · next positive => rwa [← Except.ok.inj stated]
    · cases stated
  · cases stated

theorem acceptedPercent_pos {p : Binary64} (stated : statement.acceptedPercent = .ok p) :
    ¬ p ≤ 0 := by
  unfold acceptedPercent at stated
  split at stated
  · split at stated
    · cases stated
    · next positive => rwa [← Except.ok.inj stated]
  · cases stated

theorem isPositive_scaling {scaling : Scaling} (meaning : statement.scaling = .ok scaling) :
    scaling.IsPositive := by
  unfold SizeStatement.scaling at meaning
  split at meaning
  · rw [← Except.ok.inj meaning]
    trivial
  · obtain ⟨width, wide, meaning⟩ := bind_eq_ok_iff.mp meaning
    rw [← pure_eq_ok_iff.mp meaning]
    exact positiveWidth_pos wide
  · obtain ⟨height, high, meaning⟩ := bind_eq_ok_iff.mp meaning
    rw [← pure_eq_ok_iff.mp meaning]
    exact positiveHeight_pos high
  · obtain ⟨width, wide, meaning⟩ := bind_eq_ok_iff.mp meaning
    obtain ⟨height, high, meaning⟩ := bind_eq_ok_iff.mp meaning
    rw [← pure_eq_ok_iff.mp meaning]
    exact ⟨positiveWidth_pos wide, positiveHeight_pos high⟩
  · obtain ⟨width, wide, meaning⟩ := bind_eq_ok_iff.mp meaning
    obtain ⟨height, high, meaning⟩ := bind_eq_ok_iff.mp meaning
    rw [← pure_eq_ok_iff.mp meaning]
    exact ⟨positiveWidth_pos wide, positiveHeight_pos high⟩
  · obtain ⟨p, accepted, meaning⟩ := bind_eq_ok_iff.mp meaning
    rw [← pure_eq_ok_iff.mp meaning]
    exact acceptedPercent_pos accepted

end SizeStatement

theorem Size.isPositive (size : Size) : size.scaling.IsPositive :=
  SizeStatement.isPositive_scaling size.meaning

namespace Scaling

theorem ratio_enlarged {target side reduction : Nat} (some : 0 < target) (small : target < 2 ^ 53)
    (positive : 0 < side) (inside : 2 ^ reduction * side < 2 ^ 53) :
    ∃ units, Representable units ∧ units * 2 ^ reduction < overflowUnits ∧
      ratio target ((2 ^ reduction * side : Nat) : Int) = .ok (.finite false units) ∧
      ratio target side = .ok (.finite false (units * 2 ^ reduction)) := by
  have enlarged : 0 < 2 ^ reduction * side := Nat.mul_pos (Nat.two_pow_pos reduction) positive
  have normal : 2 ^ 52 * (2 ^ reduction * side) ≤ target * unitsPerOne := ratio_normal some inside
  have exact : roundUnits (target * unitsPerOne) side =
      roundUnits (target * unitsPerOne) (2 ^ reduction * side) * 2 ^ reduction := by
    rw [← roundUnits_mul_two_pow enlarged normal, Nat.mul_comm (2 ^ reduction) side,
      roundUnits_mul_mul _ _ (Nat.two_pow_pos reduction)]
  have within : target ≤ target * side := Nat.le_mul_of_pos_right _ positive
  have within' : target ≤ target * (2 ^ reduction * side) := Nat.le_mul_of_pos_right _ enlarged
  refine ⟨roundUnits (target * unitsPerOne) (2 ^ reduction * side),
    representable_roundUnits _ enlarged, ?_, ratio_of_le enlarged small within', ?_⟩
  · rw [← exact]
    exact (ratio_units_le positive small within).trans_lt (integer_lt_overflow small)
  · rw [ratio_of_le positive small within, exact]

theorem scaledBy_enlarged {units width height reduction : Nat} (representable : Representable units)
    (wide : 0 < width) (narrow : 2 ^ reduction * width < 2 ^ 53) (high : 0 < height)
    (low : 2 ^ reduction * height < 2 ^ 53) (negative : Bool) :
    scaledBy (ofUnits negative (units * 2 ^ reduction)) ⟨width, height⟩ =
      scaledBy (ofUnits negative units)
        ⟨(2 ^ reduction * width : Nat), (2 ^ reduction * height : Nat)⟩ := by
  have times : ∀ side : Nat, 0 < side → 2 ^ reduction * side < 2 ^ 53 →
      timesInteger (ofUnits negative (units * 2 ^ reduction)) side =
        timesInteger (ofUnits negative units) ((2 ^ reduction * side : Nat) : Int) := by
    intro side positive inside
    have power := Nat.two_pow_pos reduction
    have smaller : side ≤ 2 ^ reduction * side := Nat.le_mul_of_pos_left _ power
    rw [timesInteger_ofUnits (representable.mul_two_pow reduction) positive (by omega),
      timesInteger_ofUnits representable (Nat.mul_pos power positive) inside, Nat.mul_assoc]
  simp only [scaledBy, times width wide narrow, times height high low]

theorem scaledBy_nan {width height : Nat} (narrow : width < 2 ^ 53) (low : height < 2 ^ 53) :
    scaledBy .nan ⟨width, height⟩ = .error .notANumberHasNoInteger := by
  rw [scaledBy, timesInteger_nan narrow, timesInteger_nan low]
  rfl

theorem target_enlarged {scaling : Scaling} (scales : scaling ≠ .full) (stated : scaling.IsPositive)
    (sides : scaling.SidesBelow (2 ^ 53)) {width height reduction : Nat} (few : reduction ≤ 52)
    (wide : 0 < width) (narrow : 2 ^ reduction * width < 2 ^ 53) (high : 0 < height)
    (low : 2 ^ reduction * height < 2 ^ 53) :
    scaling.target ⟨width, height⟩ reduction = scaling.target
      ⟨(2 ^ reduction * width : Nat), (2 ^ reduction * height : Nat)⟩ 0 := by
  have power := Nat.two_pow_pos reduction
  cases scaling with
  | full => exact absurd rfl scales
  | forced _ _ => rfl
  | fitWidth side =>
      have same := ratio_mul_mul (height * side) width power
      simp only [target, Int.natCast_mul, Int.mul_assoc, same]
  | fitHeight side =>
      have same := ratio_mul_mul (width * side) height power
      simp only [target, Int.natCast_mul, Int.mul_assoc, same]
  | fitInside across down =>
      obtain ⟨some, some'⟩ : 0 < across ∧ 0 < down := stated
      obtain ⟨small, small'⟩ : across < 2 ^ 53 ∧ down < 2 ^ 53 := sides
      obtain ⟨across, rfl⟩ := Int.eq_ofNat_of_zero_le (Int.le_of_lt some)
      obtain ⟨down, rfl⟩ := Int.eq_ofNat_of_zero_le (Int.le_of_lt some')
      obtain ⟨horizontal, exact, inside, enlarged, plain⟩ :=
        ratio_enlarged (by omega : 0 < across) (by omega) wide narrow
      obtain ⟨vertical, exact', -, enlarged', plain'⟩ :=
        ratio_enlarged (by omega : 0 < down) (by omega) high low
      have least : min horizontal vertical * 2 ^ reduction < overflowUnits :=
        (Nat.mul_le_mul_right _ (Nat.min_le_left _ _)).trans_lt inside
      have smaller : min horizontal vertical < overflowUnits :=
        (Nat.le_mul_of_pos_right _ power).trans_lt least
      rw [target, target, enlarged, enlarged', plain, plain', ok_bind, ok_bind, ok_bind, ok_bind,
        leastOf_finite, leastOf_finite, ← ofUnits_finite smaller,
        ← scaledBy_enlarged (exact.min exact') wide narrow high low, ofUnits_finite least,
        Nat.mul_min_mul_right]
  | percent p =>
      have rounded : (p / 100).Rounded := by
        rw [ofNat_of_lt (by decide)]
        exact rounded_div_finite p (Nat.mul_pos (by decide) unitsPerOne_pos)
      have unreduced : (0 : Int) = ((0 : Nat) : Int) := rfl
      rw [target, target, unreduced, Reduction.scale_eq few, Reduction.scale_eq (Nat.zero_le 52),
        ok_bind, ok_bind]
      generalize p / 100 = portion at rounded
      cases rounded with
      | @ofUnits negative units representable =>
          rw [Reduction.quotient_scale (by omega) representable,
            Reduction.quotient_scale (Nat.zero_le _) representable, ok_bind, ok_bind, Nat.pow_zero,
            Nat.mul_one]
          exact scaledBy_enlarged representable wide narrow high low negative
      | nan =>
          -- what is not a number stays so, and leaves both without a target
          have smaller : ∀ side : Nat, 2 ^ reduction * side < 2 ^ 53 → side < 2 ^ 53 := by
            intro side inside
            exact (Nat.le_mul_of_pos_left side power).trans_lt inside
          rw [quotient_ok (isZero_finite (Nat.two_pow_pos _)),
            quotient_ok (isZero_finite (Nat.two_pow_pos _)), ok_bind, ok_bind, nan_div, nan_div,
            scaledBy_nan (smaller width narrow) (smaller height low), scaledBy_nan narrow low]

end Scaling

/-- Whatever size is asked for, a raster that was reduced while decoding is scaled to the same
dimensions as one that was not, or neither can be scaled for the same reason. -/
theorem Size.target_unreduced (size : Size) (scales : size.scaling ≠ .full)
    (sides : size.scaling.SidesBelow (2 ^ 53)) {delivered : Dimensions} {reduction : Nat}
    (known : (reduction : Int) ≤ Reduction.limit) (positive : delivered.IsPositive)
    (small : (delivered.unreduced reduction).SidesBelow (2 ^ 53)) :
    size.scaling.target delivered reduction =
      size.scaling.target (delivered.unreduced reduction) 0 := by
  obtain ⟨width, height, wide, high, rfl⟩ := Dimensions.exists_nat positive
  rw [Dimensions.unreduced_nat] at small ⊢
  have narrow : ((2 ^ reduction * width : Nat) : Int) < 2 ^ 53 := small.1
  have low : ((2 ^ reduction * height : Nat) : Int) < 2 ^ 53 := small.2
  exact Scaling.target_enlarged scales size.isPositive sides (Reduction.few_of_known known) wide
    (by omega) high (by omega)

/-- A quarter of 50 by 6 pixels, which is half of 25 by 3. Both sides are ties. -/
theorem Size.target_unreduced_quarter :
    ∃ size : Size, size.scaling = .percent 25 ∧
      (Dimensions.unreduced ⟨25, 3⟩ 1) = ⟨50, 6⟩ ∧
      size.scaling.target ⟨50, 6⟩ 0 = .ok ⟨12, 2⟩ ∧ size.scaling.target ⟨25, 3⟩ 1 = .ok ⟨12, 2⟩ := by
  let size : Size := ⟨⟨.percent, none, none, some 25⟩, .percent 25, by decide +kernel⟩
  have quarter : size.scaling.target ⟨50, 6⟩ 0 = .ok ⟨12, 2⟩ := by decide +kernel
  have same : size.scaling.target ⟨25, 3⟩ 1 = size.scaling.target ⟨50, 6⟩ 0 :=
    size.target_unreduced (by rintro ⟨⟩) trivial (by decide) ⟨by decide, by decide⟩
      ⟨by decide, by decide⟩
  exact ⟨size, rfl, rfl, quarter, same.trans quarter⟩

end Jp2Render
