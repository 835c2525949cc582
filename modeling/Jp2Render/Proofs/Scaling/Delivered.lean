import Jp2Render.Proofs.Scaling.Lengths
import Mathlib.Data.Rat.Floor

/-!
Targets of what a decoder delivers. The sides of a reduced raster are rounded up, so they stand for sides
that are longer than those of the area, by less than one of their own pixels. The scale that a reduction is
planned for is so small that the excess comes to less than a pixel of the target. But a picture that is
fitted takes the proportions of the raster that was delivered: where that has few pixels across, its own
width has much in excess, and the target loses as much of its height.
-/

namespace Jp2Render

open Binary64 Arithmetic

namespace Dimensions

/-- What is delivered of an area: both sides divided by a power of two, and rounded up. -/
def reduced (area : Dimensions) (reduction : ℕ) : Dimensions where
  width := ⌈(area.width : ℚ) / 2 ^ reduction⌉
  height := ⌈(area.height : ℚ) / 2 ^ reduction⌉

/-- A raster that is left of an area by a reduction: enlarged again it covers the area, and goes beyond by
less than one of its pixels. -/
structure IsReduced (delivered area : Dimensions) (reduction : ℕ) : Prop where
  covers : area.FitsIn (delivered.unreduced reduction)
  width_lt : 2 ^ reduction * delivered.width < area.width + 2 ^ reduction
  height_lt : 2 ^ reduction * delivered.height < area.height + 2 ^ reduction

theorem isReduced_reduced (area : Dimensions) (reduction : ℕ) :
    (area.reduced reduction).IsReduced area reduction := by
  have power : (0 : ℚ) < 2 ^ reduction := by positivity
  have covers : ∀ side : ℤ, side ≤ 2 ^ reduction * ⌈(side : ℚ) / 2 ^ reduction⌉ := by
    intro side
    have up := (div_le_iff₀' power).mp (Int.le_ceil ((side : ℚ) / 2 ^ reduction))
    exact_mod_cast up
  have tight : ∀ side : ℤ, 2 ^ reduction * ⌈(side : ℚ) / 2 ^ reduction⌉ < side + 2 ^ reduction := by
    intro side
    have near := mul_lt_mul_of_pos_left (Int.ceil_lt_add_one ((side : ℚ) / 2 ^ reduction)) power
    rw [mul_add, mul_div_cancel₀ _ power.ne', mul_one] at near
    exact_mod_cast near
  exact ⟨⟨covers _, covers _⟩, tight _, tight _⟩

namespace IsReduced

variable {delivered area : Dimensions} {reduction : ℕ}

theorem unreduced_isPositive (reduced : delivered.IsReduced area reduction)
    (positive : area.IsPositive) : (delivered.unreduced reduction).IsPositive :=
  ⟨positive.1.trans reduced.covers.1, positive.2.trans reduced.covers.2⟩

theorem isPositive (reduced : delivered.IsReduced area reduction) (positive : area.IsPositive) :
    delivered.IsPositive := by
  have power : (0 : ℤ) < 2 ^ reduction := by positivity
  obtain ⟨some, some'⟩ := reduced.unreduced_isPositive positive
  exact ⟨(mul_pos_iff_of_pos_left power).mp some, (mul_pos_iff_of_pos_left power).mp some'⟩

theorem unreduced_sidesBelow (reduced : delivered.IsReduced area reduction) (few : reduction ≤ 5)
    (small : area.SidesBelow (2 ^ 31)) : (delivered.unreduced reduction).SidesBelow (2 ^ 32) := by
  have most : (2 : ℤ) ^ reduction ≤ 2 ^ 5 := pow_le_pow_right₀ (by norm_num) few
  obtain ⟨narrow, low⟩ := small
  obtain ⟨-, tight, tight'⟩ := reduced
  exact ⟨tight.trans (by omega), tight'.trans (by omega)⟩

theorem sidesBelow (reduced : delivered.IsReduced area reduction) (few : reduction ≤ 5)
    (positive : area.IsPositive) (small : area.SidesBelow (2 ^ 31)) :
    delivered.SidesBelow (2 ^ 32) := by
  have least : (1 : ℤ) ≤ 2 ^ reduction := one_le_pow₀ (by norm_num)
  have delivers := reduced.isPositive positive
  obtain ⟨narrow, low⟩ := reduced.unreduced_sidesBelow few small
  exact ⟨(le_mul_of_one_le_left (Int.le_of_lt delivers.1) least).trans_lt narrow,
    (le_mul_of_one_le_left (Int.le_of_lt delivers.2) least).trans_lt low⟩

end IsReduced

end Dimensions

namespace Scaling

/-- How much of the side that a delivered side stands for lies within the area. -/
def share (side delivered : ℤ) (reduction : ℕ) : ℚ := side / (2 ^ reduction * delivered)

section

variable {side delivered : ℤ} {reduction : ℕ}

theorem share_pos (positive : 0 < side) (some : 0 < delivered) : 0 < share side delivered reduction := by
  have positive : (0 : ℚ) < side := by exact_mod_cast positive
  have some : (0 : ℚ) < delivered := by exact_mod_cast some
  rw [share]
  positivity

theorem share_le_one (some : 0 < delivered) (covers : side ≤ 2 ^ reduction * delivered) :
    share side delivered reduction ≤ 1 := by
  have some : (0 : ℚ) < delivered := by exact_mod_cast some
  rw [share, div_le_one (by positivity)]
  exact_mod_cast covers

theorem excess_le (tight : 2 ^ reduction * delivered < side + 2 ^ reduction) :
    (2 ^ reduction * delivered : ℚ) ≤ side + (2 ^ reduction - 1) := by
  have whole : 2 ^ reduction * delivered ≤ side + (2 ^ reduction - 1) := by omega
  exact_mod_cast whole

theorem one_sub_share_le (some : 0 < delivered)
    (tight : 2 ^ reduction * delivered < side + 2 ^ reduction) :
    1 - share side delivered reduction ≤ (1 - 1 / 2 ^ reduction) / delivered := by
  have some : (0 : ℚ) < delivered := by exact_mod_cast some
  have excess := excess_le tight
  rw [share]
  field_simp
  linarith

theorem share_of_dvd (some : 0 < delivered) (covers : side ≤ 2 ^ reduction * delivered)
    (tight : 2 ^ reduction * delivered < side + 2 ^ reduction) (divides : 2 ^ reduction ∣ side) :
    share side delivered reduction = 1 := by
  obtain ⟨quotient, rfl⟩ := divides
  have power : (0 : ℤ) < 2 ^ reduction := by positivity
  have fewer : quotient ≤ delivered := le_of_mul_le_mul_left covers power
  have more : delivered < quotient + 1 :=
    lt_of_mul_lt_mul_left (tight.trans_eq (mul_add_one _ _).symm) power.le
  obtain rfl : quotient = delivered := by omega
  have some : (0 : ℚ) < quotient := by exact_mod_cast some
  rw [share]
  push_cast
  exact div_self (by positivity)

variable {wanted : ℤ} (asked : 0 < wanted) (positive : 0 < side) (some : 0 < delivered)
include asked positive some

theorem ratio_delivered_le (covers : side ≤ 2 ^ reduction * delivered) :
    (wanted / delivered : ℚ) ≤ wanted / side * 2 ^ reduction := by
  have asked : (0 : ℚ) < wanted := by exact_mod_cast asked
  have positive : (0 : ℚ) < side := by exact_mod_cast positive
  have some : (0 : ℚ) < delivered := by exact_mod_cast some
  have covers : (side : ℚ) ≤ 2 ^ reduction * delivered := by exact_mod_cast covers
  rw [div_mul_eq_mul_div, div_le_div_iff₀ some positive, mul_assoc]
  exact mul_le_mul_of_nonneg_left covers asked.le

theorem le_ratio_delivered {scale part : ℚ} (least : scale ≤ wanted / side) (above : 0 ≤ part)
    (within : part ≤ share side delivered reduction) :
    scale * 2 ^ reduction * part ≤ wanted / delivered := by
  have asked : (0 : ℚ) < wanted := by exact_mod_cast asked
  have positive : (0 : ℚ) < side := by exact_mod_cast positive
  have some : (0 : ℚ) < delivered := by exact_mod_cast some
  calc scale * 2 ^ reduction * part
      ≤ wanted / side * 2 ^ reduction * share side delivered reduction := by gcongr
    _ = wanted / delivered := by
      rw [share]
      field_simp

end

variable {scaling : Scaling} {area delivered : Dimensions} {reduction : ℕ} {scale : ℚ}

theorem exactScale?_delivered (stated : scaling.IsPositive) (positive : area.IsPositive)
    (reduced : delivered.IsReduced area reduction) (fits : scaling.exactScale? area = some scale) :
    ∃ scale', scaling.exactScale? delivered = some scale' ∧ 0 ≤ scale ∧
      scale' ≤ scale * 2 ^ reduction ∧
      scale * 2 ^ reduction * min (share area.width delivered.width reduction)
        (share area.height delivered.height reduction) ≤ scale' := by
  have delivers := reduced.isPositive positive
  have shares : 0 ≤ min (share area.width delivered.width reduction)
      (share area.height delivered.height reduction) :=
    le_min (share_pos positive.1 delivers.1).le (share_pos positive.2 delivers.2).le
  have columns : (0 : ℚ) < area.width := by exact_mod_cast positive.1
  have rows : (0 : ℚ) < area.height := by exact_mod_cast positive.2
  cases scaling with
  | full => cases fits
  | forced _ _ => cases fits
  | percent _ => cases fits
  | fitWidth width =>
      have asked : (0 : ℚ) < width := by exact_mod_cast stated
      obtain rfl := Option.some.inj fits
      exact ⟨_, rfl, by positivity,
        ratio_delivered_le stated positive.1 delivers.1 reduced.covers.1,
        le_ratio_delivered stated positive.1 delivers.1 le_rfl shares (min_le_left _ _)⟩
  | fitHeight height =>
      have asked : (0 : ℚ) < height := by exact_mod_cast stated
      obtain rfl := Option.some.inj fits
      exact ⟨_, rfl, by positivity,
        ratio_delivered_le stated positive.2 delivers.2 reduced.covers.2,
        le_ratio_delivered stated positive.2 delivers.2 le_rfl shares (min_le_right _ _)⟩
  | fitInside width height =>
      have asked : (0 : ℚ) < width := by exact_mod_cast stated.1
      have asked' : (0 : ℚ) < height := by exact_mod_cast stated.2
      obtain rfl := Option.some.inj fits
      -- either side may be the one that fits, so the smaller share bounds both
      refine ⟨_, rfl, by positivity, ?_, le_min ?_ ?_⟩
      · rw [min_mul_of_nonneg _ _ (by positivity)]
        exact min_le_min (ratio_delivered_le stated.1 positive.1 delivers.1 reduced.covers.1)
          (ratio_delivered_le stated.2 positive.2 delivers.2 reduced.covers.2)
      · exact le_ratio_delivered stated.1 positive.1 delivers.1 (min_le_left _ _) shares
          (min_le_left _ _)
      · exact le_ratio_delivered stated.2 positive.2 delivers.2 (min_le_right _ _) shares
          (min_le_right _ _)

theorem ratio_mul_le_one {wanted side : ℤ} (some : 0 < wanted) (positive : 0 < side)
    (small : side < 2 ^ 53) (few : reduction ≤ 1074) {x : Binary64} (divided : ratio wanted side = .ok x)
    (below : x ≤ .finite false (2 ^ (1074 - reduction))) :
    (wanted / side : ℚ) * 2 ^ reduction ≤ 1 := by
  obtain ⟨wanted, rfl⟩ := Int.eq_ofNat_of_zero_le some.le
  obtain ⟨side, rfl⟩ := Int.eq_ofNat_of_zero_le positive.le
  rw [(ratio_eq_ofRatio divided).2] at below
  have enlarged := mul_le_of_ratio_le (by omega) (by omega) (by omega) few (le_of_ofUnits_le below)
  have columns : (0 : ℚ) < ((side : ℤ) : ℚ) := by exact_mod_cast positive
  rw [div_mul_eq_mul_div, div_le_one columns, mul_comm]
  exact_mod_cast enlarged

theorem exactScale?_le_of_reduction (stated : scaling.IsPositive) (positive : area.IsPositive)
    (small : area.SidesBelow (2 ^ 53)) {bound : ℤ} (known : bound ≤ Reduction.limit)
    (planned : scaling.reduction area bound = .ok reduction) (reduces : 0 < reduction)
    (fits : scaling.exactScale? area = some scale) : scale * 2 ^ reduction ≤ 1 := by
  have few : reduction ≤ 1074 := (few_of_reduction known planned).trans (by decide)
  obtain ⟨real, linear, below⟩ := linearScale?_le_of_reduction known planned reduces
  cases scaling with
  | full => cases fits
  | forced _ _ => cases fits
  | percent _ => cases fits
  | fitWidth width =>
      obtain rfl := Option.some.inj fits
      obtain ⟨_, divided, linear⟩ := bind_eq_ok_iff.mp linear
      obtain rfl := Option.some.inj (pure_eq_ok_iff.mp linear)
      exact ratio_mul_le_one stated positive.1 small.1 few divided below
  | fitHeight height =>
      obtain rfl := Option.some.inj fits
      obtain ⟨_, divided, linear⟩ := bind_eq_ok_iff.mp linear
      obtain rfl := Option.some.inj (pure_eq_ok_iff.mp linear)
      exact ratio_mul_le_one stated positive.2 small.2 few divided below
  | fitInside width height =>
      obtain rfl := Option.some.inj fits
      obtain ⟨_, divided, linear⟩ := bind_eq_ok_iff.mp linear
      obtain ⟨_, divided', linear⟩ := bind_eq_ok_iff.mp linear
      obtain rfl := Option.some.inj (pure_eq_ok_iff.mp linear)
      have power : (0 : ℚ) < 2 ^ reduction := by positivity
      rw [min_mul_of_nonneg _ _ power.le]
      -- the smaller one of the two ratios is one of them
      rcases le_of_leastOf_le below with below | below
      · exact (min_le_left _ _).trans
          (ratio_mul_le_one stated.1 positive.1 small.1 few divided below)
      · exact (min_le_right _ _).trans
          (ratio_mul_le_one stated.2 positive.2 small.2 few divided' below)

theorem hasRatios_of_reduction {bound : ℤ} (planned : scaling.reduction area bound = .ok reduction) :
    scaling.HasRatios area := by
  have scales : ¬ scaling.HasNoScale area := fun none =>
    not_failsWith_of_ok planned ((fails_reduction scaling area bound).mpr none)
  cases scaling with
  | fitInside width height => exact not_or.mp scales
  | _ => trivial

section

variable {side delivered pixels pixels' : ℤ} {length length' scale' : ℚ}

theorem length_le (least : 0 ≤ scale) (planned : scale * 2 ^ reduction ≤ 1) (some : 1 ≤ side)
    (small : side < 2 ^ 31) : scale * side ≤ 2 ^ 31 - 1 := by
  have whole : scale ≤ 1 :=
    (le_mul_of_one_le_right least (one_le_pow₀ (by norm_num))).trans planned
  have above : (0 : ℚ) ≤ side := by exact_mod_cast (by omega : 0 ≤ side)
  have below : (side : ℚ) ≤ 2 ^ 31 - 1 := by exact_mod_cast Int.le_sub_one_of_lt small
  exact (mul_le_of_le_one_left above whole).trans below

theorem length_grows (least : 0 ≤ scale) (planned : scale * 2 ^ reduction ≤ 1)
    (enlarged : scale' ≤ scale * 2 ^ reduction) (some : 0 < delivered)
    (tight : 2 ^ reduction * delivered < side + 2 ^ reduction) :
    scale' * delivered ≤ scale * side + (1 - 1 / 2 ^ reduction) := by
  have power : (1 : ℚ) ≤ 2 ^ reduction := one_le_pow₀ (by norm_num)
  have some : (0 : ℚ) < delivered := by exact_mod_cast some
  have excess := excess_le tight
  generalize (2 : ℚ) ^ reduction = factor at *
  have part : scale * (factor - 1) ≤ 1 - 1 / factor := by
    have divided : scale ≤ 1 / factor := (le_div_iff₀ (by linarith)).mpr planned
    calc scale * (factor - 1) ≤ 1 / factor * (factor - 1) :=
          mul_le_mul_of_nonneg_right divided (by linarith)
      _ = 1 - 1 / factor := by field_simp
  calc scale' * delivered ≤ scale * factor * delivered := mul_le_mul_of_nonneg_right enlarged some.le
    _ = scale * (factor * delivered) := mul_assoc ..
    _ ≤ scale * (side + (factor - 1)) := mul_le_mul_of_nonneg_left excess least
    _ = scale * side + scale * (factor - 1) := mul_add ..
    _ ≤ scale * side + (1 - 1 / factor) := by linarith

theorem length_shrinks (least : 0 ≤ scale) (some : 0 < delivered)
    (covers : side ≤ 2 ^ reduction * delivered) (positive : 0 < side) {part : ℚ} (above : 0 ≤ part)
    (below : part ≤ 1)
    (shrunk : scale * 2 ^ reduction * min (share side delivered reduction) part ≤ scale') :
    scale * side * part ≤ scale' * delivered := by
  have positive := (share_pos positive some : 0 < share side delivered reduction).le
  have whole := share_le_one some covers
  have some : (0 : ℚ) < delivered := by exact_mod_cast some
  have both : share side delivered reduction * part ≤ min (share side delivered reduction) part :=
    le_min (mul_le_of_le_one_right positive below) (mul_le_of_le_one_left above whole)
  have length : (side : ℚ) = 2 ^ reduction * share side delivered reduction * delivered := by
    rw [share]
    field_simp
  calc scale * side * part
      = scale * 2 ^ reduction * (share side delivered reduction * part) * delivered := by
        nth_rewrite 1 [length]
        ring
    _ ≤ scale * 2 ^ reduction * min (share side delivered reduction) part * delivered := by gcongr
    _ ≤ scale' * delivered := mul_le_mul_of_nonneg_right shrunk some.le

theorem pixels_le_add_one (few : reduction ≤ 5) (comes : ComesTo length pixels)
    (comes' : ComesTo length' pixels') (grows : length' ≤ length + (1 - 1 / 2 ^ reduction)) :
    pixels' ≤ pixels + 1 := by
  -- a thirty-second of a pixel at least is left, far more than the arithmetic is off by
  have power : (2 : ℚ) ^ reduction ≤ 2 ^ 5 := pow_le_pow_right₀ (by norm_num) few
  have part : (1 : ℚ) / 2 ^ 5 ≤ 1 / 2 ^ reduction := one_div_le_one_div_of_le (by positivity) power
  have whole : (1 : ℚ) / 2 ^ reduction ≤ 1 :=
    (div_le_one (by positivity)).mpr (one_le_pow₀ (by norm_num))
  have near := comes.le_add comes' (by linarith) grows
  have below : (pixels' : ℚ) < pixels + 1 + 1 := by
    norm_num [lengthSlack] at near part
    linarith
  exact Int.lt_add_one_iff.mp (by exact_mod_cast below)

end

end Scaling

/-- What becomes of the pixels along a side when the target is computed from a delivered raster. The exact
length is that for the whole area, of whose other side the given pixels are delivered. -/
structure StaysNear (length : ℚ) (other delivered : ℤ) (reduction : ℕ) (exact target : ℤ) : Prop where
  most : target ≤ exact + 1
  least : (exact : ℚ) ≤
    target + 1 + length * (1 - Scaling.share other delivered reduction) + 2 * lengthSlack
  near : length ≤ delivered ∨ 2 ^ reduction ∣ other → |target - exact| ≤ 1

namespace Scaling

theorem staysNear {length length' : ℚ} {other delivered exact target : ℤ} {reduction : ℕ}
    (few : reduction ≤ 5) (comes : ComesTo length exact) (comes' : ComesTo length' target)
    (above : 0 ≤ length) (grows : length' ≤ length + (1 - 1 / 2 ^ reduction))
    (shrinks : length * share other delivered reduction ≤ length') (some : 0 < delivered)
    (covers : other ≤ 2 ^ reduction * delivered)
    (tight : 2 ^ reduction * delivered < other + 2 ^ reduction) :
    StaysNear length other delivered reduction exact target := by
  have most := pixels_le_add_one few comes comes' grows
  have shares := share_le_one some covers
  have lost : 0 ≤ length * (1 - share other delivered reduction) :=
    mul_nonneg above (by linarith)
  refine ⟨most, comes'.le_add comes lost (by linarith), fun near => ?_⟩
  -- what is lost is less than a pixel if the length is no longer than the other side, or if nothing is
  have little : length * (1 - share other delivered reduction) ≤ 1 - 1 / 2 ^ reduction := by
    have positive : (0 : ℚ) < delivered := by exact_mod_cast some
    rcases near with short | divides
    · calc length * (1 - share other delivered reduction)
          ≤ delivered * ((1 - 1 / 2 ^ reduction) / delivered) :=
            mul_le_mul short (one_sub_share_le some tight) (by linarith) positive.le
        _ = 1 - 1 / 2 ^ reduction := by field_simp
    · rw [share_of_dvd some covers tight divides, sub_self, mul_zero, sub_nonneg]
      exact (div_le_one (by positivity)).mpr (one_le_pow₀ (by norm_num))
  have least := pixels_le_add_one few comes' comes (by linarith)
  rw [abs_le]
  omega

variable {scaling : Scaling} {area delivered : Dimensions} {reduction : ℕ} {scale : ℚ}

theorem target_delivered (stated : scaling.IsPositive) (positive : area.IsPositive)
    (small : area.SidesBelow (2 ^ 31)) (few : reduction ≤ 5)
    (reduced : delivered.IsReduced area reduction) (ratios : scaling.HasRatios area)
    (ratios' : scaling.HasRatios delivered) (fits : scaling.exactScale? area = some scale)
    (planned : scale * 2 ^ reduction ≤ 1) :
    ∃ exact target, scaling.target area 0 = .ok exact ∧
      scaling.target delivered reduction = .ok target ∧
      StaysNear (scale * area.width) area.height delivered.height reduction exact.width target.width ∧
      StaysNear (scale * area.height) area.width delivered.width reduction exact.height
        target.height := by
  have delivers := reduced.isPositive positive
  obtain ⟨scale', fits', least, enlarged, shrunk⟩ :=
    exactScale?_delivered stated positive reduced fits
  have part : (0 : ℚ) < 1 / 2 ^ reduction := by positivity
  have columns := length_le least planned positive.1 small.1
  have rows := length_le least planned positive.2 small.2
  -- each axis grows by less than one pixel and shrinks by the share of the other one
  have wide := length_grows least planned enlarged delivers.1 reduced.width_lt
  have high := length_grows least planned enlarged delivers.2 reduced.height_lt
  have narrow := length_shrinks least delivers.1 reduced.covers.1 positive.1
    (share_pos positive.2 delivers.2).le (share_le_one delivers.2 reduced.covers.2) shrunk
  rw [min_comm] at shrunk
  have low := length_shrinks least delivers.2 reduced.covers.2 positive.2
    (share_pos positive.1 delivers.1).le (share_le_one delivers.1 reduced.covers.1) shrunk
  obtain ⟨exact, scaled, comes, comes'⟩ := target_comesTo stated positive
    ⟨small.1.trans (by decide), small.2.trans (by decide)⟩ ratios fits (by linarith) (by linarith) 0
  obtain ⟨target, scaled', moved, moved'⟩ := target_comesTo stated delivers
    (reduced.sidesBelow few positive small) ratios' fits' (by linarith) (by linarith) reduction
  have across : (0 : ℚ) < area.width := by exact_mod_cast positive.1
  have down : (0 : ℚ) < area.height := by exact_mod_cast positive.2
  exact ⟨exact, target, scaled, scaled',
    staysNear few comes moved (by positivity) wide narrow delivers.2 reduced.covers.2
      reduced.height_lt,
    staysNear few comes' moved' (by positivity) high low delivers.1 reduced.covers.1
      reduced.width_lt⟩

theorem hasRatios_of_target {source target : Dimensions} {reduction : ℤ}
    (done : scaling.target source reduction = .ok target) : scaling.HasRatios source := by
  cases scaling with
  | fitInside width height =>
      obtain ⟨_, divided, done⟩ := bind_eq_ok_iff.mp done
      obtain ⟨_, divided', -⟩ := bind_eq_ok_iff.mp done
      exact ⟨mt fails_ratio.mpr (not_failsWith_of_ok divided),
        mt fails_ratio.mpr (not_failsWith_of_ok divided')⟩
  | _ => trivial

end Scaling

/-- A picture that is fitted to the raster delivered for it is never more than one pixel larger than one
fitted to the whole area, and it is the same where nothing was reduced. It is smaller by no more than one
pixel and the part of the exact length that the other side has in excess; so along a side that is no longer
than what is delivered of the other, or if the other is divided without a rest, one pixel is the most.
Only a side of a box that has no ratio to the delivered one leaves no target. -/
theorem Size.target_of_delivered (size : Size) {area : Dimensions} (positive : area.IsPositive)
    (small : area.SidesBelow (2 ^ 31)) {scale : ℚ} (fits : size.scaling.exactScale? area = some scale)
    {bound : ℤ} (known : bound ≤ Reduction.limit) {reduction : ℕ}
    (planned : size.scaling.reduction area bound = .ok reduction) :
    (reduction = 0 →
      size.scaling.target (area.reduced reduction) reduction = size.scaling.target area 0) ∧
    (0 < reduction → size.scaling.HasRatios (area.reduced reduction) →
      ∃ exact target, size.scaling.target area 0 = .ok exact ∧
        size.scaling.target (area.reduced reduction) reduction = .ok target ∧
        StaysNear (scale * area.width) area.height (area.reduced reduction).height reduction
          exact.width target.width ∧
        StaysNear (scale * area.height) area.width (area.reduced reduction).width reduction
          exact.height target.height) ∧
    (¬ size.scaling.HasRatios (area.reduced reduction) →
      Fails (size.scaling.target (area.reduced reduction) reduction)) := by
  refine ⟨?_, fun reduces ratios => ?_, fun none => ?_⟩
  · rintro rfl
    have whole : area.reduced 0 = area := by simp [Dimensions.reduced]
    rw [whole]
    rfl
  · -- a size that reduces has a scale below one, so that nothing is enlarged
    have least := Scaling.exactScale?_le_of_reduction size.isPositive positive
      ⟨small.1.trans (by decide), small.2.trans (by decide)⟩ known planned reduces fits
    exact Scaling.target_delivered size.isPositive positive small
      (Scaling.le_five_of_reduction known planned) (Dimensions.isReduced_reduced area reduction)
      (Scaling.hasRatios_of_reduction planned) ratios fits least
  · by_contra scaled
    obtain ⟨target, done⟩ := exists_ok_of_not_fails scaled
    exact none (Scaling.hasRatios_of_target done)

theorem Dimensions.reduced_strip : Dimensions.reduced ⟨3, 30⟩ 1 = ⟨2, 15⟩ := by
  have width : ⌈((3 : ℤ) : ℚ) / 2 ^ 1⌉ = 2 := by norm_num [Int.ceil_eq_iff]
  have height : ⌈((30 : ℤ) : ℚ) / 2 ^ 1⌉ = 15 := by norm_num [Int.ceil_eq_iff]
  simp only [reduced, width, height]

theorem Size.exists_strip :
    ∃ size : Size, size.scaling = .fitWidth 1 ∧ size.scaling.exactScale? ⟨3, 30⟩ = some (1 / 3) ∧
      size.scaling.reduction ⟨3, 30⟩ Reduction.limit = .ok 1 ∧
      size.scaling.target ⟨3, 30⟩ 0 = .ok ⟨1, 10⟩ ∧ size.scaling.target ⟨2, 15⟩ 1 = .ok ⟨1, 8⟩ := by
  let size : Size := ⟨⟨.fitWidth, some 1, none, none⟩, .fitWidth 1, by decide +kernel⟩
  refine ⟨size, rfl, ?_, by decide +kernel⟩
  simp [size, Scaling.exactScale?]

theorem Size.target_of_delivered_strip :
    ∃ (size : Size) (exact target : Dimensions), size.scaling = .fitWidth 1 ∧
      size.scaling.exactScale? ⟨3, 30⟩ = some (1 / 3) ∧
      size.scaling.reduction ⟨3, 30⟩ Reduction.limit = .ok 1 ∧ exact = ⟨1, 10⟩ ∧ target = ⟨1, 8⟩ ∧
      StaysNear ((1 / 3 : ℚ) * (3 : ℤ)) 30 15 1 exact.width target.width ∧
      StaysNear ((1 / 3 : ℚ) * (30 : ℤ)) 3 2 1 exact.height target.height := by
  obtain ⟨size, asks, scale, planned, whole, delivered⟩ := Size.exists_strip
  have ratios : size.scaling.HasRatios ((Dimensions.mk 3 30).reduced 1) := by
    rw [asks]
    trivial
  obtain ⟨exact, target, scaled, scaled', across, down⟩ :=
    (size.target_of_delivered ⟨by decide, by decide⟩ ⟨by decide, by decide⟩ scale le_rfl
      planned).2.1 Nat.one_pos ratios
  rw [Dimensions.reduced_strip] at scaled' across down
  exact ⟨size, exact, target, asks, scale, planned, Except.ok.inj (scaled.symm.trans whole),
    Except.ok.inj (scaled'.symm.trans delivered), across, down⟩

/-- The proportions of the area are not always kept to the pixel. -/
theorem Size.target_of_delivered_distorts :
    ¬ ∀ (size : Size) (area : Dimensions) (scale : ℚ) (reduction : ℕ) (exact target : Dimensions),
      area.IsPositive → area.SidesBelow (2 ^ 31) → size.scaling.exactScale? area = some scale →
      size.scaling.reduction area Reduction.limit = .ok reduction →
      size.scaling.target area 0 = .ok exact →
      size.scaling.target (area.reduced reduction) reduction = .ok target →
      |target.width - exact.width| ≤ 1 ∧ |target.height - exact.height| ≤ 1 := by
  intro keeps
  obtain ⟨size, -, scale, planned, whole, delivered⟩ := Size.exists_strip
  rw [← Dimensions.reduced_strip] at delivered
  obtain ⟨-, near⟩ := keeps size ⟨3, 30⟩ _ 1 _ _ ⟨by decide, by decide⟩ ⟨by decide, by decide⟩ scale
    planned whole delivered
  exact absurd near (by decide)

end Jp2Render
