import Jp2Render.Proofs.Reduction.Greatest
import Jp2Render.Proofs.Scaling.Delivered

/-!
Percentages of what a decoder delivers. The scale makes up for the reduction exactly, so a delivered raster
is scaled as the sides that it stands for would be, by the number that scales the area. Longer sides never
come to fewer pixels, and the excess over the area comes to less than one: a target has as many pixels as
that of the area, or one more.
-/

namespace Jp2Render

open Binary64 Arithmetic

theorem Binary64.rounds_toRat {x : Binary64} (finite : x.isFinite = true) (number : IsNumber x.toRat) :
    Rounds x.toRat x where
  finite := finite
  number := number
  near := by
    have units := unitsPerOne_pos_rat
    rw [sub_self, abs_zero]
    generalize (unitsPerOne : ℚ) = one at *
    positivity
  le := fun _ below => below
  ge := fun _ above => above

namespace Scaling

theorem wholeLength_mono {few many : ℕ} (le : few ≤ many) {pixels pixels' : ℤ}
    (done : wholeLength (ofUnits false few) = .ok pixels)
    (done' : wholeLength (ofUnits false many) = .ok pixels') : pixels ≤ pixels' := by
  obtain ⟨whole, rounded, done⟩ := bind_eq_ok_iff.mp done
  obtain ⟨whole', rounded', done'⟩ := bind_eq_ok_iff.mp done'
  obtain ⟨-, rfl⟩ := nearest_ofUnits rounded
  obtain ⟨-, rfl⟩ := nearest_ofUnits rounded'
  rw [← pure_eq_ok_iff.mp done, ← pure_eq_ok_iff.mp done']
  have more := roundQuotient_mono unitsPerOne_pos unitsPerOne_pos (Nat.mul_le_mul_right unitsPerOne le)
  exact max_le_max_left 1 (Int.ofNat_le.mpr more)

variable {units : ℕ}

theorem side_mono (representable : Representable units) {short long : ℤ} (some : 1 ≤ short)
    (le : short ≤ long) (small : long < 2 ^ 53) {x y : Binary64} {pixels pixels' : ℤ}
    (product : timesInteger (ofUnits false units) short = .ok x)
    (product' : timesInteger (ofUnits false units) long = .ok y)
    (done : wholeLength x = .ok pixels) (done' : wholeLength y = .ok pixels') : pixels ≤ pixels' := by
  obtain ⟨short, rfl⟩ := Int.eq_ofNat_of_zero_le (by omega : 0 ≤ short)
  obtain ⟨long, rfl⟩ := Int.eq_ofNat_of_zero_le (by omega : 0 ≤ long)
  rw [timesInteger_ofUnits representable (by omega) (by omega)] at product product'
  rw [← Except.ok.inj product] at done
  rw [← Except.ok.inj product'] at done'
  refine wholeLength_mono (roundUnits_mono Nat.one_pos Nat.one_pos ?_) done done'
  exact Nat.mul_le_mul_right 1 (Nat.mul_le_mul_left units (Int.ofNat_le.mp le))

theorem scaledBy_mono (representable : Representable units) {source source' : Dimensions}
    (positive : source.IsPositive) (longer : source.FitsIn source')
    (small : source'.SidesBelow (2 ^ 53)) {target target' : Dimensions}
    (done : scaledBy (ofUnits false units) source = .ok target)
    (done' : scaledBy (ofUnits false units) source' = .ok target') : target.FitsIn target' := by
  obtain ⟨_, across, done⟩ := bind_eq_ok_iff.mp done
  obtain ⟨_, down, done⟩ := bind_eq_ok_iff.mp done
  obtain ⟨_, wide, done⟩ := bind_eq_ok_iff.mp done
  obtain ⟨_, high, done⟩ := bind_eq_ok_iff.mp done
  obtain ⟨_, across', done'⟩ := bind_eq_ok_iff.mp done'
  obtain ⟨_, down', done'⟩ := bind_eq_ok_iff.mp done'
  obtain ⟨_, wide', done'⟩ := bind_eq_ok_iff.mp done'
  obtain ⟨_, high', done'⟩ := bind_eq_ok_iff.mp done'
  rw [← pure_eq_ok_iff.mp done, ← pure_eq_ok_iff.mp done']
  exact ⟨side_mono representable positive.1 longer.1 small.1 across across' wide wide',
    side_mono representable positive.2 longer.2 small.2 down down' high high'⟩

theorem target_percent {p : Binary64} (representable : Representable units)
    (portion : p / 100 = ofUnits false units) (source : Dimensions) :
    (percent p).target source 0 = scaledBy (ofUnits false units) source := by
  have unreduced : (0 : ℤ) = ((0 : ℕ) : ℤ) := rfl
  rw [target, unreduced, Reduction.scale_eq (Nat.zero_le 52), ok_bind, portion,
    Reduction.quotient_scale (Nat.zero_le _) representable, ok_bind, Nat.pow_zero, Nat.mul_one]

theorem portion_of_reduction {p : Binary64} (stated : ¬ p ≤ 0) {area : Dimensions} {bound : ℤ}
    (known : bound ≤ Reduction.limit) {reduction : ℕ}
    (planned : (percent p).reduction area bound = .ok reduction) (reduces : 0 < reduction) :
    ∃ units scale, Representable units ∧ p / 100 = ofUnits false units ∧
      Rounds scale (ofUnits false units) ∧ 0 ≤ scale ∧ scale * 2 ^ reduction ≤ 1 := by
  have few : reduction ≤ 1074 := (few_of_reduction known planned).trans (by decide)
  obtain ⟨scale, linear, below⟩ := linearScale?_le_of_reduction known planned reduces
  obtain rfl := Option.some.inj (Except.ok.inj linear)
  have hundred : 0 < 100 * unitsPerOne := Nat.mul_pos (by decide) unitsPerOne_pos
  have parts := portion_of_pos stated hundred
  rw [← ofNat_of_lt (by decide)] at parts
  rcases parts with portion | ⟨units, representable, portion⟩
  · -- what is not a number is below no threshold
    rw [portion] at below
    cases below
  · rw [portion] at below
    have small := le_of_ofUnits_le below
    have finite := ofUnits_finite (small.trans_lt (two_pow_lt_overflow (by omega))) false
    have exact := (toRat_mul_two_pow_le_iff units 1 few).mpr (by rwa [Nat.one_mul])
    rw [Nat.cast_one] at exact
    refine ⟨units, _, representable, portion, ?_, units_nonneg units, exact⟩
    rw [finite]
    exact rounds_toRat rfl ⟨false, units, representable, rfl⟩

theorem target_percent_unreduced {p : Binary64} (stated : ¬ p ≤ 0) {delivered : Dimensions}
    (positive : delivered.IsPositive) {reduction : ℕ} (few : reduction ≤ 52)
    (small : (delivered.unreduced reduction).SidesBelow (2 ^ 53)) :
    (percent p).target delivered reduction =
      (percent p).target (delivered.unreduced reduction) 0 := by
  obtain ⟨width, height, wide, high, rfl⟩ := Dimensions.exists_nat positive
  rw [Dimensions.unreduced_nat] at small ⊢
  have narrow : ((2 ^ reduction * width : ℕ) : ℤ) < 2 ^ 53 := small.1
  have low : ((2 ^ reduction * height : ℕ) : ℤ) < 2 ^ 53 := small.2
  have asked : (percent p).IsPositive := stated
  exact target_enlarged (by rintro ⟨⟩) asked trivial few wide (by omega) high (by omega)

theorem percent_delivered {p : Binary64} (stated : ¬ p ≤ 0) {area delivered : Dimensions}
    (positive : area.IsPositive) (small : area.SidesBelow (2 ^ 31)) {bound : ℤ}
    (known : bound ≤ Reduction.limit) {reduction : ℕ}
    (planned : (percent p).reduction area bound = .ok reduction) (reduces : 0 < reduction)
    (reduced : delivered.IsReduced area reduction) :
    ∃ exact target, (percent p).target area 0 = .ok exact ∧
      (percent p).target delivered reduction = .ok target ∧ exact.FitsIn target ∧
      target.FitsIn ⟨exact.width + 1, exact.height + 1⟩ := by
  obtain ⟨units, scale, representable, portion, rounds, least, shrinks⟩ :=
    portion_of_reduction stated known planned reduces
  have few := le_five_of_reduction known planned
  have delivers := reduced.isPositive positive
  have full := reduced.unreduced_isPositive positive
  obtain ⟨narrow, low⟩ := reduced.unreduced_sidesBelow few small
  have part : (0 : ℚ) < 1 / 2 ^ reduction := by positivity
  have columns := length_le least shrinks positive.1 small.1
  have rows := length_le least shrinks positive.2 small.2
  -- the excess over the area comes to less than one pixel
  have grows : ∀ {side delivered : ℤ}, 0 < delivered →
      2 ^ reduction * delivered < side + 2 ^ reduction →
      scale * (2 ^ reduction * delivered : ℤ) ≤ scale * side + (1 - 1 / 2 ^ reduction) := by
    intro side delivered some tight
    have length := length_grows least shrinks le_rfl some tight
    push_cast
    rwa [← mul_assoc]
  have wide := grows delivers.1 reduced.width_lt
  have high := grows delivers.2 reduced.height_lt
  obtain ⟨exact, scaled, comes, comes'⟩ := scaledBy_comesTo rounds least positive
    ⟨small.1.trans (by decide), small.2.trans (by decide)⟩ (by linarith) (by linarith)
  obtain ⟨target, scaled', moved, moved'⟩ := scaledBy_comesTo rounds least full ⟨narrow, low⟩
    (wide.trans (by linarith)) (high.trans (by linarith))
  have inside : (delivered.unreduced reduction).SidesBelow (2 ^ 53) :=
    ⟨narrow.trans (by decide), low.trans (by decide)⟩
  rw [target_percent_unreduced stated delivers (by omega) inside, target_percent representable portion,
    target_percent representable portion]
  exact ⟨exact, target, scaled, scaled',
    scaledBy_mono representable positive reduced.covers inside scaled scaled',
    pixels_le_add_one few comes moved wide, pixels_le_add_one few comes' moved' high⟩

end Scaling

/-- Whatever is delivered of an area that a percentage reduces, the target has as many pixels each way as
that of the area, or exactly one more. -/
theorem Size.percent_of_delivered (size : Size) {p : Binary64} (asks : size.scaling = .percent p)
    {area : Dimensions} (positive : area.IsPositive) (small : area.SidesBelow (2 ^ 31)) {bound : ℤ}
    (known : bound ≤ Reduction.limit) :
    ∃ reduction, size.scaling.reduction area bound = .ok reduction ∧
      (0 < reduction → ∀ delivered : Dimensions, delivered.IsReduced area reduction →
        ∃ exact target, size.scaling.target area 0 = .ok exact ∧
          size.scaling.target delivered reduction = .ok target ∧
          (target.width = exact.width ∨ target.width = exact.width + 1) ∧
          (target.height = exact.height ∨ target.height = exact.height + 1)) := by
  have stated : (Scaling.percent p).IsPositive := asks ▸ size.isPositive
  have planned : (Scaling.percent p).reduction area bound =
      .ok (Reduction.forScale (p / 100) bound) := rfl
  rw [asks]
  refine ⟨_, planned, fun reduces delivered reduced => ?_⟩
  obtain ⟨exact, target, scaled, scaled', more, few⟩ :=
    Scaling.percent_delivered stated positive small known planned reduces reduced
  refine ⟨exact, target, scaled, scaled', ?_, ?_⟩
  · have least : exact.width ≤ target.width := more.1
    have most : target.width ≤ exact.width + 1 := few.1
    omega
  · have least : exact.height ≤ target.height := more.2
    have most : target.height ≤ exact.height + 1 := few.2
    omega

/-- Half of 3 by 5 pixels are two ties, both rounded to 2. Of the 2 by 3 that are delivered all are kept. -/
theorem Size.percent_of_delivered_half :
    ∃ (size : Size) (exact target : Dimensions), size.scaling = .percent 50 ∧
      size.scaling.reduction ⟨3, 5⟩ Reduction.limit = .ok 1 ∧ Dimensions.IsReduced ⟨2, 3⟩ ⟨3, 5⟩ 1 ∧
      size.scaling.target ⟨3, 5⟩ 0 = .ok exact ∧ size.scaling.target ⟨2, 3⟩ 1 = .ok target ∧
      exact = ⟨2, 2⟩ ∧ target = ⟨2, 3⟩ ∧ (target.width = exact.width ∨ target.width = exact.width + 1) ∧
      (target.height = exact.height ∨ target.height = exact.height + 1) := by
  let size : Size := ⟨⟨.percent, none, none, some 50⟩, .percent 50, by decide +kernel⟩
  have runs : size.scaling.reduction ⟨3, 5⟩ Reduction.limit = .ok 1 ∧
      size.scaling.target ⟨3, 5⟩ 0 = .ok ⟨2, 2⟩ ∧ size.scaling.target ⟨2, 3⟩ 1 = .ok ⟨2, 3⟩ := by
    decide +kernel
  have reduced : Dimensions.IsReduced ⟨2, 3⟩ ⟨3, 5⟩ 1 :=
    ⟨⟨by decide, by decide⟩, by decide, by decide⟩
  have positive : Dimensions.IsPositive ⟨3, 5⟩ := ⟨by decide, by decide⟩
  obtain ⟨planned, whole, half⟩ := runs
  obtain ⟨reduction, found, keeps⟩ :=
    size.percent_of_delivered rfl positive ⟨by decide, by decide⟩ (le_refl Reduction.limit)
  obtain rfl : reduction = 1 := Except.ok.inj (found.symm.trans planned)
  obtain ⟨exact, target, scaled, scaled', across, down⟩ := keeps Nat.one_pos _ reduced
  exact ⟨size, exact, target, rfl, planned, reduced, scaled, scaled',
    Except.ok.inj (scaled.symm.trans whole), Except.ok.inj (scaled'.symm.trans half), across, down⟩

end Jp2Render
