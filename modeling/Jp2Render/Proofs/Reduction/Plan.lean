import Jp2Render.Proofs.Escapes.Plan
import Jp2Render.Proofs.Reduction.Halving

/-!
Reductions that are planned. A plan halves a threshold as long as the requested scale lies below it,
so the reduction that it comes to keeps at least the requested size. The raster that the decoder
delivers is then never scaled up again, in either direction and whatever the rounding.
-/

namespace Jp2Render

open Binary64 Arithmetic

theorem Binary64.le_of_ofUnits_le {units threshold : Nat}
    (below : ofUnits false units ≤ .finite false threshold) : units ≤ threshold := by
  by_cases inside : units < overflowUnits
  · rw [ofUnits_finite inside] at below
    exact finite_le_finite.mp below
  · rw [ofUnits, if_neg inside] at below
    cases below

theorem Binary64.le_of_leastOf_le {x y threshold : Binary64} (below : leastOf x y ≤ threshold) :
    x ≤ threshold ∨ y ≤ threshold := by
  unfold leastOf at below
  by_cases less : y < x
  · rw [if_pos less] at below
    exact .inr below
  · rw [if_neg less] at below
    exact .inl below

theorem Binary64.cases_of_pos {x : Binary64} (some : ¬ x ≤ 0) :
    x = .nan ∨ x = .infinite false ∨ ∃ units, x = .finite false units := by
  rw [zero_eq] at some
  cases x with
  | nan => exact .inl rfl
  | infinite negative =>
      cases negative with
      | true => exact absurd rfl some
      | false => exact .inr (.inl rfl)
  | finite negative units =>
      cases negative with
      | true =>
          have below : (-(units : Int)) ≤ 0 := by omega
          exact absurd (decide_eq_true below) some
      | false => exact .inr (.inr ⟨units, rfl⟩)

theorem Binary64.portion_of_pos {x : Binary64} (some : ¬ x ≤ 0) {b : Nat} (positive : 0 < b) :
    x / .finite false b = .nan ∨
      ∃ units, Representable units ∧ x / .finite false b = ofUnits false units := by
  rcases cases_of_pos some with rfl | rfl | ⟨units, rfl⟩
  · exact .inl (nan_div _)
  · refine .inr ⟨overflowUnits, representable_overflowUnits, ?_⟩
    rw [ofUnits_infinite (Nat.le_refl _)]
    rfl
  · refine .inr ⟨roundUnits (units * unitsPerOne) b, representable_roundUnits _ positive, ?_⟩
    rw [finite_div_finite false false units positive, bne_self_eq_false]

/-- A quotient that rounds to the scale of a reduction or below it was not above it before: the sides
are too small for a difference that rounding could hide. -/
theorem Scaling.mul_le_of_ratio_le {target side reduction : Nat} (some : 0 < target)
    (positive : 0 < side) (small : side < 2 ^ 53) (few : reduction ≤ 1074)
    (below : roundUnits (target * unitsPerOne) side ≤ 2 ^ (1074 - reduction)) :
    2 ^ reduction * target ≤ side := by
  have near := roundUnits_near positive (ratio_normal some small)
  have scaled : 2 ^ (1074 - reduction) * (2 ^ 53 * (2 ^ reduction * target)) ≤
      2 ^ (1074 - reduction) * ((2 ^ 53 + 1) * side) := by
    calc 2 ^ (1074 - reduction) * (2 ^ 53 * (2 ^ reduction * target))
        = 2 ^ 53 * (target * (2 ^ (1074 - reduction) * 2 ^ reduction)) := by ring
      _ = 2 ^ 53 * (target * unitsPerOne) := by rw [← unitsPerOne_split few]
      _ ≤ (2 ^ 53 + 1) * (roundUnits (target * unitsPerOne) side * side) := near
      _ ≤ (2 ^ 53 + 1) * (2 ^ (1074 - reduction) * side) :=
        Nat.mul_le_mul_left _ (Nat.mul_le_mul_right _ below)
      _ = _ := by ring
  have exact := Nat.le_of_mul_le_mul_left scaled (Nat.two_pow_pos _)
  generalize 2 ^ reduction * target = enlarged at exact ⊢
  -- one more pixel would be more than one part in 2⁵³ of the side
  omega

namespace Dimensions

def FitsIn (d bounds : Dimensions) : Prop := d.width ≤ bounds.width ∧ d.height ≤ bounds.height

end Dimensions

namespace Scaling

theorem ratio_sides {wanted side : Nat} (small : wanted < 2 ^ 53) (positive : 0 < side) :
    ratio wanted side = .ok (.finite false (roundUnits (wanted * unitsPerOne) side)) :=
  ratio_of_le positive small (Nat.le_mul_of_pos_right wanted positive)

theorem wholeLength_of_le {units length : Nat} (positive : 0 < length)
    (within : units ≤ length * unitsPerOne) :
    ∃ whole : Int, wholeLength (.finite false units) = .ok whole ∧ whole ≤ length := by
  have rounded := roundQuotient_le unitsPerOne_pos within
  refine ⟨max 1 (roundQuotient units unitsPerOne : Nat), ?_, by omega⟩
  rw [wholeLength, nearest_finite]
  rfl

theorem scaledBy_of_le {units width height : Nat} (representable : Representable units)
    (shrinks : units ≤ unitsPerOne) (wide : 0 < width) (narrow : width < 2 ^ 53)
    (high : 0 < height) (low : height < 2 ^ 53) :
    ∃ target, scaledBy (ofUnits false units) ⟨width, height⟩ = .ok target ∧
      target.FitsIn ⟨width, height⟩ := by
  have times : ∀ side : Nat, 0 < side → side < 2 ^ 53 →
      ∃ product, timesInteger (ofUnits false units) side = .ok (.finite false product) ∧
        product ≤ side * unitsPerOne := by
    intro side positive small
    have within : roundUnits (units * side) 1 ≤ side * unitsPerOne := by
      apply roundUnits_le (representable_integer small) Nat.one_pos
      rw [Nat.mul_one, Nat.mul_comm]
      exact Nat.mul_le_mul_left side shrinks
    refine ⟨roundUnits (units * side) 1, ?_, within⟩
    rw [timesInteger_ofUnits representable positive small,
      ofUnits_finite (within.trans_lt (integer_lt_overflow small))]
  obtain ⟨across, product, within⟩ := times width wide narrow
  obtain ⟨down, product', within'⟩ := times height high low
  obtain ⟨width', whole, fits⟩ := wholeLength_of_le wide within
  obtain ⟨height', whole', fits'⟩ := wholeLength_of_le high within'
  refine ⟨⟨width', height'⟩, ?_, fits, fits'⟩
  rw [scaledBy, product, ok_bind, product', ok_bind, whole, ok_bind, whole', ok_bind]
  rfl

theorem proportional_of_le {wanted side other : Nat} (shrinks : wanted ≤ side)
    (positive : 0 < side) (some : 0 < other) (small : other < 2 ^ 53) :
    ∃ scaled whole, ratio (other * wanted) side = .ok scaled ∧ wholeLength scaled = .ok whole ∧
      whole ≤ other := by
  -- the other side follows in proportion, so it is enlarged only if this one is
  have within : other * wanted ≤ other * side := Nat.mul_le_mul_left _ shrinks
  obtain ⟨whole, rounded, fits⟩ :=
    wholeLength_of_le some (ratio_units_le positive small within)
  refine ⟨_, whole, ?_, rounded, fits⟩
  rw [← Int.natCast_mul, ratio_of_le positive small within]

theorem fitWidth_fitsIn {wanted width height : Nat} (stated : 0 < wanted) (shrinks : wanted ≤ width)
    (high : 0 < height) (low : height < 2 ^ 53) (reduction : Int) :
    ∃ target, (fitWidth wanted).target ⟨width, height⟩ reduction = .ok target ∧
      target.FitsIn ⟨width, height⟩ := by
  obtain ⟨scaled, whole, followed, rounded, fits⟩ :=
    proportional_of_le shrinks (stated.trans_le shrinks) high low
  refine ⟨⟨max 1 wanted, whole⟩, ?_, ?_, fits⟩
  · rw [target, followed, ok_bind, rounded]
    rfl
  · show max 1 (wanted : Int) ≤ width
    omega

theorem fitHeight_fitsIn {wanted width height : Nat} (stated : 0 < wanted)
    (shrinks : wanted ≤ height) (wide : 0 < width) (narrow : width < 2 ^ 53) (reduction : Int) :
    ∃ target, (fitHeight wanted).target ⟨width, height⟩ reduction = .ok target ∧
      target.FitsIn ⟨width, height⟩ := by
  obtain ⟨scaled, whole, followed, rounded, fits⟩ :=
    proportional_of_le shrinks (stated.trans_le shrinks) wide narrow
  refine ⟨⟨whole, max 1 wanted⟩, ?_, fits, ?_⟩
  · rw [target, followed, ok_bind, rounded]
    rfl
  · show max 1 (wanted : Int) ≤ height
    omega

theorem fitInside_fitsIn {across down width height : Nat} (shrinks : across ≤ width ∨ down ≤ height)
    (small : across < 2 ^ 53) (small' : down < 2 ^ 53) (wide : 0 < width) (narrow : width < 2 ^ 53)
    (high : 0 < height) (low : height < 2 ^ 53) (reduction : Int) :
    ∃ target, (fitInside across down).target ⟨width, height⟩ reduction = .ok target ∧
      target.FitsIn ⟨width, height⟩ := by
  have least : min (roundUnits (across * unitsPerOne) width)
      (roundUnits (down * unitsPerOne) height) ≤ unitsPerOne := by
    have one : ∀ wanted side : Nat, 0 < side → wanted ≤ side →
        roundUnits (wanted * unitsPerOne) side ≤ unitsPerOne := by
      intro wanted side positive shrinks
      have within := ratio_units_le positive (by decide : 1 < 2 ^ 53)
        (shrinks.trans (Nat.one_mul side).ge)
      rwa [Nat.one_mul] at within
    rcases shrinks with shrinks | shrinks
    · exact (Nat.min_le_left _ _).trans (one across width wide shrinks)
    · exact (Nat.min_le_right _ _).trans (one down height high shrinks)
  have representable := (representable_roundUnits (across * unitsPerOne) wide).min
    (representable_roundUnits (down * unitsPerOne) high)
  rw [target, ratio_sides small wide, ok_bind, ratio_sides small' high, ok_bind, leastOf_finite,
    ← ofUnits_finite (least.trans_lt unitsPerOne_lt_overflow)]
  exact scaledBy_of_le representable least wide narrow high low

theorem percent_fitsIn {p : Binary64} (stated : ¬ p ≤ 0) {reduction width height : Nat}
    (few : reduction ≤ 52) (shrinks : p / 100 ≤ .finite false (2 ^ (1074 - reduction)))
    (wide : 0 < width) (narrow : width < 2 ^ 53) (high : 0 < height) (low : height < 2 ^ 53) :
    ∃ target, (percent p).target ⟨width, height⟩ reduction = .ok target ∧
      target.FitsIn ⟨width, height⟩ := by
  have hundred : 0 < 100 * unitsPerOne := Nat.mul_pos (by decide) unitsPerOne_pos
  rw [target, Reduction.scale_eq few, ok_bind]
  rw [ofNat_of_lt (by decide)] at shrinks ⊢
  rcases portion_of_pos stated hundred with portion | ⟨units, representable, portion⟩
  · rw [portion] at shrinks
    cases shrinks
  · rw [portion] at shrinks ⊢
    have least : units * 2 ^ reduction ≤ unitsPerOne := by
      rw [unitsPerOne_split (by omega : reduction ≤ 1074)]
      exact Nat.mul_le_mul_right _ (le_of_ofUnits_le shrinks)
    rw [Reduction.quotient_scale (by omega) representable, ok_bind]
    exact scaledBy_of_le (representable.mul_two_pow reduction) least wide narrow high low

def LiesWithin (delivered : Dimensions) (reduction : Nat) : Scaling → Prop
  | .full => False
  | .fitWidth width => width ≤ delivered.width
  | .fitHeight height => height ≤ delivered.height
  | .fitInside width height => width ≤ delivered.width ∨ height ≤ delivered.height
  | .forced _ _ => False
  | .percent p => p / 100 ≤ .finite false (2 ^ (1074 - reduction))

theorem LiesWithin.target_fitsIn {scaling : Scaling} {delivered : Dimensions} {reduction : Nat}
    (within : scaling.LiesWithin delivered reduction) (few : reduction ≤ 52)
    (stated : scaling.IsPositive) (sides : scaling.SidesBelow (2 ^ 53))
    (positive : delivered.IsPositive) (small : delivered.SidesBelow (2 ^ 53)) :
    ∃ target, scaling.target delivered reduction = .ok target ∧ target.FitsIn delivered := by
  obtain ⟨width, height, wide, high, rfl⟩ := Dimensions.exists_nat positive
  obtain ⟨narrow, low⟩ : (width : Int) < 2 ^ 53 ∧ (height : Int) < 2 ^ 53 := small
  cases scaling with
  | full => exact within.elim
  | forced _ _ => exact within.elim
  | fitWidth wanted =>
      obtain ⟨wanted, rfl⟩ := Int.eq_ofNat_of_zero_le (Int.le_of_lt stated)
      exact fitWidth_fitsIn (Int.natCast_pos.mp stated) (Int.ofNat_le.mp within) high (by omega) _
  | fitHeight wanted =>
      obtain ⟨wanted, rfl⟩ := Int.eq_ofNat_of_zero_le (Int.le_of_lt stated)
      exact fitHeight_fitsIn (Int.natCast_pos.mp stated) (Int.ofNat_le.mp within) wide (by omega) _
  | fitInside columns rows =>
      obtain ⟨columns, rfl⟩ := Int.eq_ofNat_of_zero_le (Int.le_of_lt stated.1)
      obtain ⟨rows, rfl⟩ := Int.eq_ofNat_of_zero_le (Int.le_of_lt stated.2)
      obtain ⟨small, small'⟩ : (columns : Int) < 2 ^ 53 ∧ (rows : Int) < 2 ^ 53 := sides
      have shrinks : columns ≤ width ∨ rows ≤ height := within.imp Int.ofNat_le.mp Int.ofNat_le.mp
      exact fitInside_fitsIn shrinks (by omega) (by omega) wide (by omega) high (by omega) _
  | percent p => exact percent_fitsIn stated few within wide (by omega) high (by omega)

theorem le_of_ratio {wanted side delivered reduction : Nat} {scale : Binary64} (stated : 0 < wanted)
    (short : wanted < 2 ^ 53) (positive : 0 < side) (small : side < 2 ^ 53) (few : reduction ≤ 1074)
    (divided : ratio wanted side = .ok scale) (below : scale ≤ .finite false (2 ^ (1074 - reduction)))
    (covers : side ≤ 2 ^ reduction * delivered) : wanted ≤ delivered := by
  rw [ratio_sides short positive] at divided
  rw [← Except.ok.inj divided, finite_le_finite] at below
  have enlarged := mul_le_of_ratio_le stated positive small few below
  exact Nat.le_of_mul_le_mul_left (enlarged.trans covers) (Nat.two_pow_pos reduction)

theorem le_five_of_reduction {scaling : Scaling} {area : Dimensions} {bound : Int} {reduction : Nat}
    (known : bound ≤ Reduction.limit) (planned : scaling.reduction area bound = .ok reduction) :
    reduction ≤ 5 := by
  have within := reduction_le planned
  unfold Reduction.limit at known
  omega

theorem few_of_reduction {scaling : Scaling} {area : Dimensions} {bound : Int} {reduction : Nat}
    (known : bound ≤ Reduction.limit) (planned : scaling.reduction area bound = .ok reduction) :
    reduction ≤ 52 :=
  (le_five_of_reduction known planned).trans (by decide)

theorem linearScale?_le_of_reduction {scaling : Scaling} {area : Dimensions} {bound : Int}
    (known : bound ≤ Reduction.limit) {reduction : Nat}
    (planned : scaling.reduction area bound = .ok reduction) (reduces : 0 < reduction) :
    ∃ scale, scaling.linearScale? area = .ok (some scale) ∧
      scale ≤ .finite false (2 ^ (1074 - reduction)) := by
  obtain ⟨scale, linear, planned⟩ := bind_eq_ok_iff.mp planned
  cases scale with
  | none =>
      have kept := pure_eq_ok_iff.mp planned
      omega
  | some scale =>
      exact ⟨scale, linear, Reduction.le_of_forScale known (pure_eq_ok_iff.mp planned) reduces⟩

theorem liesWithin_of_reduction {scaling : Scaling} (stated : scaling.IsPositive)
    (sides : scaling.SidesBelow (2 ^ 53)) {area : Dimensions} (some : area.IsPositive)
    (bounded : area.SidesBelow (2 ^ 53)) {bound : Int} (known : bound ≤ Reduction.limit)
    {reduction : Nat} (planned : scaling.reduction area bound = .ok reduction)
    (reduces : 0 < reduction) {delivered : Dimensions} (positive : delivered.IsPositive)
    (covers : area.FitsIn (delivered.unreduced reduction)) :
    scaling.LiesWithin delivered reduction := by
  have few : reduction ≤ 1074 := (few_of_reduction known planned).trans (by decide)
  obtain ⟨scale, linear, below⟩ := linearScale?_le_of_reduction known planned reduces
  obtain ⟨across, down, acrossPositive, downPositive, rfl⟩ := Dimensions.exists_nat some
  obtain ⟨width, height, wide, high, rfl⟩ := Dimensions.exists_nat positive
  obtain ⟨acrossSmall, downSmall⟩ : (across : Int) < 2 ^ 53 ∧ (down : Int) < 2 ^ 53 := bounded
  rw [Dimensions.unreduced_nat] at covers
  have coversWidth : across ≤ 2 ^ reduction * width := Int.ofNat_le.mp covers.1
  have coversHeight : down ≤ 2 ^ reduction * height := Int.ofNat_le.mp covers.2
  cases scaling with
  | full => cases linear
  | forced _ _ => cases linear
  | fitWidth wanted =>
      obtain ⟨wanted, rfl⟩ := Int.eq_ofNat_of_zero_le (Int.le_of_lt stated)
      have short : (wanted : Int) < 2 ^ 53 := sides
      obtain ⟨_, divided, linear⟩ := bind_eq_ok_iff.mp linear
      rw [← Option.some.inj (pure_eq_ok_iff.mp linear)] at below
      exact Int.ofNat_le.mpr (le_of_ratio (Int.natCast_pos.mp stated) (by omega) acrossPositive
        (by omega) few divided below coversWidth)
  | fitHeight wanted =>
      obtain ⟨wanted, rfl⟩ := Int.eq_ofNat_of_zero_le (Int.le_of_lt stated)
      have short : (wanted : Int) < 2 ^ 53 := sides
      obtain ⟨_, divided, linear⟩ := bind_eq_ok_iff.mp linear
      rw [← Option.some.inj (pure_eq_ok_iff.mp linear)] at below
      exact Int.ofNat_le.mpr (le_of_ratio (Int.natCast_pos.mp stated) (by omega) downPositive
        (by omega) few divided below coversHeight)
  | fitInside columns rows =>
      obtain ⟨columns, rfl⟩ := Int.eq_ofNat_of_zero_le (Int.le_of_lt stated.1)
      obtain ⟨rows, rfl⟩ := Int.eq_ofNat_of_zero_le (Int.le_of_lt stated.2)
      obtain ⟨short, short'⟩ : (columns : Int) < 2 ^ 53 ∧ (rows : Int) < 2 ^ 53 := sides
      obtain ⟨_, divided, linear⟩ := bind_eq_ok_iff.mp linear
      obtain ⟨_, divided', linear⟩ := bind_eq_ok_iff.mp linear
      rw [← Option.some.inj (pure_eq_ok_iff.mp linear)] at below
      -- the smaller of the two ratios is one of them
      rcases le_of_leastOf_le below with below | below
      · exact .inl (Int.ofNat_le.mpr (le_of_ratio (Int.natCast_pos.mp stated.1) (by omega)
          acrossPositive (by omega) few divided below coversWidth))
      · exact .inr (Int.ofNat_le.mpr (le_of_ratio (Int.natCast_pos.mp stated.2) (by omega)
          downPositive (by omega) few divided' below coversHeight))
  | percent p =>
      rw [← Option.some.inj (Except.ok.inj linear)] at below
      exact below

end Scaling

theorem Region.positive_extent {region : Region} {full area : Dimensions}
    (positive : full.IsPositive) (selects : region.extent full = .ok area) : area.IsPositive := by
  have visible : ∀ {length offset : Binary64} {side whole : Int},
      visibleLength length offset side = .ok whole → 1 ≤ whole := by
    intro length offset side whole done
    obtain ⟨_, -, done⟩ := bind_eq_ok_iff.mp done
    obtain ⟨nearest, -, done⟩ := bind_eq_ok_iff.mp done
    rw [← pure_eq_ok_iff.mp done]
    exact Int.le_max_left 1 nearest
  obtain ⟨rectangle, -, selects⟩ := bind_eq_ok_iff.mp selects
  cases rectangle with
  | none => rwa [← pure_eq_ok_iff.mp selects]
  | some r =>
      obtain ⟨width, wide, selects⟩ := bind_eq_ok_iff.mp selects
      obtain ⟨height, high, selects⟩ := bind_eq_ok_iff.mp selects
      rw [← pure_eq_ok_iff.mp selects]
      exact ⟨visible wide, visible high⟩

namespace Decoder

theorem reductionFor_forced {decoder : Decoder} {request : Request} {full : Dimensions}
    {width height : Int} {reduction : Nat} (forces : request.size.scaling = .forced width height)
    (planned : decoder.reductionFor request full = .ok reduction) : reduction = 0 := by
  have scales : request.size.scaling ≠ .full := by
    rw [forces]
    rintro ⟨⟩
  rw [reductionFor_scaled full scales, forces] at planned
  obtain ⟨area, -, planned⟩ := bind_eq_ok_iff.mp planned
  exact (Except.ok.inj planned).symm

/-- A plan reduces no further than the decoder may, and sizes that a reduction cannot help with not at
all. Where it reduces, whatever the decoder delivers of the region is never scaled up again. -/
theorem plan_never_enlarges {decoder : Decoder} (least : 0 ≤ decoder.reductionBound)
    (known : decoder.reductionBound ≤ Reduction.limit) {workingDirectory : Path}
    {request : Request} (sides : request.size.scaling.SidesBelow (2 ^ 53)) {full : Dimensions}
    (positive : full.IsPositive) {source : Source} {plan : DecodePlan}
    (planned : decoder.plan workingDirectory request full source = .ok plan) :
    (plan.reduction : Int) ≤ decoder.reductionBound ∧
      (request.size.scaling = .full → plan.reduction = 0) ∧
      (∀ width height, request.size.scaling = .forced width height → plan.reduction = 0) ∧
      (0 < plan.reduction → ∃ area, request.region.extent full = .ok area ∧
        (area.SidesBelow (2 ^ 53) → ∀ delivered : Dimensions, delivered.IsPositive →
          delivered.SidesBelow (2 ^ 53) → area.FitsIn (delivered.unreduced plan.reduction) →
          ∃ target, request.size.scaling.target delivered plan.reduction = .ok target ∧
            target.FitsIn delivered)) := by
  obtain ⟨-, reduced, -⟩ := plan_eq_ok_iff.mp planned
  refine ⟨?_, ?_, fun _ _ forces => reductionFor_forced forces reduced, ?_⟩
  · have within := reductionFor_le reduced
    omega
  · intro keeps
    rw [reductionFor_full full keeps] at reduced
    exact (Except.ok.inj reduced).symm
  · intro reduces
    have scales : request.size.scaling ≠ .full := by
      intro keeps
      rw [reductionFor_full full keeps] at reduced
      exact Nat.ne_of_lt reduces (Except.ok.inj reduced)
    rw [reductionFor_scaled full scales] at reduced
    obtain ⟨area, selects, reduced⟩ := bind_eq_ok_iff.mp reduced
    refine ⟨area, selects, ?_⟩
    intro bounded delivered some small covers
    have few := Scaling.few_of_reduction known reduced
    -- the reduction leaves at least what is asked for, so the target lies within the raster
    have within := Scaling.liesWithin_of_reduction request.size.isPositive sides
      (Region.positive_extent positive selects) bounded known reduced reduces some covers
    exact within.target_fitsIn few request.size.isPositive sides some small

/-- A part of 200 by 100 pixels that has to fit inside 50 by 40 is decoded at a quarter of its size. -/
theorem plan_never_enlarges_quarter :
    ∃ (request : Request) (plan : DecodePlan) (target : Dimensions),
      request.region = .pixels ⟨10, 10, 200, 100⟩ ∧ request.size.scaling = .fitInside 50 40 ∧
      ({} : Decoder).plan (.ofText "/data") request ⟨1000, 800⟩ ⟨.ofText "a.jp2", .jp2⟩ = .ok plan ∧
      plan.reduction = 2 ∧ request.region.extent ⟨1000, 800⟩ = .ok ⟨200, 100⟩ ∧
      request.size.scaling.target ⟨50, 25⟩ plan.reduction = .ok target ∧ target.FitsIn ⟨50, 25⟩ := by
  let size : Size := ⟨⟨.fitInside, some 50, some 40, none⟩, .fitInside 50 40, by decide +kernel⟩
  let request : Request := { format := .png, region := .pixels ⟨10, 10, 200, 100⟩, size }
  have runs : ((({} : Decoder).plan (.ofText "/data") request ⟨1000, 800⟩
      ⟨.ofText "a.jp2", .jp2⟩).toOption.map (·.reduction)) = some 2 := by decide +kernel
  have selects : request.region.extent ⟨1000, 800⟩ = .ok ⟨200, 100⟩ := by decide +kernel
  cases planned : ({} : Decoder).plan (.ofText "/data") request ⟨1000, 800⟩ ⟨.ofText "a.jp2", .jp2⟩ with
  | error failure =>
      rw [planned] at runs
      cases runs
  | ok plan =>
      rw [planned] at runs
      have quarter : plan.reduction = 2 := Option.some.inj runs
      have sides : request.size.scaling.SidesBelow (2 ^ 53) := ⟨by decide, by decide⟩
      obtain ⟨-, -, -, promised⟩ := plan_never_enlarges (by decide) (by decide) sides
        ⟨by decide, by decide⟩ planned
      obtain ⟨area, same, fits⟩ := promised (by omega)
      obtain rfl : area = ⟨200, 100⟩ := Except.ok.inj (same.symm.trans selects)
      have covers : Dimensions.FitsIn ⟨200, 100⟩ (Dimensions.unreduced ⟨50, 25⟩ plan.reduction) := by
        rw [quarter]
        exact ⟨by decide, by decide⟩
      obtain ⟨target, scaled, within⟩ := fits ⟨by decide, by decide⟩ ⟨50, 25⟩
        ⟨by decide, by decide⟩ ⟨by decide, by decide⟩ covers
      exact ⟨request, plan, target, rfl, rfl, planned, quarter, selects, scaled, within⟩

end Decoder

end Jp2Render
