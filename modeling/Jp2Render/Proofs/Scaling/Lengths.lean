import Jp2Render.Proofs.Binary64.Values
import Jp2Render.Proofs.Escapes.Target
import Jp2Render.Proofs.Reduction.Plan

/-!
Lengths in whole pixels. In exact numbers a picture that is fitted to a width, to a height or inside a box
has one scale for both of its sides. The arithmetic rounds the scale, the products with it, and these at
last to whole pixels; for sides up to 2³¹ all but the last is next to nothing. So a target differs from the
exact lengths by half a pixel and next to nothing more, and a picture inside a box touches the box without
leaving it.
-/

namespace Jp2Render

open Binary64 Arithmetic

def lengthSlack : ℚ := 1 / 2 ^ 20

def ComesTo (length : ℚ) (pixels : ℤ) : Prop :=
  ∃ value whole, |value - length| ≤ lengthSlack ∧ IsNearest value whole ∧ pixels = max 1 whole

namespace ComesTo

variable {length length' : ℚ} {pixels pixels' side : ℤ}

theorem of_int (side : ℤ) : ComesTo side (max 1 side) := by
  refine ⟨side, side, ?_, .of_int side, rfl⟩
  rw [sub_self, abs_zero, lengthSlack]
  norm_num

theorem one_le (comes : ComesTo length pixels) : 1 ≤ pixels := by
  obtain ⟨_, whole, -, -, rfl⟩ := comes
  exact le_max_left 1 whole

theorem length_le (comes : ComesTo length pixels) : length ≤ pixels + 1 / 2 + lengthSlack := by
  obtain ⟨value, whole, near, ⟨nearest, -⟩, rfl⟩ := comes
  have most : (whole : ℚ) ≤ (max 1 whole : ℤ) := by exact_mod_cast le_max_right 1 whole
  have moved := abs_le.mp near
  have rounded := abs_le.mp nearest
  linarith

theorem eq_one_or_le (comes : ComesTo length pixels) :
    pixels = 1 ∨ (pixels : ℚ) ≤ length + 1 / 2 + lengthSlack := by
  obtain ⟨value, whole, near, ⟨nearest, -⟩, rfl⟩ := comes
  rcases le_total whole 1 with short | long
  · exact .inl (max_eq_left short)
  · -- above one pixel nothing is made up for, so only the roundings count
    have moved := abs_le.mp near
    have rounded := abs_le.mp nearest
    rw [max_eq_right long]
    exact .inr (by linarith)

theorem le_of_le (comes : ComesTo length pixels) (some : 1 ≤ side) (within : length ≤ side) :
    pixels ≤ side := by
  rcases comes.eq_one_or_le with rfl | near
  · exact some
  · have below : (pixels : ℚ) < side + 1 := by
      norm_num [lengthSlack] at near
      linarith
    exact Int.lt_add_one_iff.mp (by exact_mod_cast below)

theorem le_of_ge (comes : ComesTo length pixels) (reaches : (side : ℚ) ≤ length) : side ≤ pixels := by
  have near := comes.length_le
  have above : (side : ℚ) < pixels + 1 := by
    norm_num [lengthSlack] at near
    linarith
  exact Int.lt_add_one_iff.mp (by exact_mod_cast above)

theorem eq_of_int (comes : ComesTo side pixels) (some : 1 ≤ side) : pixels = side :=
  le_antisymm (comes.le_of_le some le_rfl) (comes.le_of_ge le_rfl)

theorem le_add (comes : ComesTo length pixels) (comes' : ComesTo length' pixels')
    {more : ℚ} (nonneg : 0 ≤ more) (grows : length' ≤ length + more) :
    (pixels' : ℚ) ≤ pixels + 1 + more + 2 * lengthSlack := by
  have low := comes.length_le
  rcases comes'.eq_one_or_le with rfl | high
  · have least : (1 : ℚ) ≤ pixels := by exact_mod_cast comes.one_le
    have slack : (0 : ℚ) ≤ lengthSlack := by norm_num [lengthSlack]
    push_cast
    linarith
  · linarith

end ComesTo

namespace Arithmetic

theorem ratio_rounds (num : ℕ) {den : ℕ} (positive : 0 < den) (bounded : (num / den : ℚ) ≤ rangeBound) :
    ∃ x, ratio num den = .ok x ∧ Rounds (num / den) x := by
  have rounds := rounds_ofRatio num positive bounded
  have some : ¬ (den : ℤ) = 0 := by omega
  have finite := rounds.finite
  rw [← ofIntRatio_natCast] at rounds finite
  exact ⟨_, by rw [ratio, if_neg some]; exact if_pos finite, rounds⟩

theorem timesInteger_near {scale : Binary64} {value : ℚ} (rounds : Rounds value scale)
    (least : 0 ≤ value) {side : ℤ} (positive : 1 ≤ side) (small : side < 2 ^ 32)
    (bounded : value * side ≤ 2 ^ 31) :
    ∃ product, timesInteger scale side = .ok product ∧ product.isFinite = true ∧
      |product.toRat - value * side| ≤ lengthSlack := by
  obtain ⟨real, known, finite, exact⟩ := toReal_exact (by omega) (by omega : side < 2 ^ 53)
  have short : (side : ℚ) < 2 ^ 32 := by exact_mod_cast small
  have above : (0 : ℚ) ≤ side := by exact_mod_cast (by omega : 0 ≤ side)
  have near := rounds.near_of_le (abs_of_nonneg least).le
  -- two roundings: that of the scale, carried through the product, and that of the product
  have carried : |scale.toRat * side - value * side| ≤ 1 / 2 ^ 22 + 1 / 2 ^ 29 := by
    rw [← sub_mul, abs_mul, abs_of_nonneg above]
    calc _ ≤ (value / 2 ^ 53 + 1 / 2 ^ 61) * side := mul_le_mul_of_nonneg_right near above
      _ = value * side / 2 ^ 53 + side / 2 ^ 61 := by ring
      _ ≤ 2 ^ 31 / 2 ^ 53 + 2 ^ 32 / 2 ^ 61 := by gcongr
      _ = _ := by norm_num
  have within : |scale.toRat * real.toRat| ≤ 2 ^ 31 + 1 := by
    have exact' : |value * side| = value * side := abs_of_nonneg (mul_nonneg least above)
    have both := abs_sub_abs_le_abs_sub (scale.toRat * side) (value * side)
    rw [exact]
    norm_num at carried
    linarith
  have product := rounds_mul rounds.finite finite (within.trans (by norm_num [rangeBound]))
  have moved := product.near_of_le within
  rw [exact] at moved
  refine ⟨scale * real, by rw [timesInteger, known]; rfl, product.finite, ?_⟩
  have both := abs_sub_le (scale * real).toRat (scale.toRat * side) (value * side)
  norm_num [lengthSlack] at carried moved ⊢
  linarith

end Arithmetic

namespace Scaling

theorem wholeLength_comesTo {x : Binary64} (finite : x.isFinite = true) {length : ℚ}
    (near : |x.toRat - length| ≤ lengthSlack) :
    ∃ pixels, wholeLength x = .ok pixels ∧ ComesTo length pixels := by
  obtain ⟨whole, rounded⟩ := (nearest_eq_ok_iff x).mpr finite
  refine ⟨max 1 whole, ?_, x.toRat, whole, near, isNearest_nearest rounded, rfl⟩
  rw [wholeLength, rounded]
  rfl

theorem scaledBy_comesTo {scale : Binary64} {value : ℚ} (rounds : Rounds value scale)
    (least : 0 ≤ value) {source : Dimensions} (positive : source.IsPositive)
    (small : source.SidesBelow (2 ^ 32)) (wide : value * source.width ≤ 2 ^ 31)
    (high : value * source.height ≤ 2 ^ 31) :
    ∃ target, scaledBy scale source = .ok target ∧
      ComesTo (value * source.width) target.width ∧ ComesTo (value * source.height) target.height := by
  obtain ⟨across, product, finite, near⟩ :=
    timesInteger_near rounds least positive.1 small.1 wide
  obtain ⟨down, product', finite', near'⟩ :=
    timesInteger_near rounds least positive.2 small.2 high
  obtain ⟨columns, whole, comes⟩ := wholeLength_comesTo finite near
  obtain ⟨rows, whole', comes'⟩ := wholeLength_comesTo finite' near'
  refine ⟨⟨columns, rows⟩, ?_, comes, comes'⟩
  rw [scaledBy, product, ok_bind, product', ok_bind, whole, ok_bind, whole']
  rfl

theorem wholeLength_ratio_comesTo (num : ℕ) {den : ℕ} (positive : 0 < den)
    (bounded : (num / den : ℚ) ≤ 2 ^ 31) :
    ∃ x pixels, ratio num den = .ok x ∧ wholeLength x = .ok pixels ∧ ComesTo (num / den) pixels := by
  obtain ⟨x, divided, rounds⟩ :=
    ratio_rounds num positive (bounded.trans (by norm_num [rangeBound]))
  have near := rounds.near_of_le ((abs_of_nonneg (by positivity)).trans_le bounded)
  have slack : |x.toRat - num / den| ≤ lengthSlack := by
    norm_num [lengthSlack] at near ⊢
    linarith
  obtain ⟨pixels, whole, comes⟩ := wholeLength_comesTo rounds.finite slack
  exact ⟨x, pixels, divided, whole, comes⟩

theorem ratio_eq_ofRatio {num den : ℕ} {x : Binary64} (divided : ratio num den = .ok x) :
    roundUnits (num * unitsPerOne) den < overflowUnits ∧ x = ofRatio false num den := by
  have finite := finite_ratio divided
  rw [ratio_ok divided, ofIntRatio_natCast, ofRatio, isFinite_ofUnits] at finite
  exact ⟨finite, (ratio_ok divided).trans (ofIntRatio_natCast num den)⟩

theorem rounds_leastOf {across width down height : ℕ} (wide : 0 < width) (high : 0 < height)
    {horizontal vertical : Binary64} (divided : ratio across width = .ok horizontal)
    (divided' : ratio down height = .ok vertical)
    (bounded : min (across / width : ℚ) (down / height) ≤ rangeBound) :
    Rounds (min (across / width : ℚ) (down / height)) (leastOf horizontal vertical) := by
  obtain ⟨inside, rfl⟩ := ratio_eq_ofRatio divided
  obtain ⟨inside', rfl⟩ := ratio_eq_ofRatio divided'
  have least : leastOf (ofRatio false across width) (ofRatio false down height) = .finite false
      (min (roundUnits (across * unitsPerOne) width) (roundUnits (down * unitsPerOne) height)) := by
    rw [ofRatio, ofRatio, ofUnits_finite inside, ofUnits_finite inside', leastOf_finite]
  -- rounding keeps the order of the ratios, which does not follow from being near to them
  have order : ∀ {num den num' den' : ℕ}, 0 < den → 0 < den' → num * den' ≤ num' * den →
      (num / den : ℚ) ≤ num' / den' ∧
        roundUnits (num * unitsPerOne) den ≤ roundUnits (num' * unitsPerOne) den' := by
    intro num den num' den' positive positive' le
    refine ⟨?_, roundUnits_mono positive positive' ?_⟩
    · rw [div_le_div_iff₀ (Nat.cast_pos.mpr positive) (Nat.cast_pos.mpr positive')]
      exact_mod_cast le
    · rw [Nat.mul_right_comm, Nat.mul_right_comm num']
      exact Nat.mul_le_mul_right _ le
  rcases Nat.le_total (across * height) (down * width) with narrow | flat
  · obtain ⟨exact, rounded⟩ := order wide high narrow
    rw [min_eq_left exact] at bounded ⊢
    rw [least, min_eq_left rounded, ← ofUnits_finite inside]
    exact rounds_ofRatio across wide bounded
  · obtain ⟨exact, rounded⟩ := order high wide flat
    rw [min_eq_right exact] at bounded ⊢
    rw [least, min_eq_right rounded, ← ofUnits_finite inside']
    exact rounds_ofRatio down high bounded

/-- The sides that are asked for have ratios to those of the source. Only a box may have a side without
one: where it is far too long to matter for the picture inside, its ratio is taken all the same. -/
def HasRatios (source : Dimensions) : Scaling → Prop
  | .fitInside width height => ¬ HasNoRatio width source.width ∧ ¬ HasNoRatio height source.height
  | _ => True

/-- The scale, in exact numbers, of a picture that keeps its proportions and is fitted to a width, to a
height or inside a box. Other scalings have none. -/
def exactScale? (source : Dimensions) : Scaling → Option ℚ
  | .fitWidth width => some (width / source.width)
  | .fitHeight height => some (height / source.height)
  | .fitInside width height => some (min (width / source.width) (height / source.height))
  | _ => none

theorem fitInside_comesTo {across down : ℕ} {source : Dimensions} (positive : source.IsPositive)
    (small : source.SidesBelow (2 ^ 32)) (ratios : (fitInside across down).HasRatios source)
    {scale : ℚ} (exact : min (across / source.width : ℚ) (down / source.height) = scale)
    (wide : scale * source.width ≤ 2 ^ 31) (high : scale * source.height ≤ 2 ^ 31) (reduction : ℤ) :
    ∃ target, (fitInside across down).target source reduction = .ok target ∧
      ComesTo (scale * source.width) target.width ∧ ComesTo (scale * source.height) target.height := by
  obtain ⟨horizontal, divided⟩ := exists_ok_of_not_fails (mt fails_ratio.mp ratios.1)
  obtain ⟨vertical, divided'⟩ := exists_ok_of_not_fails (mt fails_ratio.mp ratios.2)
  have whole : (1 : ℚ) ≤ source.width := by exact_mod_cast positive.1
  have rows : (1 : ℚ) ≤ source.height := by exact_mod_cast positive.2
  have least : 0 ≤ scale := by
    rw [← exact]
    positivity
  have rounds : Rounds scale (leastOf horizontal vertical) := by
    have bounded := (le_mul_of_one_le_right least whole).trans wide
    obtain ⟨columns, rows, some, some', rfl⟩ := Dimensions.exists_nat positive
    rw [← exact] at bounded ⊢
    exact rounds_leastOf some some' divided divided' (bounded.trans (by norm_num [rangeBound]))
  rw [target, divided, ok_bind, divided', ok_bind]
  exact scaledBy_comesTo rounds least positive small wide high

theorem target_comesTo {scaling : Scaling} (stated : scaling.IsPositive) {source : Dimensions}
    (positive : source.IsPositive) (small : source.SidesBelow (2 ^ 32)) (ratios : scaling.HasRatios source)
    {scale : ℚ} (fits : scaling.exactScale? source = some scale)
    (within : scale * source.width ≤ 2 ^ 31) (within' : scale * source.height ≤ 2 ^ 31)
    (reduction : ℤ) :
    ∃ target, scaling.target source reduction = .ok target ∧
      ComesTo (scale * source.width) target.width ∧ ComesTo (scale * source.height) target.height := by
  obtain ⟨columns, rows, wide, high, rfl⟩ := Dimensions.exists_nat positive
  have some : (columns : ℚ) ≠ 0 := by positivity
  have some' : (rows : ℚ) ≠ 0 := by positivity
  cases scaling with
  | full => cases fits
  | forced _ _ => cases fits
  | percent _ => cases fits
  | fitWidth across =>
      obtain ⟨across, rfl⟩ := Int.eq_ofNat_of_zero_le (Int.le_of_lt stated)
      obtain rfl := Option.some.inj fits
      -- the program multiplies before it divides, which is the same in exact numbers
      have length : (across / columns * rows : ℚ) = (rows * across : ℕ) / columns := by
        push_cast
        ring
      simp only [Int.cast_natCast, length, div_mul_cancel₀ _ some] at within' ⊢
      obtain ⟨x, pixels, divided, whole, comes⟩ :=
        wholeLength_ratio_comesTo (rows * across) wide within'
      refine ⟨⟨max 1 across, pixels⟩, ?_, .of_int across, comes⟩
      rw [target, ← Int.natCast_mul, divided, ok_bind, whole]
      rfl
  | fitHeight down =>
      obtain ⟨down, rfl⟩ := Int.eq_ofNat_of_zero_le (Int.le_of_lt stated)
      obtain rfl := Option.some.inj fits
      have length : (down / rows * columns : ℚ) = (columns * down : ℕ) / rows := by
        push_cast
        ring
      simp only [Int.cast_natCast, length, div_mul_cancel₀ _ some'] at within ⊢
      obtain ⟨x, pixels, divided, whole, comes⟩ :=
        wholeLength_ratio_comesTo (columns * down) high within
      refine ⟨⟨pixels, max 1 down⟩, ?_, comes, .of_int down⟩
      rw [target, ← Int.natCast_mul, divided, ok_bind, whole]
      rfl
  | fitInside across down =>
      obtain ⟨across, rfl⟩ := Int.eq_ofNat_of_zero_le (Int.le_of_lt stated.1)
      obtain ⟨down, rfl⟩ := Int.eq_ofNat_of_zero_le (Int.le_of_lt stated.2)
      exact fitInside_comesTo positive small ratios (Option.some.inj fits) within within' reduction

theorem hasRatio_of_le {wanted side : ℤ} (positive : 1 ≤ side) (least : 0 ≤ wanted)
    (short : wanted ≤ 2 ^ 31) : ¬ HasNoRatio wanted side := by
  have range : 2 ^ 31 < integerRange := two_pow_lt_integerRange (by decide)
  have more : integerRange ≤ integerRange * side.natAbs := Nat.le_mul_of_pos_right _ (by omega)
  rintro (none | large)
  · omega
  · generalize integerRange * side.natAbs = bound at *
    omega

end Scaling

/-- A picture that is fitted inside a box stays within it, has at least one pixel each way, and is as wide
as the box or as high. -/
theorem Size.target_touches_box (size : Size) {width height : ℤ}
    (fits : size.scaling = .fitInside width height) (narrow : width ≤ 2 ^ 31) (low : height ≤ 2 ^ 31)
    {source : Dimensions} (positive : source.IsPositive) (small : source.FitsIn ⟨2 ^ 31, 2 ^ 31⟩)
    (reduction : ℤ) :
    ∃ target, size.scaling.target source reduction = .ok target ∧ target.IsPositive ∧
      target.FitsIn ⟨width, height⟩ ∧ (target.width = width ∨ target.height = height) := by
  have stated : (Scaling.fitInside width height).IsPositive := fits ▸ size.isPositive
  have wanted : 1 ≤ width := stated.1
  have wanted' : 1 ≤ height := stated.2
  have wide : 1 ≤ source.width := positive.1
  have high : 1 ≤ source.height := positive.2
  obtain ⟨small, small'⟩ : source.width ≤ 2 ^ 31 ∧ source.height ≤ 2 ^ 31 := small
  have columns : (0 : ℚ) < source.width := by exact_mod_cast wide
  have rows : (0 : ℚ) < source.height := by exact_mod_cast high
  have ratios : (Scaling.fitInside width height).HasRatios source :=
    ⟨Scaling.hasRatio_of_le wide (by omega) narrow, Scaling.hasRatio_of_le high (by omega) low⟩
  have inside : min (width / source.width : ℚ) (height / source.height) * source.width ≤ width :=
    (le_div_iff₀ columns).mp (min_le_left _ _)
  have inside' : min (width / source.width : ℚ) (height / source.height) * source.height ≤ height :=
    (le_div_iff₀ rows).mp (min_le_right _ _)
  rw [fits]
  obtain ⟨target, scaled, comes, comes'⟩ := Scaling.target_comesTo stated positive
    ⟨by omega, by omega⟩ ratios rfl (inside.trans (by exact_mod_cast narrow))
    (inside'.trans (by exact_mod_cast low)) reduction
  refine ⟨target, scaled, ⟨comes.one_le, comes'.one_le⟩,
    ⟨comes.le_of_le wanted inside, comes'.le_of_le wanted' inside'⟩, ?_⟩
  -- the smaller one of the ratios leaves no room on its side
  rcases le_total (width / source.width : ℚ) (height / source.height) with narrower | lower
  · rw [min_eq_left narrower, div_mul_cancel₀ _ columns.ne'] at comes
    exact .inl (comes.eq_of_int wanted)
  · rw [min_eq_right lower, div_mul_cancel₀ _ rows.ne'] at comes'
    exact .inr (comes'.eq_of_int wanted')

/-- Of a long strip no pixel is left across, so one is kept. -/
theorem Size.target_touches_box_strip :
    ∃ (size : Size) (target : Dimensions), size.scaling = .fitInside 7 5 ∧
      size.scaling.target ⟨2 ^ 31, 3⟩ 0 = .ok target ∧ target = ⟨7, 1⟩ ∧ target.IsPositive ∧
      target.FitsIn ⟨7, 5⟩ ∧ (target.width = 7 ∨ target.height = 5) := by
  let size : Size := ⟨⟨.fitInside, some 7, some 5, none⟩, .fitInside 7 5, by decide +kernel⟩
  have strip : size.scaling.target ⟨2 ^ 31, 3⟩ 0 = .ok ⟨7, 1⟩ := by decide +kernel
  have area : Dimensions.IsPositive ⟨2 ^ 31, 3⟩ := ⟨by decide, by decide⟩
  obtain ⟨target, scaled, positive, inside, touches⟩ := size.target_touches_box rfl (by decide)
    (by decide) area ⟨by decide, by decide⟩ 0
  exact ⟨size, target, rfl, scaled, Except.ok.inj (scaled.symm.trans strip), positive, inside, touches⟩

end Jp2Render
