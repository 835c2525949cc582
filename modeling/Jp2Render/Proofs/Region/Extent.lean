import Jp2Render.Proofs.Binary64.Range
import Jp2Render.Proofs.Binary64.Values
import Jp2Render.Proofs.Reduction.Target
import Jp2Render.RequestText
import Mathlib.Algebra.Order.Group.MinMax

/-!
How much of a region lies within an image. Along each side a region is a span, and what counts is its
overlap with the side. A region that begins within the image has that extent, rounded to whole pixels; only
very near to the middle between two of them may it go the other way, for what the arithmetic rounds away. A
region that begins before the image is not cut there.
-/

namespace Jp2Render

open Binary64

/-- Where a region begins along a side, and how long it is there. -/
structure Span where
  offset : ℚ
  length : ℚ

namespace Span

def ofPixels (offset length : Binary64) : Span := ⟨offset.toRat, length.toRat⟩

def ofPercent (offset length : Binary64) (side : ℤ) : Span :=
  ⟨offset.toRat / 100 * side, length.toRat / 100 * side⟩

/-- How much of the span lies between zero and the end of the side. -/
def overlap (span : Span) (side : ℤ) : ℚ := min (span.offset + span.length) side - max span.offset 0

variable {span : Span} {side : ℤ}

theorem overlap_eq (begins : 0 ≤ span.offset) :
    span.overlap side = min span.length (side - span.offset) := by
  rw [overlap, max_eq_left begins, ← min_sub_sub_right, add_sub_cancel_left]

theorem offset_le (begins : 0 ≤ span.offset) (overlaps : 0 < span.overlap side) :
    span.offset ≤ side := by
  rw [overlap_eq begins] at overlaps
  linarith [(lt_min_iff.mp overlaps).2]

theorem length_nonneg (begins : 0 ≤ span.offset) (overlaps : 0 < span.overlap side) :
    0 ≤ span.length := by
  rw [overlap_eq begins] at overlaps
  exact (lt_min_iff.mp overlaps).1.le

end Span

/-- The spans of a region along the width and the height of an image. -/
def Region.spans (full : Dimensions) : Region → Span × Span
  | .full => (⟨0, full.width⟩, ⟨0, full.height⟩)
  | .pixels r => (.ofPixels r.x r.width, .ofPixels r.y r.height)
  | .percent r => (.ofPercent r.x r.width full.width, .ofPercent r.y r.height full.height)

/-- So many pixels count for an overlap, give or take the slack: the nearest integer, ties to even, and
one at least, but no more than the side has. -/
structure Counts (slack overlap : ℚ) (side pixels : ℤ) : Prop where
  least : 1 ≤ pixels
  most : pixels ≤ side
  near : ∃ value whole, |value - overlap| ≤ slack ∧ IsNearest value whole ∧ pixels = max 1 whole

def slack : ℚ := 1 / 2 ^ 18

theorem Counts.of_apart {slack overlap : ℚ} {side pixels : ℤ} (counts : Counts slack overlap side pixels)
    (apart : ∀ whole : ℤ, slack < |overlap - (whole + 1 / 2)|) : Counts 0 overlap side pixels := by
  obtain ⟨least, most, value, whole, near, ⟨nearest, -⟩, same⟩ := counts
  have moved := abs_le.mp near
  have within := abs_le.mp nearest
  have after := lt_abs.mp (apart whole)
  have before := lt_abs.mp (apart (whole - 1))
  rw [Int.cast_sub, Int.cast_one] at before
  have low : -(1 / 2) < overlap - whole := by
    rcases before with far | far <;> linarith
  have high : overlap - whole < 1 / 2 := by
    rcases after with far | far <;> linarith
  have close : |overlap - whole| < 1 / 2 := abs_lt.mpr ⟨low, high⟩
  refine ⟨least, most, overlap, whole, ?_, ⟨close.le, fun tie => absurd tie close.ne⟩, same⟩
  rw [sub_self, abs_zero]

namespace Binary64

def IsLength (x : Binary64) : Prop := (x.isFinite = true ∧ 0 ≤ x.toRat) ∨ x = .infinite false

def upTo (bound : ℚ) : Binary64 → ℚ
  | .infinite false => bound
  | x => min x.toRat bound

variable {x y : Binary64} {bound : ℚ}

theorem upTo_finite (finite : x.isFinite = true) (bound : ℚ) : x.upTo bound = min x.toRat bound := by
  obtain ⟨negative, units, rfl⟩ := exists_finite finite
  rfl

theorem IsLength.upTo_bounds (length : x.IsLength) (least : 0 ≤ bound) :
    0 ≤ x.upTo bound ∧ x.upTo bound ≤ bound := by
  rcases length with ⟨finite, above⟩ | rfl
  · rw [upTo_finite finite]
    exact ⟨le_min above least, min_le_right _ _⟩
  · exact ⟨least, le_rfl⟩

theorem IsLength.toRat_leastOf (length : x.IsLength) (finite : y.isFinite = true) :
    (leastOf x y).isFinite = true ∧ (leastOf x y).toRat = x.upTo y.toRat := by
  rcases length with ⟨finite', -⟩ | rfl
  · rw [upTo_finite finite']
    obtain ⟨s, a, rfl⟩ := exists_finite finite'
    obtain ⟨t, b, rfl⟩ := exists_finite finite
    have less := finite_lt_finite_iff t s b a
    unfold leastOf
    by_cases shorter : Binary64.finite t b < Binary64.finite s a
    · rw [if_pos shorter, min_eq_right (less.mp shorter).le]
      exact ⟨rfl, rfl⟩
    · rw [if_neg shorter, min_eq_left (not_lt.mp (mt less.mpr shorter))]
      exact ⟨rfl, rfl⟩
  · obtain ⟨t, b, rfl⟩ := exists_finite finite
    exact ⟨rfl, rfl⟩

end Binary64

namespace Region

open Arithmetic

variable {length offset : Binary64} {side : ℤ}

theorem visibleLength_eq (positive : 1 ≤ side) (small : side < 2 ^ 31) (long : length.IsLength)
    (finite : offset.isFinite = true) (begins : 0 ≤ offset.toRat) (ends : offset.toRat ≤ side) :
    ∃ far whole, Rounds (side - offset.toRat) far ∧ far.toRat ≤ side ∧
      visibleLength length offset side = .ok (max 1 whole) ∧
      IsNearest (length.upTo far.toRat) whole ∧ max 1 whole ≤ side := by
  obtain ⟨real, known, finite', exact⟩ := toReal_exact (by omega) (by omega : side < 2 ^ 53)
  have wide : (side : ℚ) < 2 ^ 31 := by exact_mod_cast small
  have bounded : |real.toRat - offset.toRat| ≤ rangeBound := by
    rw [exact, abs_of_nonneg (by linarith)]
    norm_num [rangeBound]
    linarith
  have rounds := rounds_sub finite' finite bounded
  rw [exact] at rounds
  obtain ⟨finiteLeast, value⟩ := long.toRat_leastOf rounds.finite
  obtain ⟨whole, rounded⟩ := (nearest_eq_ok_iff _).mpr finiteLeast
  have near := isNearest_nearest rounded
  rw [value] at near
  have some : 0 ≤ (real - offset).toRat :=
    rounds.ge (by exact_mod_cast isNumber_natCast (by decide : 0 < 2 ^ 53)) (by linarith)
  have most : (real - offset).toRat ≤ side := by
    obtain ⟨n, rfl⟩ := Int.eq_ofNat_of_zero_le (by omega : 0 ≤ side)
    exact rounds.le (isNumber_natCast (by omega)) (by linarith)
  obtain ⟨low, high⟩ := long.upTo_bounds some
  have within := (near.within (by exact_mod_cast low) (high.trans most)).2
  refine ⟨_, whole, rounds, most, ?_, near, max_le positive within⟩
  simp [visibleLength, known, ok_bind, rounded]

theorem near_of_rounds {value : ℚ} {x : Binary64} (rounds : Rounds value x) (small : side < 2 ^ 31)
    (least : 0 ≤ value) (most : value ≤ side) : |x.toRat - value| ≤ 1 / 2 ^ 21 := by
  have wide : (side : ℚ) < 2 ^ 31 := by exact_mod_cast small
  have near := rounds.near_of_le ((abs_of_nonneg least).trans_le (most.trans wide.le))
  norm_num at near ⊢
  linarith

theorem counts_pixels (positive : 1 ≤ side) (small : side < 2 ^ 31) (number : IsNumber length.toRat)
    (finite : length.isFinite = true) (finite' : offset.isFinite = true) (begins : 0 ≤ offset.toRat)
    (overlaps : 0 < (Span.ofPixels offset length).overlap side) :
    ∃ pixels, visibleLength length offset side = .ok pixels ∧
      Counts slack ((Span.ofPixels offset length).overlap side) side pixels ∧
      (IsNumber ((Span.ofPixels offset length).overlap side) →
        Counts 0 ((Span.ofPixels offset length).overlap side) side pixels) := by
  have ends : offset.toRat ≤ side := Span.offset_le begins overlaps
  have least : 0 ≤ length.toRat := Span.length_nonneg begins overlaps
  obtain ⟨far, whole, rounds, -, visible, near, most⟩ :=
    visibleLength_eq positive small (.inl ⟨finite, least⟩) finite' begins ends
  rw [upTo_finite finite] at near
  rw [Span.overlap_eq begins]
  show ∃ pixels, _ ∧ Counts _ (min length.toRat (side - offset.toRat)) _ _ ∧
    (IsNumber (min length.toRat (side - offset.toRat)) →
      Counts _ (min length.toRat (side - offset.toRat)) _ _)
  refine ⟨_, visible, ⟨le_max_left _ _, most, _, whole, ?_, near, rfl⟩, fun exact =>
    ⟨le_max_left _ _, most, _, whole, ?_, near, rfl⟩⟩
  · have moved := near_of_rounds rounds small (by linarith) (by linarith)
    refine (abs_min_sub_min_le_max _ _ _ _).trans (max_le ?_ (moved.trans ?_))
    · norm_num [slack]
    · norm_num [slack]
  · -- the difference rounds, but a number below it stays below, and a number is not moved
    have same : min length.toRat far.toRat = min length.toRat (side - offset.toRat) := by
      rcases le_total length.toRat (side - offset.toRat) with inside | beyond
      · rw [min_eq_left inside, min_eq_left (rounds.ge number inside)]
      · rw [min_eq_right beyond] at exact
        rw [rounds.exact exact]
    rw [same, sub_self, abs_zero]

theorem isInteger_hundred : (100 : Binary64).IsInteger 100 :=
  isInteger_ofInt (by decide) (by decide)

theorem percentOf_near {p : Binary64} (positive : 1 ≤ side) (small : side < 2 ^ 31)
    (finite : p.isFinite = true) (least : 0 ≤ p.toRat) (most : p.toRat ≤ 100) :
    ∃ x, percentOf p side = .ok x ∧ x.isFinite = true ∧ 0 ≤ x.toRat ∧ x.toRat ≤ side ∧
      |x.toRat - p.toRat / 100 * side| ≤ 1 / 2 ^ 20 := by
  obtain ⟨real, known, exact⟩ := toReal_exact (by omega) (by omega : side < 2 ^ 53)
  obtain ⟨finiteHundred, hundred⟩ := isInteger_hundred
  obtain ⟨n, rfl⟩ := Int.eq_ofNat_of_zero_le (by omega : 0 ≤ side)
  have part : 0 ≤ p.toRat / 100 ∧ p.toRat / 100 ≤ 1 := ⟨by linarith, by linarith⟩
  have divides : (100 : Binary64).isZero = false := by
    rw [← Bool.not_eq_true, isZero_iff_toRat finiteHundred, hundred]
    norm_num
  have share := rounds_div finite finiteHundred divides (by
    rw [hundred, Int.cast_ofNat, abs_of_nonneg part.1]
    exact part.2.trans (by norm_num [rangeBound]))
  rw [hundred, Int.cast_ofNat] at share
  obtain ⟨q, quotient⟩ : ∃ q, p / 100 = q := ⟨_, rfl⟩
  rw [quotient] at share
  refine ⟨q * real, by simp [percentOf, timesInteger, known, quotient], ?_⟩
  exact share_mul share part.1 part.2 exact (by omega)

theorem le_percentUnits {units n : ℕ} (many : 100 * unitsPerOne < units) (short : n < 2 ^ 53) :
    n * unitsPerOne ≤ roundUnits
      (roundUnits (units * unitsPerOne) (100 * unitsPerOne) * (n * unitsPerOne)) unitsPerOne := by
  have hundred : 0 < 100 * unitsPerOne := Nat.mul_pos (by decide) unitsPerOne_pos
  have one : Representable unitsPerOne := by
    simpa using representable_integer (by decide : 1 < 2 ^ 53)
  have share : unitsPerOne ≤ roundUnits (units * unitsPerOne) (100 * unitsPerOne) := by
    apply le_roundUnits one hundred
    rw [Nat.mul_comm units]
    exact Nat.mul_le_mul_left _ many.le
  apply le_roundUnits (representable_integer short) unitsPerOne_pos
  rw [Nat.mul_comm _ (n * unitsPerOne)]
  exact Nat.mul_le_mul_left _ share

theorem percentOf_finite {units n : ℕ} (short : n < 2 ^ 53) (some : 0 < n) :
    percentOf (.finite false units) n = .ok (ofUnits false (roundUnits
      (roundUnits (units * unitsPerOne) (100 * unitsPerOne) * (n * unitsPerOne)) unitsPerOne)) := by
  have hundred : 0 < 100 * unitsPerOne := Nat.mul_pos (by decide) unitsPerOne_pos
  have whole : unitsPerOne ≤ n * unitsPerOne := Nat.le_mul_of_pos_left _ some
  rw [percentOf, timesInteger, toReal_of_lt short, ok_bind, ofNat_of_lt (by decide),
    finite_div_finite _ _ _ hundred, ofUnits_mul_finite (representable_roundUnits _ hundred) whole]
  rfl

theorem percentOf_beyond {p : Binary64} (positive : 1 ≤ side) (small : side < 2 ^ 31)
    (finite : p.isFinite = true) (beyond : 100 < p.toRat) :
    ∃ x, percentOf p side = .ok x ∧ x.IsLength ∧ ∀ bound ≤ (side : ℚ), x.upTo bound = bound := by
  obtain ⟨n, rfl⟩ := Int.eq_ofNat_of_zero_le (by omega : 0 ≤ side)
  have short : n < 2 ^ 53 := by omega
  have ones := unitsPerOne_pos_rat
  obtain ⟨negative, units, rfl⟩ := exists_finite finite
  cases negative with
  | true =>
      have below : (Binary64.finite true units).toRat ≤ 0 := neg_nonpos.mpr (units_nonneg units)
      linarith
  | false =>
      have exact : (100 * unitsPerOne : ℚ) < units := by
        rwa [toRat_finite, signed_false, lt_div_iff₀ ones] at beyond
      have pixels := le_percentUnits (by exact_mod_cast exact) short
      refine ⟨_, percentOf_finite short (by omega), ?_⟩
      generalize roundUnits (roundUnits _ _ * (n * unitsPerOne)) unitsPerOne = size at *
      by_cases inside : size < overflowUnits
      · rw [ofUnits_finite inside]
        refine ⟨.inl ⟨rfl, units_nonneg size⟩, fun bound within => ?_⟩
        have least : (n : ℚ) ≤ size / unitsPerOne := by
          rw [le_div_iff₀ ones]
          exact_mod_cast pixels
        exact min_eq_right (within.trans least)
      · rw [ofUnits_infinite (Nat.le_of_not_lt inside)]
        exact ⟨.inr rfl, fun bound within => rfl⟩

theorem percentOf_length {p : Binary64} (positive : 1 ≤ side) (small : side < 2 ^ 31)
    (finite : p.isFinite = true) (least : 0 ≤ p.toRat) :
    ∃ x, percentOf p side = .ok x ∧ x.IsLength ∧
      ∀ bound ≤ (side : ℚ), |x.upTo bound - min (p.toRat / 100 * side) bound| ≤ 1 / 2 ^ 20 := by
  rcases le_or_gt p.toRat 100 with inside | beyond
  · obtain ⟨x, known, finite', above, -, near⟩ := percentOf_near positive small finite least inside
    refine ⟨x, known, .inl ⟨finite', above⟩, fun bound _ => ?_⟩
    rw [upTo_finite finite']
    refine (abs_min_sub_min_le_max _ _ _ _).trans (max_le near ?_)
    rw [sub_self, abs_zero]
    norm_num
  · obtain ⟨x, known, long, cut⟩ := percentOf_beyond positive small finite beyond
    refine ⟨x, known, long, fun bound within => ?_⟩
    have above : (0 : ℚ) ≤ side := by exact_mod_cast (by omega : 0 ≤ side)
    have whole : (side : ℚ) ≤ p.toRat / 100 * side :=
      le_mul_of_one_le_left above (by linarith)
    rw [cut bound within, min_eq_right (within.trans whole), sub_self, abs_zero]
    norm_num

theorem counts_percent (positive : 1 ≤ side) (small : side < 2 ^ 31) (finite : length.isFinite = true)
    (finite' : offset.isFinite = true) (begins : 0 ≤ (Span.ofPercent offset length side).offset)
    (overlaps : 0 < (Span.ofPercent offset length side).overlap side) :
    ∃ long start pixels, percentOf length side = .ok long ∧ percentOf offset side = .ok start ∧
      visibleLength long start side = .ok pixels ∧
      Counts slack ((Span.ofPercent offset length side).overlap side) side pixels := by
  have above : (0 : ℚ) < side := by exact_mod_cast positive
  have ends : offset.toRat / 100 * side ≤ side := Span.offset_le begins overlaps
  have reaches : 0 ≤ length.toRat / 100 * side := Span.length_nonneg begins overlaps
  rw [Span.overlap_eq begins]
  show ∃ long start pixels, _ ∧ _ ∧ _ ∧ Counts _
    (min (length.toRat / 100 * side) (side - offset.toRat / 100 * side)) _ _
  have least : 0 ≤ offset.toRat := by
    have share := nonneg_of_mul_nonneg_left begins above
    linarith
  have least' : 0 ≤ length.toRat := by
    have share := nonneg_of_mul_nonneg_left reaches above
    linarith
  have most : offset.toRat ≤ 100 := by
    have share := (mul_le_iff_le_one_left above).mp ends
    linarith
  obtain ⟨start, known, finiteStart, low, high, nearStart⟩ :=
    percentOf_near positive small finite' least most
  obtain ⟨long, known', isLength, nearLong⟩ := percentOf_length positive small finite least'
  obtain ⟨far, whole, rounds, within, visible, near, below⟩ :=
    visibleLength_eq positive small isLength finiteStart low high
  refine ⟨long, start, _, known', known, visible, le_max_left _ _, below, _, whole, ?_, near, rfl⟩
  have moved := near_of_rounds rounds small (by linarith) (by linarith)
  -- three roundings: the share of the side, the rest of the side, and the smaller of both
  have cut := nearLong far.toRat within
  generalize length.toRat / 100 * (side : ℚ) = reach at *
  generalize offset.toRat / 100 * (side : ℚ) = begun at *
  have ended : |far.toRat - (side - begun)| ≤ 1 / 2 ^ 21 + 1 / 2 ^ 20 := by
    have both := abs_sub_le far.toRat (side - start.toRat) (side - begun)
    rw [sub_sub_sub_cancel_left, abs_sub_comm begun] at both
    linarith
  have carried : |min reach far.toRat - min reach (side - begun)| ≤ 1 / 2 ^ 21 + 1 / 2 ^ 20 := by
    refine (abs_min_sub_min_le_max _ _ _ _).trans (max_le ?_ ended)
    rw [sub_self, abs_zero]
    norm_num
  have both := abs_sub_le (long.upTo far.toRat) (min reach far.toRat) (min reach (side - begun))
  norm_num [slack] at cut carried ⊢
  linarith

end Region

def Rectangle.All (p : Binary64 → Prop) (r : Rectangle) : Prop := p r.x ∧ p r.y ∧ p r.width ∧ p r.height

/-- All numbers that the region states are such. -/
def Region.All (p : Binary64 → Prop) : Region → Prop
  | .full => True
  | .pixels r => r.All p
  | .percent r => r.All p

namespace RequestText

theorem rounded_real {cs : List Char} {x : Binary64} (read : real cs = .ok x) : x.Rounded :=
  Text.rounded_readReal (mapError_eq_ok_iff.mp read)

theorem rounded_rectangle {cs : List Char} {r : Rectangle} (read : rectangle cs = .ok r) :
    r.All Rounded := by
  unfold rectangle at read
  split at read
  · simp only [bind_eq_ok_iff, pure_eq_ok_iff] at read
    obtain ⟨x, readX, y, readY, width, readWidth, height, readHeight, rfl⟩ := read
    exact ⟨rounded_real readX, rounded_real readY, rounded_real readWidth, rounded_real readHeight⟩
  · cases read

theorem rounded_regionRectangle {text : String} {cs : List Char} {r : Rectangle}
    (read : regionRectangle text cs = .ok r) : r.All Rounded := by
  rw [regionRectangle, bind_eq_ok_iff] at read
  obtain ⟨stated, readStated, accepted⟩ := read
  split at accepted
  · cases accepted
  · rw [← pure_eq_ok_iff.mp accepted]
    exact rounded_rectangle readStated

theorem rounded_region {text : String} {stated : Region} (read : region text = .ok stated) :
    stated.All Rounded := by
  unfold region at read
  split at read
  · rw [← Except.ok.inj read]
    trivial
  · split at read
    · obtain ⟨r, readR, rfl⟩ := map_eq_ok_iff.mp read
      exact rounded_regionRectangle readR
    · obtain ⟨r, readR, rfl⟩ := map_eq_ok_iff.mp read
      exact rounded_regionRectangle readR

end RequestText

theorem Binary64.Rounded.isNumber {x : Binary64} (number : x.Rounded) (finite : x.isFinite = true) :
    IsNumber x.toRat := by
  obtain ⟨negative, units, rfl⟩ := exists_finite finite
  exact ⟨negative, units, number.representable, rfl⟩

theorem counts_whole {side : ℤ} (positive : 1 ≤ side) {slack : ℚ} (least : 0 ≤ slack) :
    Counts slack (Span.overlap ⟨0, side⟩ side) side side := by
  have all : Span.overlap ⟨0, side⟩ side = side := by simp [Span.overlap]
  rw [all]
  refine ⟨positive, le_rfl, side, side, ?_, .of_int side, (max_eq_right positive).symm⟩
  rwa [sub_self, abs_zero]

namespace Region

open Arithmetic

/-- The overlap is rounded as it is: either it is itself a number and the region is in pixels, or it is
not near to the middle between two integers. -/
def Settles (region : Region) (overlap : ℚ) : Prop :=
  ((∀ r, region ≠ .percent r) ∧ IsNumber overlap) ∨ ∀ whole : ℤ, slack < |overlap - (whole + 1 / 2)|

/-- So many pixels count for an overlap of a region, and with no slack where it is rounded as it is. -/
def Clips (region : Region) (overlap : ℚ) (side pixels : ℤ) : Prop :=
  Counts slack overlap side pixels ∧ (region.Settles overlap → Counts 0 overlap side pixels)

theorem clips_of_counts {region : Region} {overlap : ℚ} {side pixels : ℤ}
    (counts : Counts slack overlap side pixels)
    (exact : (∀ r, region ≠ .percent r) → IsNumber overlap → Counts 0 overlap side pixels) :
    region.Clips overlap side pixels := by
  refine ⟨counts, ?_⟩
  rintro (⟨pixels, number⟩ | apart)
  · exact exact pixels number
  · exact counts.of_apart apart

/-- What is accepted as a region, begins within an image and overlaps it has the extent of its overlap
along each side. -/
theorem extent_clipped {text : String} {region : Region}
    (accepted : RequestText.region text = .ok region)
    (finite : region.All fun x => x.isFinite = true) {full : Dimensions} (positive : full.IsPositive)
    (small : full.SidesBelow (2 ^ 31)) {across down : Span}
    (spans : region.spans full = (across, down)) (begins : 0 ≤ across.offset ∧ 0 ≤ down.offset)
    (overlaps : 0 < across.overlap full.width ∧ 0 < down.overlap full.height) :
    ∃ extent, region.extent full = .ok extent ∧
      region.Clips (across.overlap full.width) full.width extent.width ∧
      region.Clips (down.overlap full.height) full.height extent.height := by
  have rounded := RequestText.rounded_region accepted
  cases region with
  | full =>
      obtain ⟨rfl, rfl⟩ := Prod.mk.inj spans
      -- the full region overlaps every side by all of it
      have whole : ∀ side : ℤ, 1 ≤ side → Region.full.Clips (Span.overlap ⟨0, side⟩ side) side side :=
        fun side some => clips_of_counts (counts_whole some (by norm_num [slack]))
          fun _ _ => counts_whole some le_rfl
      exact ⟨full, rfl, whole _ positive.1, whole _ positive.2⟩
  | pixels r =>
      obtain ⟨rfl, rfl⟩ := Prod.mk.inj spans
      obtain ⟨-, -, numberWidth, numberHeight⟩ := rounded
      obtain ⟨finiteX, finiteY, finiteWidth, finiteHeight⟩ := finite
      obtain ⟨width, wide, near, exact⟩ := counts_pixels positive.1 small.1
        (numberWidth.isNumber finiteWidth) finiteWidth finiteX begins.1 overlaps.1
      obtain ⟨height, high, near', exact'⟩ := counts_pixels positive.2 small.2
        (numberHeight.isNumber finiteHeight) finiteHeight finiteY begins.2 overlaps.2
      refine ⟨⟨width, height⟩, ?_, clips_of_counts near fun _ => exact,
        clips_of_counts near' fun _ => exact'⟩
      simp [extent, rectangle?, toPixels, ok_bind, wide, high]
  | percent r =>
      obtain ⟨rfl, rfl⟩ := Prod.mk.inj spans
      obtain ⟨finiteX, finiteY, finiteWidth, finiteHeight⟩ := finite
      obtain ⟨long, start, width, byWidth, byX, wide, near⟩ :=
        counts_percent positive.1 small.1 finiteWidth finiteX begins.1 overlaps.1
      obtain ⟨tall, top, height, byHeight, byY, high, near'⟩ :=
        counts_percent positive.2 small.2 finiteHeight finiteY begins.2 overlaps.2
      refine ⟨⟨width, height⟩, ?_, clips_of_counts near fun pixels => absurd rfl (pixels r),
        clips_of_counts near' fun pixels => absurd rfl (pixels r)⟩
      simp [extent, rectangle?, toPixels, ok_bind, byWidth, byX, byHeight, byY, wide, high]

/-- A region of whole pixels that runs past the right edge. -/
theorem extent_clipped_right :
    ∃ region, RequestText.region "1500,0,400,200" = .ok region ∧
      region.extent ⟨1600, 800⟩ = .ok ⟨100, 200⟩ ∧
      region.Clips 100 1600 100 ∧ region.Clips 200 800 200 := by
  let stated : Region := .pixels ⟨ofInt 1500, ofInt 0, ofInt 400, ofInt 200⟩
  have accepted : RequestText.region "1500,0,400,200" = .ok stated := by decide +kernel
  have known : stated.extent ⟨1600, 800⟩ = .ok ⟨100, 200⟩ := by decide +kernel
  have whole : ∀ z : ℤ, 0 ≤ z → z < 2 ^ 53 → (ofInt z).IsInteger z := fun _ => isInteger_ofInt
  obtain ⟨finiteX, x⟩ := whole 1500 (by norm_num) (by norm_num)
  obtain ⟨finiteY, y⟩ := whole 0 (by norm_num) (by norm_num)
  obtain ⟨finiteWidth, width⟩ := whole 400 (by norm_num) (by norm_num)
  obtain ⟨finiteHeight, height⟩ := whole 200 (by norm_num) (by norm_num)
  have finite : stated.All fun x => x.isFinite = true := by
    simp [stated, Region.All, Rectangle.All, finiteX, finiteY, finiteWidth, finiteHeight]
  have spans : stated.spans ⟨1600, 800⟩ = (⟨1500, 400⟩, ⟨0, 200⟩) := by
    simp [stated, Region.spans, Span.ofPixels, x, y, width, height]
  have positive : Dimensions.IsPositive ⟨1600, 800⟩ := ⟨by decide, by decide⟩
  have small : Dimensions.SidesBelow (2 ^ 31) ⟨1600, 800⟩ := ⟨by decide, by decide⟩
  obtain ⟨extent, same, across, down⟩ := extent_clipped accepted finite positive small
    spans (by norm_num) (by norm_num [Span.overlap])
  obtain rfl : extent = ⟨100, 200⟩ := Except.ok.inj (same.symm.trans known)
  norm_num [Span.overlap] at across down
  exact ⟨stated, accepted, known, across, down⟩

/-- A region that begins before the left edge: of its 100 pixels 50 lie within the image, but all of them
are taken for its extent. -/
theorem extent_not_clipped_left :
    ∃ region, RequestText.region "-50,0,100,100" = .ok region ∧
      region.extent ⟨1600, 800⟩ = .ok ⟨100, 100⟩ ∧
      (region.spans ⟨1600, 800⟩).1.overlap 1600 = 50 ∧ ¬ Counts slack 50 1600 100 := by
  let stated : Region := .pixels ⟨-ofInt 50, ofInt 0, ofInt 100, ofInt 100⟩
  have accepted : RequestText.region "-50,0,100,100" = .ok stated := by decide +kernel
  have known : stated.extent ⟨1600, 800⟩ = .ok ⟨100, 100⟩ := by decide +kernel
  have offset : (ofInt 50).toRat = (50 : ℤ) := (isInteger_ofInt (by decide) (by decide)).2
  have length : (ofInt 100).toRat = (100 : ℤ) := (isInteger_ofInt (by decide) (by decide)).2
  refine ⟨stated, accepted, known, ?_, ?_⟩
  · norm_num [stated, Region.spans, Span.ofPixels, Span.overlap, toRat_neg, offset, length]
  · rintro ⟨-, -, value, whole, near, nearest, same⟩
    obtain rfl : whole = 100 := by omega
    have apart := abs_le.mp nearest.1
    have close := abs_le.mp near
    norm_num [slack] at apart close
    linarith

end Region

end Jp2Render
