import Jp2Render.Proofs.Binary64.Values
import Jp2Render.Proofs.Decoding
import Jp2Render.Proofs.Netpbm.Samples
import Jp2Render.Proofs.Picture.Grid

/-!
The brightness of decoded rasters. A sample is scaled from the range of its file to the range that it is
read into, and is off by less than one. That range is a byte in colour, and in gray of up to eight bits.
Finer gray is read into sixteen bits, and it becomes a raster by being cut off at a byte, not scaled.
-/

namespace Jp2Render

open Binary64

namespace Netpbm

/-- A value within the range that stands for the same part of it as the sample does of its own. -/
structure IsLevel (range maxval sample : ℕ) (value : ℤ) : Prop where
  least : 0 ≤ value
  most : value ≤ range
  near : |(value : ℚ) - range * sample / maxval| ≤ 1

theorem isLevel_scaleSample {range maxval sample : ℕ} (small : range < 2 ^ 31)
    (positive : 0 < maxval) (within : sample ≤ maxval) :
    IsLevel range maxval sample (scaleSample range maxval sample) := by
  have divisor : (0 : ℚ) < maxval := Nat.cast_pos.mpr positive
  have part : 0 ≤ (sample / maxval : ℚ) ∧ (sample / maxval : ℚ) ≤ 1 :=
    ⟨by positivity, (div_le_one divisor).mpr (Nat.cast_le.mpr within)⟩
  have share := rounds_ofRatio sample positive (part.2.trans (by norm_num [rangeBound]))
  have whole : (ofInt range).IsInteger range :=
    Arithmetic.isInteger_ofInt (Int.natCast_nonneg range) (by omega)
  obtain ⟨finite, least, most, near⟩ := share_mul share part.1 part.2 whole small
  unfold scaleSample
  generalize ofRatio false sample maxval * ofInt range = x at *
  obtain ⟨value, rounded⟩ : ∃ value, x.round = .ok value := by
    obtain ⟨negative, units, rfl⟩ := exists_finite finite
    exact ⟨_, rfl⟩
  have nearest := isNearest_round rounded
  obtain ⟨low, high⟩ := nearest.within (by exact_mod_cast least) (by exact_mod_cast most)
  rw [rounded, cutOff, min_eq_right high]
  refine ⟨low, high, ?_⟩
  have same : (range * sample / maxval : ℚ) = sample / maxval * range := by ring
  rw [same]
  calc |(value : ℚ) - sample / maxval * range|
      ≤ |(value : ℚ) - x.toRat| + |x.toRat - sample / maxval * range| := abs_sub_le ..
    _ ≤ 1 / 2 + 1 / 2 ^ 20 := add_le_add (by rw [abs_sub_comm]; exact nearest.1) near
    _ ≤ 1 := by norm_num

namespace Content

variable {content : Content}

theorem isLevel_level (proper : content.IsProper) {sample : ℕ} (within : sample ≤ content.maxval) :
    IsLevel content.range content.maxval sample (content.level sample) := by
  have small : content.range < 2 ^ 31 := by
    unfold range
    split <;> decide
  unfold level
  split
  · next same =>
      have divisor : (content.maxval : ℚ) ≠ 0 := Nat.cast_ne_zero.mpr proper.least.ne'
      refine ⟨Int.natCast_nonneg sample, by rw [← same]; exact_mod_cast within, ?_⟩
      rw [← same, mul_div_cancel_left₀ _ divisor, Int.cast_natCast, sub_self, abs_zero]
      exact zero_le_one
  · exact isLevel_scaleSample small proper.least within

/-- The sample at a place, as the file has it. -/
def sample (content : Content) (x y band : ℕ) : ℕ :=
  content.samples.getD ((y * content.width + x) * content.mode.bands + band) 0

theorem sample_le (proper : content.IsProper) (x y band : ℕ) :
    content.sample x y band ≤ content.maxval := by
  unfold sample
  rw [List.getD_eq_getElem?_getD]
  cases found : content.samples[(y * content.width + x) * content.mode.bands + band]? with
  | none => exact Nat.zero_le _
  | some s => exact proper.bounded s (List.mem_of_getElem? found)

theorem sample_picture (proper : content.IsProper) {x y band : ℕ} (left : x < content.width)
    (top : y < content.height) (inside : band < content.mode.bands) :
    content.picture.grid.sample x y band = content.level (content.sample x y band) := by
  have held : (y * content.width + x) * content.mode.bands + band < content.samples.length := by
    have placed : content.picture.grid.index x y band < content.picture.grid.samples.size :=
      Grid.index_lt left top inside
    rw [Grid.size_samples] at placed
    rwa [proper.length]
  refine (Grid.sample_ofFn _ left top inside).trans ?_
  simp [sample, held]

end Content

end Netpbm

namespace Raster

open Netpbm

variable {content : Content}

theorem standardized_flat (flat : ¬ content.IsDeep) :
    standardized content.picture = content.picture ∧ content.picture.mode = content.mode := by
  have mode : content.picture.mode = content.mode := congrArg Prod.fst (Content.coding_flat flat)
  refine ⟨?_, mode⟩
  unfold standardized isStandard
  rw [mode, Content.mode]
  cases content.colour <;> rfl

theorem standardized_deep (deep : content.IsDeep) :
    standardized content.picture =
      { mode := .rgb
        grid := content.picture.grid.spread 3 (Picture.colour .integer content.picture.palette) } := by
  have mode : content.picture.mode = .integer := congrArg Prod.fst (Content.coding_deep deep)
  simp [standardized, isStandard, Picture.toRgb, mode]

/-- A raster has the brightness of the file that it is read from, unless that is gray of more than eight
bits: then each sample is scaled to sixteen bits, and whatever is more than a byte becomes white. -/
theorem brightness_unless_deep (proper : content.IsProper) {bytes : Bytes}
    (file : content.IsFile bytes) {reduction : ℤ} {raster : Raster}
    (done : Raster.ofBytes bytes reduction = .ok raster) :
    raster.dimensions = ⟨content.width, content.height⟩ ∧
    (¬ content.IsDeep → raster.picture.mode = content.mode ∧
      ∀ x < content.width, ∀ y < content.height, ∀ band < content.mode.bands,
        IsLevel 255 content.maxval (content.sample x y band) (raster.picture.grid.sample x y band)) ∧
    (content.IsDeep → raster.picture.mode = .rgb ∧
      ∀ x < content.width, ∀ y < content.height, ∀ band < 3, ∃ value,
        IsLevel 65535 content.maxval (content.sample x y 0) value ∧
          raster.picture.grid.sample x y band = min 255 value) := by
  obtain ⟨picture, reads, rfl⟩ := ofBytes_eq_ok_iff.mp done
  rw [Content.read_file proper file (reads_willing.mp reads)]
  by_cases deep : content.IsDeep
  · -- plain numbers are cut off at 255 when they become colours, instead of being scaled
    rw [standardized_deep deep]
    refine ⟨rfl, fun flat => absurd deep flat, fun _ => ⟨rfl, ?_⟩⟩
    intro x left y top band inside
    have gray : 0 < content.mode.bands := by
      rw [Content.mode, deep.1]
      decide
    have level := Content.isLevel_level proper (Content.sample_le proper x y 0)
    rw [Content.range_deep deep] at level
    refine ⟨_, level, (Grid.sample_ofFn _ left top inside).trans ?_⟩
    have least := level.least
    simp only [Picture.colour, Content.sample_picture proper left top gray, Picture.clip]
    omega
  · obtain ⟨same, mode⟩ := standardized_flat deep
    rw [same]
    refine ⟨rfl, fun _ => ⟨mode, ?_⟩, fun finer => absurd finer deep⟩
    intro x left y top band inside
    have level := Content.isLevel_level proper (Content.sample_le proper x y band)
    rw [Content.range_flat deep] at level
    rwa [Content.sample_picture proper left top inside]

/-- One place in colour of sixteen bits. -/
theorem brightness_unless_deep_colour :
    ∃ raster, Raster.ofBytes (Content.printed ⟨true, 1, 1, 65535, [30000, 0, 65535]⟩) 0 = .ok raster ∧
      IsLevel 255 65535 30000 (raster.picture.grid.sample 0 0 0) := by
  let content : Content := ⟨true, 1, 1, 65535, [30000, 0, 65535]⟩
  have proper : content.IsProper := ⟨by decide, by decide, by decide, by decide⟩
  have flat : ¬ content.IsDeep := by decide
  have read : (Raster.ofBytes content.printed 0).toOption.isSome = true := by decide +kernel
  obtain ⟨raster, some⟩ := Option.isSome_iff_exists.mp read
  have done : Raster.ofBytes content.printed 0 = .ok raster := toOption_eq_some_iff.mp some
  obtain ⟨-, colour, -⟩ := brightness_unless_deep proper content.isFile_printed done
  exact ⟨raster, done, (colour flat).2 0 (by decide) 0 (by decide) 0 (by decide)⟩

/-- One place in gray of sixteen bits. Not half as bright as can be, it becomes white. -/
theorem brightness_lost_in_deep_gray :
    Content.IsProper ⟨false, 1, 1, 65535, [30000]⟩ ∧ ∃ raster,
      Raster.ofBytes (Content.printed ⟨false, 1, 1, 65535, [30000]⟩) 0 = .ok raster ∧
      ¬ |(raster.picture.grid.sample 0 0 0 : ℚ) - 255 * 30000 / 65535| ≤ 1 := by
  let content : Content := ⟨false, 1, 1, 65535, [30000]⟩
  have read : (Raster.ofBytes content.printed 0).toOption.map
      (fun raster => raster.picture.grid.sample 0 0 0) = some 255 := by decide +kernel
  obtain ⟨raster, done, white⟩ := Option.map_eq_some_iff.mp read
  refine ⟨⟨by decide, by decide, by decide, by decide⟩, raster, toOption_eq_some_iff.mp done, ?_⟩
  rw [white]
  norm_num

end Raster

end Jp2Render
