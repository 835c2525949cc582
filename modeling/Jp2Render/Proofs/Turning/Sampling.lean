import Jp2Render.Rotation
import Mathlib.Analysis.SpecialFunctions.Trigonometric.Basic
import Mathlib.Tactic.Linarith

/-!
Sampling a turned image. In exact numbers the canvas and the map do not depend on where pixels are
addressed, at their corners or at their centres: both maps sample the same places, half a pixel apart in
their coordinates. A quarter of a turn takes each pixel to a pixel, so an image that is turned by whole
quarters has all of its pixels, each of them once.
-/

namespace Jp2Render

namespace Rotation

/-- The integer nearest to an exact number, the even one of two that are as near. -/
noncomputable def nearestPixel (x : ℝ) : ℤ :=
  if Int.fract x < 1 / 2 then ⌊x⌋
  else if 1 / 2 < Int.fract x then ⌊x⌋ + 1
  else if Even ⌊x⌋ then ⌊x⌋ else ⌊x⌋ + 1

theorem nearestPixel_intCast (z : ℤ) : nearestPixel z = z := by
  rw [nearestPixel, Int.fract_intCast, if_pos (by norm_num), Int.floor_intCast]

noncomputable def exactAngle (degrees : ℝ) : ℝ := 360 * Int.fract (degrees / 360) * (Real.pi / 180)

noncomputable instance : TurningNumber ℝ where
  cosine degrees := Real.cos (exactAngle degrees)
  sine degrees := Real.sin (exactAngle degrees)
  magnitude x := |x|
  ofPixels pixels := .ok pixels
  toPixels x := .ok (nearestPixel x)

open TurningNumber

theorem exactAngle_add_turns (degrees : ℝ) (turns : ℤ) :
    exactAngle (degrees + 360 * turns) = exactAngle degrees := by
  have split : (degrees + 360 * turns) / 360 = degrees / 360 + turns := by ring
  rw [exactAngle, split, Int.fract_add_intCast, exactAngle]

theorem exactAngle_eq (degrees : ℝ) :
    exactAngle degrees = degrees * (Real.pi / 180) - ⌊degrees / 360⌋ * (2 * Real.pi) := by
  rw [exactAngle, Int.fract]
  ring

theorem cosine_eq (degrees : ℝ) : cosine degrees = Real.cos (degrees * (Real.pi / 180)) := by
  show Real.cos _ = _
  rw [exactAngle_eq, Real.cos_sub_int_mul_two_pi]

theorem sine_eq (degrees : ℝ) : sine degrees = Real.sin (degrees * (Real.pi / 180)) := by
  show Real.sin _ = _
  rw [exactAngle_eq, Real.sin_sub_int_mul_two_pi]

theorem cosine_add_quarter (degrees : ℝ) : cosine (degrees + 90) = -sine degrees := by
  have quarter : (degrees + 90) * (Real.pi / 180) = degrees * (Real.pi / 180) + Real.pi / 2 := by ring
  rw [cosine_eq, sine_eq, quarter, Real.cos_add_pi_div_two]

theorem sine_add_quarter (degrees : ℝ) : sine (degrees + 90) = cosine degrees := by
  have quarter : (degrees + 90) * (Real.pi / 180) = degrees * (Real.pi / 180) + Real.pi / 2 := by ring
  rw [cosine_eq, sine_eq, quarter, Real.sin_add_pi_div_two]

/-- The bounding box of an image that is turned by the angle of a cosine and a sine. -/
noncomputable def exactBox (cos sin : ℝ) (source : Dimensions) : Dimensions where
  width := max 1 (nearestPixel (|cos| * source.width + |sin| * source.height))
  height := max 1 (nearestPixel (|sin| * source.width + |cos| * source.height))

noncomputable def exactMap (cos sin : ℝ) (source : Dimensions) (origin : PixelOrigin) : AffineMap ℝ :=
  .turningBack cos sin (source.width / 2 - origin.offset) (source.height / 2 - origin.offset)
    ((exactBox cos sin source).width / 2 - origin.offset)
    ((exactBox cos sin source).height / 2 - origin.offset)

theorem canvasAndMap_exact (source : Dimensions) (degrees : ℝ) (origin : PixelOrigin) :
    canvasAndMap source degrees origin =
      .ok (exactBox (cosine degrees) (sine degrees) source,
        exactMap (cosine degrees) (sine degrees) source origin) := rfl

theorem exactMap_centre (cos sin : ℝ) (source : Dimensions) (x y : ℝ) :
    (exactMap cos sin source .centre).apply x y =
      (exactMap cos sin source .corner).apply (x + 1 / 2) (y + 1 / 2) - (1 / 2, 1 / 2) := by
  simp only [exactMap, AffineMap.turningBack, AffineMap.apply, PixelOrigin.offset, Prod.mk_sub_mk,
    Prod.mk.injEq]
  constructor <;> ring

end Rotation

namespace Dimensions

/-- The places of an image's pixels, column and row. -/
def pixels (d : Dimensions) : Set (ℤ × ℤ) :=
  {p | (0 ≤ p.1 ∧ p.1 < d.width) ∧ 0 ≤ p.2 ∧ p.2 < d.height}

def swapped (d : Dimensions) : Dimensions := ⟨d.height, d.width⟩

/-- Where a quarter of a turn, clockwise, takes a pixel: the last row becomes the first column. -/
def quarterTurn (d : Dimensions) (p : ℤ × ℤ) : ℤ × ℤ := (d.height - 1 - p.2, p.1)

/-- The dimensions after some quarters of a turn. -/
def afterQuarters : ℕ → Dimensions → Dimensions
  | 0, d => d
  | quarters + 1, d => afterQuarters quarters d.swapped

/-- Where so many quarters of a turn, clockwise, take a pixel. -/
def turned : ℕ → Dimensions → ℤ × ℤ → ℤ × ℤ
  | 0, _, p => p
  | quarters + 1, d, p => turned quarters d.swapped (d.quarterTurn p)

theorem IsPositive.swapped {d : Dimensions} (positive : d.IsPositive) : d.swapped.IsPositive :=
  ⟨positive.2, positive.1⟩

theorem bijOn_quarterTurn (d : Dimensions) : Set.BijOn d.quarterTurn d.pixels d.swapped.pixels := by
  have back : Set.InvOn (fun p : ℤ × ℤ => (p.2, d.height - 1 - p.1)) d.quarterTurn d.pixels
      d.swapped.pixels := by
    constructor
    · rintro ⟨column, row⟩ -
      simp only [quarterTurn, Prod.mk.injEq, true_and]
      omega
    · rintro ⟨column, row⟩ -
      simp only [quarterTurn, Prod.mk.injEq, and_true]
      omega
  refine back.bijOn ?_ ?_
  · rintro ⟨column, row⟩ inside
    simp only [pixels, swapped, quarterTurn, Set.mem_ofPred_eq] at inside ⊢
    omega
  · rintro ⟨column, row⟩ inside
    simp only [pixels, swapped, Set.mem_ofPred_eq] at inside ⊢
    omega

theorem bijOn_turned (quarters : ℕ) (d : Dimensions) :
    Set.BijOn (turned quarters d) d.pixels (afterQuarters quarters d).pixels := by
  induction quarters generalizing d with
  | zero => exact Set.bijOn_id _
  | succ quarters ih => exact (ih d.swapped).comp d.bijOn_quarterTurn

/-- The point at a pixel's address. -/
def address (p : ℤ × ℤ) : ℝ × ℝ := (p.1, p.2)

theorem address_injective : Function.Injective address := by
  intro p q same
  simpa [address, Prod.ext_iff] using same

end Dimensions

namespace Rotation

open TurningNumber Dimensions

theorem exactBox_quarter (cos sin : ℝ) (d : Dimensions) :
    exactBox (-sin) cos d = exactBox cos sin d.swapped := by
  simp only [exactBox, swapped, abs_neg, add_comm]

theorem exactMap_quarter (cos sin : ℝ) (d : Dimensions) (x y : ℝ) :
    (exactMap (-sin) cos d .centre).apply x y =
      (((exactMap cos sin d.swapped .centre).apply x y).2,
        d.height - 1 - ((exactMap cos sin d.swapped .centre).apply x y).1) := by
  rw [exactMap, exactBox_quarter, exactMap]
  simp only [swapped, AffineMap.turningBack, AffineMap.apply, PixelOrigin.offset, Prod.mk.injEq,
    true_and]
  ring

theorem exactBox_none {d : Dimensions} (positive : d.IsPositive) : exactBox 1 0 d = d := by
  obtain ⟨wide, high⟩ := positive
  simp only [exactBox, abs_one, abs_zero, one_mul, zero_mul, add_zero, zero_add, nearestPixel_intCast,
    max_eq_right wide, max_eq_right high]

theorem exact_quarters (quarters : ℕ) {d : Dimensions} (positive : d.IsPositive) :
    exactBox (cosine (90 * quarters : ℝ)) (sine (90 * quarters : ℝ)) d = afterQuarters quarters d ∧
      ∀ p : ℤ × ℤ,
        (exactMap (cosine (90 * quarters : ℝ)) (sine (90 * quarters : ℝ)) d .centre).apply
          (address (turned quarters d p)).1 (address (turned quarters d p)).2 = address p := by
  -- a further quarter is turned first, which swaps the sides of the image
  induction quarters generalizing d with
  | zero =>
      have cos : cosine (90 * (0 : ℕ) : ℝ) = 1 := by simp [cosine_eq]
      have sin : sine (90 * (0 : ℕ) : ℝ) = 0 := by simp [sine_eq]
      rw [cos, sin]
      refine ⟨exactBox_none positive, fun p => ?_⟩
      simp only [exactMap, exactBox_none positive, AffineMap.turningBack, AffineMap.apply, turned,
        address, Prod.mk.injEq]
      constructor <;> ring
  | succ quarters ih =>
      have more : (90 * (quarters + 1 : ℕ) : ℝ) = 90 * quarters + 90 := by push_cast; ring
      obtain ⟨box, sampled⟩ := ih positive.swapped
      rw [more, cosine_add_quarter, sine_add_quarter, exactBox_quarter]
      refine ⟨box, fun p => ?_⟩
      rw [exactMap_quarter, turned, sampled]
      simp only [address, quarterTurn, Prod.mk.injEq, true_and]
      push_cast
      ring

theorem canvasAndMap_add_turns (source : Dimensions) (degrees : ℝ) (turns : ℤ) (origin : PixelOrigin) :
    canvasAndMap source (degrees + 360 * turns) origin = canvasAndMap source degrees origin := by
  have cos : cosine (degrees + 360 * turns) = cosine degrees :=
    congrArg Real.cos (exactAngle_add_turns degrees turns)
  have sin : sine (degrees + 360 * turns) = sine degrees :=
    congrArg Real.sin (exactAngle_add_turns degrees turns)
  rw [canvasAndMap_exact, canvasAndMap_exact, cos, sin]

theorem bijOn_of_sampled {map : ℝ × ℝ → ℝ × ℝ} {turn : ℤ × ℤ → ℤ × ℤ} {source canvas : Set (ℤ × ℤ)}
    (moved : Set.BijOn turn source canvas) (sampled : ∀ p, map (address (turn p)) = address p) :
    Set.BijOn map (address '' canvas) (address '' source) := by
  refine ⟨?_, ?_, ?_⟩
  · rintro _ ⟨q, inside, rfl⟩
    obtain ⟨p, member, rfl⟩ := moved.surjOn inside
    exact ⟨p, member, (sampled p).symm⟩
  · rintro _ ⟨q, inside, rfl⟩ _ ⟨q', inside', rfl⟩ same
    obtain ⟨p, -, rfl⟩ := moved.surjOn inside
    obtain ⟨p', -, rfl⟩ := moved.surjOn inside'
    rw [sampled, sampled] at same
    rw [address_injective same]
  · rintro _ ⟨p, member, rfl⟩
    exact ⟨_, ⟨_, moved.mapsTo member, rfl⟩, sampled p⟩

/-- In exact numbers both ways of addressing pixels give one canvas, and maps that sample the same places.
An image that is turned by whole quarters is sampled at each of its pixels once, and each pixel is where
the turn, clockwise, takes it. -/
theorem sampling_exact :
    (∀ (source : Dimensions) (degrees : ℝ), ∃ canvas corner centred,
      canvasAndMap source degrees .corner = .ok (canvas, corner) ∧
      canvasAndMap source degrees .centre = .ok (canvas, centred) ∧
      ∀ x y, centred.apply x y = corner.apply (x + 1 / 2) (y + 1 / 2) - (1 / 2, 1 / 2)) ∧
    ∀ (source : Dimensions) (quarters : ℤ), source.IsPositive → ∃ canvas map,
      canvasAndMap source (90 * quarters : ℝ) .centre = .ok (canvas, map) ∧
      canvas = afterQuarters (quarters % 4).toNat source ∧
      Set.BijOn (fun point => map.apply point.1 point.2) (address '' canvas.pixels)
        (address '' source.pixels) ∧
      ∀ p ∈ source.pixels, turned (quarters % 4).toNat source p ∈ canvas.pixels ∧
        map.apply (address (turned (quarters % 4).toNat source p)).1
          (address (turned (quarters % 4).toNat source p)).2 = address p := by
  refine ⟨fun source degrees => ?_, fun source quarters positive => ?_⟩
  · exact ⟨_, _, _, canvasAndMap_exact source degrees .corner, canvasAndMap_exact source degrees .centre,
      exactMap_centre _ _ source⟩
  · -- three quarters at most, and whole turns, which change nothing
    have rest : ((quarters % 4).toNat : ℤ) = quarters % 4 := Int.toNat_of_nonneg (by omega)
    have degrees : (90 * quarters : ℝ) = 90 * (quarters % 4).toNat + 360 * (quarters / 4 : ℤ) := by
      have parts : quarters = (quarters % 4).toNat + 4 * (quarters / 4) := by omega
      have exact : (quarters : ℝ) = (quarters % 4).toNat + 4 * (quarters / 4 : ℤ) := by exact_mod_cast parts
      rw [exact]
      ring
    obtain ⟨box, sampled⟩ := exact_quarters (quarters % 4).toNat positive
    have moved := bijOn_turned (quarters % 4).toNat source
    rw [degrees, canvasAndMap_add_turns]
    refine ⟨_, _, canvasAndMap_exact source _ .centre, box, ?_, fun p inside => ?_⟩
    · rw [box]
      exact bijOn_of_sampled moved sampled
    · rw [box]
      exact ⟨moved.mapsTo inside, sampled p⟩

/-- A turn and a quarter take the pixel at the bottom left to the top left. -/
theorem sampling_exact_quarter : ∃ map : AffineMap ℝ,
    canvasAndMap ⟨3, 2⟩ (90 * (5 : ℤ) : ℝ) .centre = .ok (⟨2, 3⟩, map) ∧ map.apply 0 0 = (0, 1) := by
  obtain ⟨canvas, map, made, size, -, sampled⟩ := sampling_exact.2 ⟨3, 2⟩ 5 ⟨by decide, by decide⟩
  have bottomLeft := sampled (0, 1) ⟨⟨by decide, by decide⟩, by decide, by decide⟩
  refine ⟨map, ?_, ?_⟩
  · rw [made, size]
    rfl
  · simpa [address, turned, quarterTurn] using bottomLeft.2

end Rotation

end Jp2Render
