import Jp2Render.Proofs.Arithmetic
import Jp2Render.Proofs.Binary64.Range
import Jp2Render.Proofs.Sequencing
import Jp2Render.Rotation

/-!
Turning. An angle without whole turns is unchanged by taking whole turns out again, but for one: an
angle just below zero is rounded to a full turn, which then is no turn. Both turn an image onto a
canvas of its own size, as long as its sides are not absurdly long. An image of such sides has a
bounding box for every angle that is a number; and any image that has one can be mapped onto it.
-/

namespace Jp2Render.Rotation

open Binary64 Arithmetic

def fullTurnUnits : Nat := 360 * unitsPerOne

theorem fullTurn_eq : fullTurn = .finite false fullTurnUnits := by
  rw [fullTurn, ofNat_eq 360, ofInt_of_lt (by decide), fullTurnUnits]

theorem fullTurnUnits_pos : 0 < fullTurnUnits := Nat.mul_pos (by decide) unitsPerOne_pos

theorem withinOneTurn_finite (negative : Bool) (units : Nat) :
    withinOneTurn (.finite negative units) =
      if units % fullTurnUnits = 0 then .finite false 0
      else if negative = false then .finite negative (units % fullTurnUnits)
      else .finite negative (units % fullTurnUnits) + .finite false fullTurnUnits := by
  rw [withinOneTurn, fullTurn_eq, floorMod, if_neg (Nat.ne_of_gt fullTurnUnits_pos)]

theorem below_add_fullTurn {units : Nat} (short : units < fullTurnUnits) :
    Binary64.finite true units + .finite false fullTurnUnits =
        .finite false (roundUnits (fullTurnUnits - units) 1) ∧
      roundUnits (fullTurnUnits - units) 1 ≤ fullTurnUnits := by
  have representable : Representable fullTurnUnits := representable_integer (by decide)
  have bound : roundUnits (fullTurnUnits - units) 1 ≤ fullTurnUnits :=
    roundUnits_le representable Nat.one_pos (by omega)
  have inside : roundUnits (fullTurnUnits - units) 1 < overflowUnits :=
    bound.trans_lt (integer_lt_overflow (by decide))
  refine ⟨?_, bound⟩
  -- the exact sum is positive and not zero, so it keeps its sign when it is rounded
  have some : ¬ (-(units : Int) + fullTurnUnits) = 0 := by omega
  have positive : ¬ (-(units : Int) + fullTurnUnits) < 0 := by omega
  have magnitude : (-(units : Int) + fullTurnUnits).natAbs = fullTurnUnits - units := by omega
  show Binary64.add _ _ = _
  rw [Binary64.add]
  simp only [signedUnits, if_true, Bool.false_eq_true, if_false, some, magnitude, positive,
    decide_false, ofUnits_finite inside]

theorem withinOneTurn_cases (degrees : Binary64) :
    withinOneTurn degrees = .nan ∨
      ∃ units ≤ fullTurnUnits, withinOneTurn degrees = .finite false units := by
  cases degrees with
  | nan => exact .inl rfl
  | infinite negative => exact .inl rfl
  | finite negative units =>
      have rest := Nat.mod_lt units fullTurnUnits_pos
      refine .inr ?_
      rw [withinOneTurn_finite]
      split
      · exact ⟨0, Nat.zero_le _, rfl⟩
      · cases negative with
        | false => exact ⟨_, Nat.le_of_lt rest, rfl⟩
        | true => exact ⟨_, (below_add_fullTurn rest).2, (below_add_fullTurn rest).1⟩

theorem withinOneTurn_of_lt {units : Nat} (short : units < fullTurnUnits) :
    withinOneTurn (.finite false units) = .finite false units := by
  rw [withinOneTurn_finite, Nat.mod_eq_of_lt short, if_pos rfl]
  split
  · simp_all
  · rfl

theorem withinOneTurn_idem (degrees : Binary64) (part : withinOneTurn degrees ≠ fullTurn) :
    withinOneTurn (withinOneTurn degrees) = withinOneTurn degrees := by
  rcases withinOneTurn_cases degrees with nan | ⟨units, within, turned⟩
  · rw [nan]
    rfl
  · rw [turned] at part ⊢
    refine withinOneTurn_of_lt (Nat.lt_of_le_of_ne within fun full => part ?_)
    rw [full, fullTurn_eq]

/-!
An angle of a full turn, or of none, has the cosine one, and a sine below anything that the sides
of an image could make visible.
-/

structure IsUpright (degrees : Binary64) : Prop where
  cos : (angle degrees).cos.abs = .finite false unitsPerOne
  sin : ∃ units ≤ 2 ^ 1023, (angle degrees).sin.abs = .finite false units

theorem isUpright_fullTurn : IsUpright fullTurn where
  cos := by decide +kernel
  sin := ⟨0, Nat.zero_le _, by decide +kernel⟩

theorem isUpright_of_withinOneTurn {degrees : Binary64} (full : withinOneTurn degrees = fullTurn) :
    IsUpright degrees := by
  have cos : fullTurn.radians.cos.abs = .finite false unitsPerOne := by decide +kernel
  have sin : fullTurn.radians.sin.abs = .finite false (4967757600021511 * 2 ^ 970) := by
    decide +kernel
  constructor
  · rw [angle, full, cos]
  · -- the sine of the rounded full turn is not zero, but below 2⁻⁵¹
    rw [angle, full, sin]
    exact ⟨_, by decide +kernel, rfl⟩

theorem timesInteger_cos {side : Nat} (short : side < 2 ^ 53) :
    timesInteger (.finite false unitsPerOne) side = .ok (.finite false (side * unitsPerOne)) := by
  have kept : roundUnits (unitsPerOne * (side * unitsPerOne)) unitsPerOne = side * unitsPerOne := by
    rw [Nat.mul_comm]
    exact roundUnits_mul (representable_integer short) unitsPerOne_pos
  have inside : side * unitsPerOne < overflowUnits := integer_lt_overflow short
  rw [timesInteger, toReal_of_lt short]
  show Except.ok _ = _
  rw [finite_mul_finite, kept, bne_self_eq_false, ofUnits_finite inside]

theorem timesInteger_sin {units side : Nat} (small : units ≤ 2 ^ 1023) (short : side < 2 ^ 31) :
    ∃ rest ≤ 2 ^ 1072, timesInteger (.finite false units) side = .ok (.finite false rest) := by
  have bound : roundUnits (units * (side * unitsPerOne)) unitsPerOne ≤ 2 ^ 1072 := by
    apply roundUnits_le _ unitsPerOne_pos
    · calc units * (side * unitsPerOne) = units * side * unitsPerOne := by ring
        _ ≤ 2 ^ 1023 * 2 ^ 31 * unitsPerOne :=
          Nat.mul_le_mul_right _ (Nat.mul_le_mul small (Nat.le_of_lt short))
        _ ≤ 2 ^ 1072 * unitsPerOne := by
          rw [← Nat.pow_add]
          apply Nat.mul_le_mul_right
          apply Nat.pow_le_pow_right
          · decide
          · decide
    · -- a power of two is a number
      exact ⟨1, 1072, by decide, (Nat.one_mul _).symm⟩
  have inside : roundUnits (units * (side * unitsPerOne)) unitsPerOne < overflowUnits := by
    have quarters := unitsPerOne_eq_quarters
    have whole := unitsPerOne_lt_overflow
    omega
  refine ⟨_, bound, ?_⟩
  rw [timesInteger, toReal_of_lt (short.trans (by decide))]
  show Except.ok _ = _
  rw [finite_mul_finite, bne_self_eq_false, ofUnits_finite inside]

theorem nearest_side {side rest : Nat} (short : side < 2 ^ 31) (small : rest ≤ 2 ^ 1072) :
    nearest (.finite false (side * unitsPerOne) + .finite false rest) = .ok side := by
  have low : side * unitsPerOne ≤ roundUnits (side * unitsPerOne + rest) 1 :=
    le_roundUnits (representable_integer (short.trans (by decide))) Nat.one_pos (by omega)
  have high : roundUnits (side * unitsPerOne + rest) 1 ≤ side * unitsPerOne + 2 ^ 1072 :=
    roundUnits_le (representable_quarter (short.trans (by decide))) Nat.one_pos (by omega)
  have inside : roundUnits (side * unitsPerOne + rest) 1 < overflowUnits := by
    have quarters := unitsPerOne_eq_quarters
    calc roundUnits (side * unitsPerOne + rest) 1 ≤ side * unitsPerOne + 2 ^ 1072 := high
      _ ≤ (side + 1) * unitsPerOne := by
        rw [Nat.add_mul, Nat.one_mul]
        omega
      _ < overflowUnits := integer_lt_overflow (by omega)
  rw [finite_add_finite, ofUnits_finite inside]
  exact nearest_of_near low high

/-- A side of a bounding box: what the cosine makes of the one side of the image, and the sine of the
other. -/
def IsTurnedSide (cos sin : Binary64) (along across result : Int) : Prop :=
  ∃ straight slanted, timesInteger cos along = .ok straight ∧
    timesInteger sin across = .ok slanted ∧ nearest (straight + slanted) = .ok result

theorem boundingBox_binary64 (source : Dimensions) (degrees : Binary64) :
    boundingBox source degrees = do
      let cos := (angle degrees).cos.abs
      let sin := (angle degrees).sin.abs
      let wide ← nearest ((← timesInteger cos source.width) + (← timesInteger sin source.height))
      let high ← nearest ((← timesInteger sin source.width) + (← timesInteger cos source.height))
      return ⟨max 1 wide, max 1 high⟩ := rfl

theorem boundingBox_eq_ok_iff {source box : Dimensions} {degrees : Binary64} :
    boundingBox source degrees = .ok box ↔
      ∃ wide high,
        IsTurnedSide (angle degrees).cos.abs (angle degrees).sin.abs source.width source.height wide ∧
        IsTurnedSide (angle degrees).cos.abs (angle degrees).sin.abs source.height source.width high ∧
        box = ⟨max 1 wide, max 1 high⟩ := by
  simp only [boundingBox_binary64, bind_eq_ok_iff, pure_eq_ok_iff]
  constructor
  · rintro ⟨cosWidth, first, sinHeight, second, wide, third, sinWidth, fourth, cosHeight, fifth,
      high, sixth, rfl⟩
    refine ⟨wide, high, ⟨_, _, first, second, third⟩, ⟨_, _, fifth, fourth, ?_⟩, rfl⟩
    rwa [Binary64.add_comm]
  · rintro ⟨wide, high, ⟨cosWidth, sinHeight, first, second, third⟩,
      ⟨cosHeight, sinWidth, fifth, fourth, sixth⟩, rfl⟩
    rw [Binary64.add_comm] at sixth
    exact ⟨_, first, _, second, _, third, _, fourth, _, fifth, _, sixth, rfl⟩

theorem isTurnedSide_of_upright {degrees : Binary64} (upright : IsUpright degrees)
    {along across : Nat} (short : along < 2 ^ 31) (short' : across < 2 ^ 31) :
    IsTurnedSide (angle degrees).cos.abs (angle degrees).sin.abs along across along := by
  obtain ⟨cos, units, small, sin⟩ := upright
  obtain ⟨rest, small', slanted⟩ := timesInteger_sin small short'
  refine ⟨_, _, ?_, ?_, nearest_side short small'⟩
  · rw [cos, timesInteger_cos (short.trans (by decide))]
  · rw [sin, slanted]

theorem le_of_isTurnedSide (n : Nat) {units along across : Nat} {result : Int}
    (turned : IsTurnedSide (.finite false unitsPerOne) (.finite false units) along across result)
    (long : n ≤ along) (small : n < 2 ^ 53) : n ≤ result := by
  obtain ⟨straight, slanted, first, second, sum⟩ := turned
  have representable := representable_integer small
  have above : n * unitsPerOne ≤
      roundUnits (unitsPerOne * roundUnits (along * unitsPerOne) 1) unitsPerOne := by
    apply le_roundUnits representable unitsPerOne_pos
    rw [Nat.mul_comm unitsPerOne]
    apply Nat.mul_le_mul_right
    apply le_roundUnits representable Nat.one_pos
    rw [Nat.mul_one]
    exact Nat.mul_le_mul_right _ long
  rw [timesInteger_units first, timesInteger_units second] at sum
  exact le_nearest_add representable above sum

theorem boundingBox_of_upright {degrees : Binary64} (upright : IsUpright degrees)
    {width height : Nat} (narrow : width < 2 ^ 31) (low : height < 2 ^ 31) :
    boundingBox ⟨width, height⟩ degrees = .ok ⟨max 1 width, max 1 height⟩ :=
  boundingBox_eq_ok_iff.mpr ⟨width, height, isTurnedSide_of_upright upright narrow low,
    isTurnedSide_of_upright upright low narrow, rfl⟩

/-- An image that an upright angle turns onto a canvas of short sides has short sides itself. -/
theorem lt_of_boundingBox_upright {degrees : Binary64} (upright : IsUpright degrees)
    {width height : Nat} {box : Dimensions} (turned : boundingBox ⟨width, height⟩ degrees = .ok box)
    (narrow : box.width < 2 ^ 31) (low : box.height < 2 ^ 31) :
    width < 2 ^ 31 ∧ height < 2 ^ 31 := by
  obtain ⟨wide, high, first, second, rfl⟩ := boundingBox_eq_ok_iff.mp turned
  obtain ⟨cos, units, -, sin⟩ := upright
  rw [cos, sin] at first second
  constructor
  · by_contra long
    have := le_of_isTurnedSide (2 ^ 31) first (by omega) (by decide)
    simp only at narrow
    omega
  · by_contra long
    have := le_of_isTurnedSide (2 ^ 31) second (by omega) (by decide)
    simp only at low
    omega

/-- Taking whole turns out before turning makes no difference to canvases of short sides. -/
theorem boundingBox_normalized {rotation : Rotation} {width height : Nat} {box : Dimensions}
    (turned : boundingBox ⟨width, height⟩ rotation.normalized = .ok box)
    (narrow : box.width < 2 ^ 31) (low : box.height < 2 ^ 31) :
    boundingBox ⟨width, height⟩ rotation.degrees = .ok box := by
  by_cases full : withinOneTurn rotation.degrees = fullTurn
  · rw [normalized, full] at turned
    obtain ⟨narrow', low'⟩ := lt_of_boundingBox_upright isUpright_fullTurn turned narrow low
    rw [boundingBox_of_upright isUpright_fullTurn narrow' low'] at turned
    rw [boundingBox_of_upright (isUpright_of_withinOneTurn full) narrow' low', turned]
  · have same : angle rotation.normalized = angle rotation.degrees := by
      rw [angle, normalized, withinOneTurn_idem rotation.degrees full, angle]
    rw [boundingBox_eq_ok_iff, same] at turned
    exact boundingBox_eq_ok_iff.mpr turned

/-!
No cosine and no sine passes one, so the bounding box of an image is no longer than both of its sides
together. Only an angle that is no number has none.
-/

theorem abs_ofSum (negative : Bool) (magnitude : Nat) {one : Nat} (positive : 0 < one) :
    ∃ units ≤ unitsPerOne, (ofSum negative magnitude one).abs = .finite false units := by
  have representable : Representable unitsPerOne := by
    have one := representable_integer (by decide : 1 < 2 ^ 53)
    rwa [Nat.one_mul] at one
  have bound : roundUnits (min magnitude one * unitsPerOne) one ≤ unitsPerOne := by
    apply roundUnits_le representable positive
    rw [Nat.mul_comm]
    exact Nat.mul_le_mul_left _ (Nat.min_le_right _ _)
  have inside : roundUnits (min magnitude one * unitsPerOne) one < overflowUnits :=
    bound.trans_lt unitsPerOne_lt_overflow
  refine ⟨_, bound, ?_⟩
  rw [ofSum, ofRatio, ofUnits_finite inside, Binary64.abs]

theorem cos_sin_cases (x : Binary64) :
    (x.cos.abs = .nan ∧ x.sin.abs = .nan) ∨
      ∃ straight ≤ unitsPerOne, ∃ slanted ≤ unitsPerOne,
        x.cos.abs = .finite false straight ∧ x.sin.abs = .finite false slanted := by
  cases x with
  | nan => exact .inl ⟨rfl, rfl⟩
  | infinite negative => exact .inl ⟨rfl, rfl⟩
  | finite negative units =>
      have unit : 0 < seriesUnit := Nat.two_pow_pos 256
      obtain ⟨straight, within, cos⟩ := abs_ofSum _ _ unit
      obtain ⟨slanted, within', sin⟩ := abs_ofSum _ _ (Nat.mul_pos unitsPerOne_pos unit)
      exact .inr ⟨straight, within, slanted, within', cos, sin⟩

theorem timesInteger_part {units side : Nat} (within : units ≤ unitsPerOne)
    (short : side < 2 ^ 31) :
    ∃ part ≤ side * unitsPerOne,
      timesInteger (.finite false units) side = .ok (.finite false part) := by
  have small : side < 2 ^ 53 := short.trans (by decide)
  have bound : roundUnits (units * (side * unitsPerOne)) unitsPerOne ≤ side * unitsPerOne := by
    apply roundUnits_le (representable_integer small) unitsPerOne_pos
    rw [Nat.mul_comm units]
    exact Nat.mul_le_mul_left _ within
  have inside : roundUnits (units * (side * unitsPerOne)) unitsPerOne < overflowUnits :=
    bound.trans_lt (integer_lt_overflow small)
  refine ⟨_, bound, ?_⟩
  rw [timesInteger, toReal_of_lt small]
  show Except.ok _ = _
  rw [finite_mul_finite, bne_self_eq_false, ofUnits_finite inside]

theorem nearest_parts {first second along across : Nat} (within : first ≤ along * unitsPerOne)
    (within' : second ≤ across * unitsPerOne) (short : along < 2 ^ 31) (short' : across < 2 ^ 31) :
    ∃ sum ≤ along + across,
      nearest (.finite false first + .finite false second) = .ok (sum : Nat) := by
  have bound : roundUnits (first + second) 1 ≤ (along + across) * unitsPerOne := by
    apply roundUnits_le (representable_integer (by omega)) Nat.one_pos
    rw [Nat.mul_one, Nat.add_mul]
    exact Nat.add_le_add within within'
  have inside : roundUnits (first + second) 1 < overflowUnits :=
    bound.trans_lt (integer_lt_overflow (by omega))
  refine ⟨_, roundQuotient_le unitsPerOne_pos bound, ?_⟩
  rw [finite_add_finite, ofUnits_finite inside, nearest_finite]

theorem boundingBox_short {width height : Nat} (narrow : width < 2 ^ 31) (low : height < 2 ^ 31)
    (degrees : Binary64) :
    boundingBox ⟨width, height⟩ degrees = .error .notANumberHasNoInteger ∨
      ∃ box : Dimensions, boundingBox ⟨width, height⟩ degrees = .ok box ∧
        box.IsPositive ∧ box.width ≤ 2 ^ 32 ∧ box.height ≤ 2 ^ 32 := by
  -- an angle that is no number has no box; of any other the cosine and the sine are at most one
  rcases cos_sin_cases (angle degrees) with ⟨cos, sin⟩ | ⟨straight, within, slanted, within', cos, sin⟩
  · left
    have wide : timesInteger .nan width = .ok .nan := by
      rw [timesInteger, toReal_of_lt (narrow.trans (by decide))]
      rfl
    have high : timesInteger .nan height = .ok .nan := by
      rw [timesInteger, toReal_of_lt (low.trans (by decide))]
      rfl
    simp only [boundingBox_binary64, cos, sin, wide, high, ok_bind]
    rfl
  · right
    obtain ⟨a, inA, first⟩ := timesInteger_part within narrow
    obtain ⟨b, inB, second⟩ := timesInteger_part within' low
    obtain ⟨c, inC, third⟩ := timesInteger_part within low
    obtain ⟨d, inD, fourth⟩ := timesInteger_part within' narrow
    obtain ⟨wide, short, sum⟩ := nearest_parts inA inB narrow low
    obtain ⟨high, short', sum'⟩ := nearest_parts inC inD low narrow
    rw [← cos] at first third
    rw [← sin] at second fourth
    refine ⟨_, boundingBox_eq_ok_iff.mpr ⟨wide, high, ⟨_, _, first, second, sum⟩,
      ⟨_, _, third, fourth, sum'⟩, rfl⟩, ?_⟩
    simp only [Dimensions.IsPositive]
    omega

theorem centre_eq_ok (origin : PixelOrigin) {side : Int} (inside : side.natAbs < integerRange) :
    ∃ x : Binary64, centre origin side = .ok x := by
  have whole : TurningNumber.ofPixels side = .ok (ofInt side) := toReal_ofInt inside
  rw [centre, whole]
  exact ⟨_, rfl⟩

theorem timesInteger_inside {x y : Binary64} {side : Int} (done : timesInteger x side = .ok y) :
    side.natAbs < integerRange := by
  obtain ⟨real, read, -⟩ := bind_eq_ok_iff.mp done
  exact ((toReal_eq_ok_iff side real).mp read).1

theorem IsTurnedSide.inside {cos sin : Binary64} {along across result : Int}
    (turned : IsTurnedSide cos sin along across result) :
    along.natAbs < integerRange ∧ across.natAbs < integerRange ∧
      (max 1 result).natAbs < integerRange := by
  obtain ⟨straight, slanted, first, second, sum⟩ := turned
  have whole := nearest_lt_integerRange (rounded_add straight slanted).inRange sum
  have one : 1 < integerRange := @two_pow_lt_integerRange 0 (by decide)
  refine ⟨timesInteger_inside first, timesInteger_inside second, ?_⟩
  omega

theorem canvasAndMap_of_boundingBox {source box : Dimensions} {degrees : Binary64}
    (origin : PixelOrigin) (bounded : boundingBox source degrees = .ok box) :
    ∃ map, canvasAndMap source degrees origin = .ok (box, map) := by
  obtain ⟨wide, high, first, second, rfl⟩ := boundingBox_eq_ok_iff.mp bounded
  obtain ⟨columns, rows, inside⟩ := first.inside
  obtain ⟨imageX, third⟩ := centre_eq_ok origin columns
  obtain ⟨imageY, fourth⟩ := centre_eq_ok origin rows
  obtain ⟨canvasX, fifth⟩ := centre_eq_ok origin inside
  obtain ⟨canvasY, sixth⟩ := centre_eq_ok origin second.inside.2.2
  rw [canvasAndMap, bounded, ok_bind, third, ok_bind, fourth, ok_bind, fifth, ok_bind, sixth]
  exact ⟨_, rfl⟩

theorem isPositive_boundingBox {source box : Dimensions} {degrees : Binary64}
    (bounded : boundingBox source degrees = .ok box) : box.IsPositive := by
  obtain ⟨wide, high, -, -, rfl⟩ := boundingBox_eq_ok_iff.mp bounded
  exact ⟨Int.le_max_left 1 wide, Int.le_max_left 1 high⟩

end Jp2Render.Rotation
