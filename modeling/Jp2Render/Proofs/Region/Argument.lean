import Jp2Render.Proofs.Binary64.Decimal
import Jp2Render.Proofs.Reduction.Target
import Jp2Render.Region
import Mathlib.Data.Rat.Floor

/-!
The decoder's region argument read back. Its four decimals have seven places, and up to sides of ten
million that is enough to tell one pixel from the next: times the sides, each decimal is nearest to the
whole number of pixels that it was made from. So the argument of a rectangle of whole pixels is no other
rectangle's.
-/

namespace Jp2Render

structure WholeRectangle where
  x : ℤ
  y : ℤ
  width : ℤ
  height : ℤ
deriving DecidableEq, Repr

structure Rectangle.IsWhole (r : Rectangle) (whole : WholeRectangle) : Prop where
  x : r.x.IsInteger whole.x
  y : r.y.IsInteger whole.y
  width : r.width.IsInteger whole.width
  height : r.height.IsInteger whole.height

/-- No number is below zero or beyond the side that it is measured along. -/
structure WholeRectangle.Within (whole : WholeRectangle) (full : Dimensions) : Prop where
  x : 0 ≤ whole.x ∧ whole.x ≤ full.width
  y : 0 ≤ whole.y ∧ whole.y ≤ full.height
  width : 0 ≤ whole.width ∧ whole.width ≤ full.width
  height : 0 ≤ whole.height ∧ whole.height ≤ full.height

/-- Fractions of the sides of an image, as a region argument states them. -/
structure Fractions where
  top : ℚ
  left : ℚ
  height : ℚ
  width : ℚ

namespace Fractions

def pair? (cs : List Char) : Option ((ℚ × ℚ) × List Char) := do
  let opened ← Text.after? ['\x7b'] cs
  let (pair, rest) ← Text.cut? '\x7d' opened
  let (first, second) ← Text.cut? ',' pair
  return ((← Text.decimal? first, ← Text.decimal? second), rest)

def read? (text : String) : Option Fractions := do
  let ((top, left), rest) ← pair? text.toList
  let rest ← Text.after? [','] rest
  let ((height, width), rest) ← pair? rest
  if rest.isEmpty then some { top, left, height, width } else none

def pixels (full : Dimensions) (fractions : Fractions) : WholeRectangle where
  x := round (fractions.left * full.width)
  y := round (fractions.top * full.height)
  width := round (fractions.width * full.width)
  height := round (fractions.height * full.height)

variable {first second : Binary64} {value value' : ℚ}

theorem pair?_fractionPair (finite : first.isFinite = true) (finite' : second.isFinite = true)
    (read : Text.decimal? (first.fixedText 7).toList = some value)
    (read' : Text.decimal? (second.fixedText 7).toList = some value') (rest : List Char) :
    pair? ((Region.fractionPair first second).toList ++ rest) = some ((value, value'), rest) := by
  have plain : ∀ {x : Binary64} {c : Char}, x.isFinite = true → c ∈ (x.fixedText 7).toList →
      c.isDigit = true ∨ c = '.' ∨ c = '-' := fun finite => Binary64.mem_fixedText finite (by decide)
  have comma : ',' ∉ (first.fixedText 7).toList := fun member =>
    absurd (plain finite member) (by decide)
  have brace : '\x7d' ∉ (first.fixedText 7).toList ++ ',' :: (second.fixedText 7).toList := by
    rw [List.mem_append, List.mem_cons]
    rintro (early | comma | late)
    · exact absurd (plain finite early) (by decide)
    · exact absurd comma (by decide)
    · exact absurd (plain finite' late) (by decide)
  have shape : (Region.fractionPair first second).toList ++ rest = '\x7b' ::
      ((first.fixedText 7).toList ++ ',' :: (second.fixedText 7).toList ++ '\x7d' :: rest) := by
    simp [Region.fractionPair]
  have closed := Text.cut?_append brace rest
  rw [List.append_assoc, List.cons_append] at closed
  simp [shape, pair?, Text.after?, closed, Text.cut?_append comma, read, read']

theorem read?_fractionPairs {top left height width : Binary64} {t l h w : ℚ}
    (finite : top.isFinite = true ∧ left.isFinite = true ∧ height.isFinite = true ∧
      width.isFinite = true)
    (readTop : Text.decimal? (top.fixedText 7).toList = some t)
    (readLeft : Text.decimal? (left.fixedText 7).toList = some l)
    (readHeight : Text.decimal? (height.fixedText 7).toList = some h)
    (readWidth : Text.decimal? (width.fixedText 7).toList = some w) :
    read? (Region.fractionPair top left ++ "," ++ Region.fractionPair height width) =
      some ⟨t, l, h, w⟩ := by
  obtain ⟨ft, fl, fh, fw⟩ := finite
  have shape : (Region.fractionPair top left ++ "," ++ Region.fractionPair height width).toList =
      (Region.fractionPair top left).toList ++ ',' :: (Region.fractionPair height width).toList := by
    simp
  have last := pair?_fractionPair fh fw readHeight readWidth []
  rw [List.append_nil] at last
  simp [read?, shape, pair?_fractionPair ft fl readTop readLeft, Text.after?, last]

end Fractions

theorem round_of_near {value : ℚ} {whole : ℤ} (near : |value - whole| < 1 / 2) :
    round value = whole := by
  obtain ⟨low, high⟩ := abs_lt.mp near
  rw [round_eq, Int.floor_eq_iff]
  constructor <;> linarith

/-- What a number of seven places is off by is less than half a pixel of a side below ten million. -/
theorem near_of_fraction {part side value quotient : ℚ} (positive : 1 ≤ side)
    (small : side ≤ 10 ^ 7 - 1) (shown : |value - quotient| ≤ 1 / (2 * 10 ^ 7))
    (divided : |quotient - part / side| ≤ 1 / 2 ^ 53 + 1 / 2 ^ 61) :
    |value * side - part| < 1 / 2 := by
  have above : 0 < side := one_pos.trans_le positive
  have off : |value - part / side| ≤ 1 / (2 * 10 ^ 7) + 1 / 2 ^ 52 := by
    have both := abs_sub_le value quotient (part / side)
    linarith
  have scaled : value * side - part = (value - part / side) * side := by field_simp
  rw [scaled, abs_mul, abs_of_pos above]
  calc _ ≤ (1 / (2 * 10 ^ 7) + 1 / 2 ^ 52) * (10 ^ 7 - 1 : ℚ) :=
        mul_le_mul off small above.le (by norm_num)
    _ < 1 / 2 := by norm_num

namespace Region

open Arithmetic Binary64

theorem overInteger_reads {x : Binary64} {part side : ℤ} (same : x.IsInteger part)
    (within : 0 ≤ part ∧ part ≤ side) (positive : 1 ≤ side) (small : side < 10 ^ 7) :
    ∃ quotient value, overInteger x side = .ok quotient ∧ quotient.isFinite = true ∧
      Text.decimal? (quotient.fixedText 7).toList = some value ∧ round (value * side) = part := by
  obtain ⟨finite, exact⟩ := same
  obtain ⟨real, known, finite', exact'⟩ := toReal_exact (by omega) (by omega : side < 2 ^ 53)
  have low : (0 : ℚ) ≤ part := by exact_mod_cast within.1
  have most : (part : ℚ) ≤ side := by exact_mod_cast within.2
  have wide : (1 : ℚ) ≤ side := by exact_mod_cast positive
  have few : (side : ℚ) ≤ 10 ^ 7 - 1 := by exact_mod_cast Int.le_sub_one_of_lt small
  have above : (0 : ℚ) < side := one_pos.trans_le wide
  have divides : real.isZero = false := by
    rw [← Bool.not_eq_true, isZero_iff_toRat finite', exact']
    exact above.ne'
  have ratio : 0 ≤ x.toRat / real.toRat ∧ x.toRat / real.toRat ≤ 1 := by
    rw [exact, exact']
    exact ⟨div_nonneg low above.le, (div_le_one above).mpr most⟩
  have bounded : |x.toRat / real.toRat| ≤ rangeBound := by
    rw [abs_of_nonneg ratio.1]
    exact ratio.2.trans (by norm_num [rangeBound])
  have rounds := rounds_div finite finite' divides bounded
  obtain ⟨value, read, shown⟩ := decimal?_fixedText rounds.finite (by decide : 0 < 7)
  refine ⟨_, value, by rw [overInteger, known]; exact quotient_ok divides, rounds.finite, read, ?_⟩
  have divided := rounds.near_of_le ((abs_of_nonneg ratio.1).trans_le ratio.2)
  rw [exact, exact'] at divided
  exact round_of_near (near_of_fraction wide few shown divided)

variable {full : Dimensions} {r : Rectangle} {whole : WholeRectangle}

theorem argument_reads (positive : full.IsPositive) (small : full.SidesBelow (10 ^ 7))
    (same : r.IsWhole whole) (within : whole.Within full) :
    ∃ text, (Region.pixels r).argument full = .ok (some text) ∧
      (Fractions.read? text).map (Fractions.pixels full) = some whole := by
  obtain ⟨x, left, byX, finiteX, readX, backX⟩ :=
    overInteger_reads same.x within.x positive.1 small.1
  obtain ⟨y, top, byY, finiteY, readY, backY⟩ :=
    overInteger_reads same.y within.y positive.2 small.2
  obtain ⟨width, across, byWidth, finiteWidth, readWidth, backWidth⟩ :=
    overInteger_reads same.width within.width positive.1 small.1
  obtain ⟨height, down, byHeight, finiteHeight, readHeight, backHeight⟩ :=
    overInteger_reads same.height within.height positive.2 small.2
  refine ⟨fractionPair y x ++ "," ++ fractionPair height width, ?_, ?_⟩
  · simp [argument, rectangle?, toPixels, byX, byY, byWidth, byHeight, ok_bind]
  · rw [Fractions.read?_fractionPairs ⟨finiteY, finiteX, finiteHeight, finiteWidth⟩ readY readX
      readHeight readWidth]
    simp [Fractions.pixels, backX, backY, backWidth, backHeight]

/-- The argument of a rectangle of whole pixels reads back as that rectangle, so a rectangle with the
same argument is the same one. -/
theorem argument_read_back (positive : full.IsPositive) (small : full.SidesBelow (10 ^ 7))
    (same : r.IsWhole whole) (within : whole.Within full) :
    (∃ text, (Region.pixels r).argument full = .ok (some text) ∧
      (Fractions.read? text).map (Fractions.pixels full) = some whole) ∧
    ∀ {r' : Rectangle} {whole' : WholeRectangle}, r'.IsWhole whole' → whole'.Within full →
      (Region.pixels r').argument full = (Region.pixels r).argument full → whole' = whole := by
  refine ⟨argument_reads positive small same within, fun {r' whole'} same' within' equal => ?_⟩
  obtain ⟨text, known, read⟩ := argument_reads positive small same within
  obtain ⟨text', known', read'⟩ := argument_reads positive small same' within'
  obtain rfl : text' = text :=
    Option.some.inj (Except.ok.inj (known'.symm.trans (equal.trans known)))
  exact Option.some.inj (read'.symm.trans read)

/-- The last row of an image as high as can be, where one place less would not do. -/
theorem argument_read_back_last_row :
    ∃ r : Rectangle, r.IsWhole ⟨0, 9999998, 3, 1⟩ ∧ ∃ text,
      (Region.pixels r).argument ⟨3, 9999999⟩ = .ok (some text) ∧
      (Fractions.read? text).map (Fractions.pixels ⟨3, 9999999⟩) = some ⟨0, 9999998, 3, 1⟩ := by
  have known : ∀ z : ℤ, 0 ≤ z → z < 2 ^ 53 → (ofInt z).IsInteger z := fun _ => isInteger_ofInt
  have same : Rectangle.IsWhole ⟨ofInt 0, ofInt 9999998, ofInt 3, ofInt 1⟩ ⟨0, 9999998, 3, 1⟩ := by
    constructor <;> simp only <;> exact known _ (by norm_num) (by norm_num)
  have size : Dimensions.IsPositive ⟨3, 9999999⟩ := ⟨by decide, by decide⟩
  have small : Dimensions.SidesBelow (10 ^ 7) ⟨3, 9999999⟩ := ⟨by decide, by decide⟩
  have back := argument_read_back size small same
    ⟨by decide, by decide, by decide, by decide⟩
  exact ⟨_, same, back.1⟩

end Region

end Jp2Render
