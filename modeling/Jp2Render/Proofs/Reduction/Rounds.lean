import Jp2Render.Proofs.Binary64.Values
import Jp2Render.Proofs.Reduction.Halving
import Mathlib.Logic.Relation

/-!
The rounds of the halving loop. Each takes the reduction up by one and halves the threshold, as long as
the bound is not reached and the scale is not above the threshold. The threshold is then always the
scale that one reduction more would leave; below the smallest number it has become zero, where no
positive scale goes on. So the loop comes to rest, and the reduction that it comes to is the last whose
exact scale is not below the requested one, or the bound.
-/

namespace Jp2Render.Reduction

open Binary64 Relation

theorem le_threshold_iff {scale : Binary64} (finite : scale.isFinite = true) {reduction : ℕ} :
    scale ≤ threshold reduction ↔ scale.toRat ≤ 1 / 2 ^ reduction := by
  obtain ⟨negative, units, rfl⟩ := exists_finite finite
  have power : (0 : ℚ) < 2 ^ reduction := by positivity
  cases negative with
  | false =>
      have cast : units * 2 ^ reduction ≤ unitsPerOne ↔
          (units : ℚ) * 2 ^ reduction ≤ unitsPerOne := by
        exact_mod_cast Iff.rfl
      rw [threshold, finite_le_finite, Nat.le_div_iff_mul_le (Nat.two_pow_pos reduction), cast,
        toRat_finite, signed_false, div_le_div_iff₀ unitsPerOne_pos_rat power, one_mul]
  | true =>
      have below (bound : ℕ) : -(units : ℤ) ≤ bound := by omega
      have under : (Binary64.finite true units).toRat ≤ 0 := neg_nonpos.mpr (units_nonneg units)
      exact iff_of_true (decide_eq_true (below _)) (under.trans (by positivity))

theorem le_of_pos_of_le_threshold {scale : Binary64} (finite : scale.isFinite = true)
    (positive : 0 < scale) {reduction : ℕ} (below : scale ≤ threshold reduction) :
    reduction ≤ 1074 := by
  obtain ⟨negative, units, rfl⟩ := exists_finite finite
  by_contra many
  rw [zero_eq] at positive
  rw [threshold_of_many (Nat.lt_of_not_le many)] at below
  have above : 0 < signedUnits negative units := of_decide_eq_true positive
  have under : signedUnits negative units ≤ 0 := of_decide_eq_true below
  omega

/-- The loop between two rounds: the reduction so far, and the threshold of the next one. -/
structure Progress where
  reduction : ℕ
  threshold : Binary64

def start : Progress := ⟨0, half⟩

inductive Round (scale : Binary64) (bound : ℤ) : Progress → Progress → Prop
  | halve {reduction : ℕ} {threshold : Binary64} (below : scale ≤ threshold)
      (within : reduction < bound) :
      Round scale bound ⟨reduction, threshold⟩ ⟨reduction + 1, threshold / 2⟩

/-- The loop comes to rest: it gets this far, and no further. -/
structure StopsAt (scale : Binary64) (bound : ℤ) (last : Progress) : Prop where
  reached : ReflTransGen (Round scale bound) start last
  done : ∀ next, ¬ Round scale bound last next

variable {scale : Binary64} {bound : ℤ}

theorem round_iff {reduction : ℕ} {next : Progress} :
    Round scale bound ⟨reduction, threshold (reduction + 1)⟩ next ↔
      reduction < forScale scale bound ∧ next = ⟨reduction + 1, threshold (reduction + 1 + 1)⟩ := by
  rw [← threshold_div_two (reduction + 1), ← Nat.succ_le_iff, le_forScale_iff]
  constructor
  · rintro ⟨below, within⟩
    exact ⟨.inr ⟨by omega, below⟩, rfl⟩
  · rintro ⟨none | ⟨within, below⟩, rfl⟩
    · cases none
    · exact .halve below (by omega)

theorem reached_iff {progress : Progress} :
    ReflTransGen (Round scale bound) start progress ↔
      ∃ reduction ≤ forScale scale bound, progress = ⟨reduction, threshold (reduction + 1)⟩ := by
  have first : start = ⟨0, threshold (0 + 1)⟩ := by rw [start, half_eq_threshold]
  constructor
  · intro run
    -- each round keeps the threshold one reduction ahead
    induction run with
    | refl => exact ⟨0, Nat.zero_le _, first⟩
    | tail _ round ih =>
        obtain ⟨reduction, -, rfl⟩ := ih
        obtain ⟨less, rfl⟩ := round_iff.mp round
        exact ⟨reduction + 1, less, rfl⟩
  · rintro ⟨reduction, within, rfl⟩
    induction reduction with
    | zero => rw [first]
    | succ reduction ih =>
        exact (ih (Nat.le_of_succ_le within)).tail (round_iff.mpr ⟨within, rfl⟩)

theorem stopsAt_iff {last : Progress} : StopsAt scale bound last ↔
    last = ⟨forScale scale bound, threshold (forScale scale bound + 1)⟩ := by
  constructor
  · rintro ⟨reached, done⟩
    obtain ⟨reduction, within, rfl⟩ := reached_iff.mp reached
    rcases Nat.eq_or_lt_of_le within with same | less
    · rw [same]
    · exact absurd (round_iff.mpr ⟨less, rfl⟩) (done _)
  · rintro rfl
    constructor
    · exact reached_iff.mpr ⟨_, Nat.le_refl _, rfl⟩
    · intro next round
      exact Nat.lt_irrefl _ (round_iff.mp round).1

theorem forScale_antitone {larger : Binary64} (order : scale ≤ larger) :
    forScale larger bound ≤ forScale scale bound := by
  rcases forScale_cases larger bound with none | ⟨within, below⟩
  · exact none.trans_le (Nat.zero_le _)
  · exact le_forScale_iff.mpr (.inr ⟨within, Binary64.le_trans order below⟩)

theorem forScale_mono {wider : ℤ} (order : bound ≤ wider) :
    forScale scale bound ≤ forScale scale wider := by
  rcases forScale_cases scale bound with none | ⟨within, below⟩
  · exact none.trans_le (Nat.zero_le _)
  · exact le_forScale_iff.mpr (.inr ⟨within.trans (Int.toNat_le_toNat order), below⟩)

theorem forScale_le (allowed : 0 ≤ bound) : forScale scale bound ≤ bound := by
  rcases forScale_cases scale bound with none | ⟨within, -⟩ <;> omega

theorem forScale_le_of_pos (finite : scale.isFinite = true) (positive : 0 < scale) :
    forScale scale bound ≤ 1074 := by
  rcases forScale_cases scale bound with none | ⟨-, below⟩
  · omega
  · exact le_of_pos_of_le_threshold finite positive below

theorem toRat_le_of_forScale (finite : scale.isFinite = true) :
    forScale scale bound = 0 ∨ scale.toRat ≤ 1 / 2 ^ forScale scale bound := by
  rcases forScale_cases scale bound with none | ⟨-, below⟩
  · exact .inl none
  · exact .inr ((le_threshold_iff finite).mp below)

theorem lt_toRat_of_forScale_lt (finite : scale.isFinite = true) (room : forScale scale bound < bound) :
    1 / 2 ^ (forScale scale bound + 1) < scale.toRat := by
  by_contra above
  have below := (le_threshold_iff finite).mpr (not_lt.mp above)
  have more : forScale scale bound + 1 ≤ forScale scale bound :=
    le_forScale_iff.mpr (.inr ⟨by omega, below⟩)
  exact Nat.not_succ_le_self _ more

/-- The loop comes to rest, whatever the bound, and for a positive scale after no more rounds than there
are halves of one. The reduction leaves at least the scale, and one more would leave less, unless the
bound does not allow it. A larger scale never gets a larger reduction, a larger bound never a smaller. -/
theorem forScale_brackets (finite : scale.isFinite = true) (allowed : 0 ≤ bound) :
    ∃ reduction : ℕ, forScale scale bound = reduction ∧
      (∀ last, StopsAt scale bound last ↔ last = ⟨reduction, threshold (reduction + 1)⟩) ∧
      reduction ≤ bound ∧ (0 < scale → reduction ≤ 1074) ∧
      (reduction = 0 ∨ scale.toRat ≤ 1 / 2 ^ reduction) ∧
      (reduction = bound ∨ 1 / 2 ^ (reduction + 1) < scale.toRat) ∧
      (∀ larger, scale ≤ larger → forScale larger bound ≤ reduction) ∧
      (∀ wider, bound ≤ wider → reduction ≤ forScale scale wider) := by
  have within : forScale scale bound ≤ bound := forScale_le allowed
  refine ⟨_, rfl, fun _ => stopsAt_iff, within, forScale_le_of_pos finite, toRat_le_of_forScale finite, ?_,
    fun _ => forScale_antitone, fun _ => forScale_mono⟩
  rcases Int.le_iff_eq_or_lt.mp within with all | room
  · exact .inl all
  · exact .inr (lt_toRat_of_forScale_lt finite room)

/-- The smallest number. The round after the last would have had the threshold zero. -/
theorem forScale_brackets_smallest :
    (Binary64.finite false 1).isFinite = true ∧ (0 : ℤ) ≤ 2000 ∧ 0 < Binary64.finite false 1 ∧
      forScale (.finite false 1) 2000 = 1074 ∧
      StopsAt (.finite false 1) 2000 ⟨1074, .finite false 0⟩ := by
  have positive : 0 < Binary64.finite false 1 := by
    rw [zero_eq]
    decide
  have finite : (Binary64.finite false 1).isFinite = true := rfl
  have allowed : (0 : ℤ) ≤ 2000 := by decide
  obtain ⟨reduction, planned, rest, -, few, -, least, -⟩ := forScale_brackets finite allowed
  have many : 1074 ≤ reduction := by
    by_contra fewer
    have below : Binary64.finite false 1 ≤ threshold (reduction + 1) := by
      rw [threshold_eq (by omega)]
      exact finite_le_finite.mpr (Nat.two_pow_pos _)
    rcases least with all | above
    · omega
    · exact absurd ((le_threshold_iff finite).mp below) (not_le.mpr above)
  obtain rfl : reduction = 1074 := Nat.le_antisymm (few positive) many
  refine ⟨finite, allowed, positive, planned, (rest _).mpr ?_⟩
  rw [threshold_of_many (by omega)]

end Jp2Render.Reduction
