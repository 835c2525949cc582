import Jp2Render.Proofs.Reduction.Target
import Mathlib.Order.Bounds.Defs

/-!
The halving of a threshold. The thresholds are the powers of two from one half on; each is half of the
one before, down to the smallest number and to zero after it. So the loop stops at the largest
reduction whose threshold the scale does not exceed, and it never needs a bound to do so correctly.
-/

namespace Jp2Render

open Binary64

protected theorem Binary64.le_trans {x y z : Binary64} (first : x ≤ y) (second : y ≤ z) : x ≤ z := by
  change x.le y = true at first
  change y.le z = true at second
  show x.le z = true
  cases y with
  | finite negative units =>
      cases x <;> cases z <;> simp_all [Binary64.le]
      exact first.trans second
  | infinite negative => cases negative <;> cases x <;> cases z <;> simp_all [Binary64.le]
  | nan => cases x <;> cases first

namespace Reduction

/-- The scale that a reduction leaves, in the numbers that there are: below the smallest of them it
is zero. -/
def threshold (reduction : Nat) : Binary64 := .finite false (unitsPerOne / 2 ^ reduction)

theorem threshold_eq {reduction : Nat} (few : reduction ≤ 1074) :
    threshold reduction = .finite false (2 ^ (1074 - reduction)) := by
  rw [threshold, unitsPerOne_split few, Nat.mul_div_cancel _ (Nat.two_pow_pos reduction)]

theorem threshold_of_many {reduction : Nat} (many : 1074 < reduction) :
    threshold reduction = .finite false 0 := by
  have small : unitsPerOne < 2 ^ reduction := by
    rw [← Nat.one_shiftLeft]
    exact shiftLeft_lt_one_shiftLeft (by decide : 1 < 2 ^ 1) (by omega)
  rw [threshold, Nat.div_eq_of_lt small]

theorem le_threshold_of_le {scale : Binary64} {fewer more : Nat} (le : fewer ≤ more)
    (below : scale ≤ threshold more) : scale ≤ threshold fewer :=
  Binary64.le_trans below (finite_le_finite.mpr
    (Nat.div_le_div_left (Nat.pow_le_pow_right Nat.two_pos le) (Nat.two_pow_pos fewer)))

theorem two_pow_div_two {reduction : Nat} (few : reduction < 1074) :
    .finite false (2 ^ (1074 - reduction)) / 2 =
      Binary64.finite false (2 ^ (1074 - (reduction + 1))) := by
  have positive : 0 < 2 * unitsPerOne := Nat.mul_pos (by decide) unitsPerOne_pos
  have exact : 2 ^ (1074 - reduction) * unitsPerOne =
      2 ^ (1074 - (reduction + 1)) * (2 * unitsPerOne) := by
    have next : 1074 - reduction = 1074 - (reduction + 1) + 1 := by omega
    rw [next, Nat.pow_succ, Nat.mul_assoc]
  rw [ofNat_of_lt (by decide), finite_div_exact (representable_two_pow _) positive exact,
    bne_self_eq_false, ofUnits_finite (two_pow_lt_overflow (by omega))]

/-- Of the smallest number, and of zero, half is zero: the tie goes to the even neighbour. -/
theorem finite_div_two_of_le_one {units : Nat} (few : units ≤ 1) :
    Binary64.finite false units / 2 = .finite false 0 := by
  have positive : 0 < 2 * unitsPerOne := Nat.mul_pos (by decide) unitsPerOne_pos
  have zero : roundUnits units 2 = 0 := by
    rcases Nat.le_one_iff_eq_zero_or_eq_one.mp few with rfl | rfl
    · exact roundUnits_zero 2
    · decide
  rw [ofNat_of_lt (by decide), finite_div_finite _ _ _ positive,
    roundUnits_mul_mul _ _ unitsPerOne_pos, zero, ofUnits_finite overflowUnits_pos,
    bne_self_eq_false]

theorem threshold_div_two (reduction : Nat) : threshold reduction / 2 = threshold (reduction + 1) := by
  rcases Nat.lt_trichotomy reduction 1074 with few | last | many
  · rw [threshold_eq (Nat.le_of_lt few), threshold_eq few, two_pow_div_two few]
  · rw [threshold_eq last.le, threshold_of_many (by omega), last, Nat.sub_self, Nat.pow_zero,
      finite_div_two_of_le_one le_rfl]
  · rw [threshold_of_many many, threshold_of_many (by omega),
      finite_div_two_of_le_one (Nat.zero_le 1)]

theorem half_eq : half = .finite false (2 ^ (1074 - 1)) := by
  have one : (1 : Binary64) = .finite false (2 ^ (1074 - 0)) := by
    rw [ofNat_of_lt (by decide), Nat.one_mul, unitsPerOne_split (Nat.zero_le _), Nat.pow_zero,
      Nat.mul_one]
  rw [half, one, two_pow_div_two (by decide), Nat.zero_add]

theorem half_eq_threshold : half = threshold 1 := by
  rw [half_eq, threshold_eq (by decide)]

theorem exists_half : ∃ units, half = .finite false units ∧ units * 2 = unitsPerOne := by
  -- the exponent stays a variable, so that no power is computed
  have split (k : Nat) (one : k = 1) : 2 ^ (1074 - k) * 2 = unitsPerOne := by
    have power : 2 ^ k = 2 := by rw [one, Nat.pow_one]
    rw [unitsPerOne_split (by omega : k ≤ 1074), power]
  exact ⟨_, half_eq, split 1 rfl⟩

theorem half_lt_finite {negative : Bool} {units : Nat} :
    half < .finite negative units ↔ negative = false ∧ unitsPerOne < 2 * units := by
  obtain ⟨one, same, twice⟩ := exists_half
  rw [same]
  show decide ((one : Int) < signedUnits negative units) = true ↔ _
  rw [decide_eq_true_eq]
  cases negative with
  | false =>
      rw [signedUnits_false, eq_self, true_and]
      omega
  | true =>
      refine iff_of_false ?_ fun positive => Bool.noConfusion positive.1
      show ¬ (one : Int) < -(units : Int)
      omega

/-- The loop goes round once more just as long as the budget lasts and the next threshold is not below
the scale; thresholds fall, so then none before it was. -/
theorem lt_halvings_iff {scale : Binary64} {budget first more : Nat} :
    more < halvings scale budget (threshold first) ↔
      more < budget ∧ scale ≤ threshold (first + more) := by
  -- each round takes one off the budget and one threshold further
  induction budget generalizing first more with
  | zero => simp [halvings]
  | succ budget ih =>
      rw [halvings, threshold_div_two]
      by_cases below : scale ≤ threshold first
      · cases more with
        | zero => simp [below]
        | succ more =>
            have next : first + (more + 1) = first + 1 + more := by omega
            simp [below, next, ih]
      · have above : ¬ scale ≤ threshold (first + more) :=
          fun below' => below (le_threshold_of_le (Nat.le_add_right first more) below')
        simp [below, above]

theorem le_forScale_iff {scale : Binary64} {bound : Int} {reduction : Nat} :
    reduction ≤ forScale scale bound ↔
      reduction = 0 ∨ reduction ≤ bound.toNat ∧ scale ≤ threshold reduction := by
  cases reduction with
  | zero => simp
  | succ more =>
      rw [Nat.succ_le_iff, forScale, half_eq_threshold, lt_halvings_iff, Nat.add_comm 1 more]
      constructor
      · exact .inr
      · rintro (none | allowed)
        · cases none
        · exact allowed

theorem forScale_cases (scale : Binary64) (bound : Int) :
    forScale scale bound = 0 ∨
      forScale scale bound ≤ bound.toNat ∧ scale ≤ threshold (forScale scale bound) :=
  le_forScale_iff.mp (Nat.le_refl _)

theorem isGreatest_forScale (scale : Binary64) (bound : Int) :
    IsGreatest {reduction | reduction ≤ bound.toNat ∧ (reduction = 0 ∨ scale ≤ threshold reduction)}
      (forScale scale bound) := by
  constructor
  · rcases forScale_cases scale bound with none | ⟨within, below⟩
    · exact ⟨none ▸ Nat.zero_le _, .inl none⟩
    · exact ⟨within, .inr below⟩
  · rintro reduction ⟨within, below⟩
    exact le_forScale_iff.mpr (below.imp_right fun below => ⟨within, below⟩)

theorem le_of_forScale {scale : Binary64} {bound : Int} (known : bound ≤ limit) {reduction : Nat}
    (planned : forScale scale bound = reduction) (reduces : 0 < reduction) :
    scale ≤ .finite false (2 ^ (1074 - reduction)) := by
  rcases le_forScale_iff.mp planned.ge with none | ⟨within, below⟩
  · omega
  · have few : reduction ≤ 1074 := by
      unfold limit at known
      omega
    rwa [threshold_eq few] at below

end Reduction

end Jp2Render
