import Jp2Render.Arithmetic
import Mathlib.Tactic.Linarith
import Mathlib.Tactic.Ring

/-!
Rounding to binary64 numbers. A rounded quotient is the nearest whole number, the even one of two
that are as near; this alone makes rounding monotone. Magnitudes of at most 53 significant bits are
kept as they are, so rounding never passes one of them. A quotient is out of range iff it is at
least half way from the largest finite number to the next power of two.
-/

namespace Jp2Render.Binary64

theorem roundQuotient_nearest (num : Nat) {den : Nat} (positive : 0 < den) :
    2 * num ≤ (2 * roundQuotient num den + 1) * den ∧
      (2 * num = (2 * roundQuotient num den + 1) * den → roundQuotient num den % 2 = 0) ∧
      2 * roundQuotient num den * den ≤ 2 * num + den ∧
      (2 * roundQuotient num den * den = 2 * num + den → roundQuotient num den % 2 = 0) := by
  have parts := Nat.div_add_mod num den
  have rest := Nat.mod_lt num positive
  unfold roundQuotient
  -- twice the rest against the divisor decides, and the parity in a tie
  generalize num / den = whole at parts ⊢
  generalize num % den = rest at *
  subst parts
  simp only
  have expand : (2 * (whole + 1) + 1) * den = 2 * (den * whole) + 3 * den := by ring
  have expand' : (2 * whole + 1) * den = 2 * (den * whole) + den := by ring
  have expand'' : 2 * (whole + 1) * den = 2 * (den * whole) + 2 * den := by ring
  have expand''' : 2 * whole * den = 2 * (den * whole) := by ring
  split
  · rw [expand', expand''']
    omega
  · split
    · rw [expand, expand'']
      omega
    · split
      · rw [expand', expand''']
        omega
      · rw [expand, expand'']
        omega

theorem roundQuotient_mono {num den num' den' : Nat} (positive : 0 < den) (positive' : 0 < den')
    (le : num * den' ≤ num' * den) : roundQuotient num den ≤ roundQuotient num' den' := by
  obtain ⟨-, -, low, evenLow⟩ := roundQuotient_nearest num positive
  obtain ⟨high, evenHigh, -, -⟩ := roundQuotient_nearest num' positive'
  generalize roundQuotient num den = left at *
  generalize roundQuotient num' den' = right at *
  by_contra less
  push Not at less
  -- both are half way between the same neighbours, and cannot both be even
  have product : 0 < den * den' := Nat.mul_pos positive positive'
  have lowScaled : 2 * left * (den * den') ≤ 2 * (num * den') + den * den' := by
    calc 2 * left * (den * den') = 2 * left * den * den' := by ring
      _ ≤ (2 * num + den) * den' := Nat.mul_le_mul_right _ low
      _ = _ := by ring
  have highScaled : 2 * (num' * den) ≤ (2 * right + 1) * (den * den') := by
    calc 2 * (num' * den) = 2 * num' * den := by ring
      _ ≤ (2 * right + 1) * den' * den := Nat.mul_le_mul_right _ high
      _ = _ := by ring
  have next : left = right + 1 := by
    have : 2 * left * (den * den') ≤ (2 * right + 2) * (den * den') := by
      calc 2 * left * (den * den') ≤ 2 * (num' * den) + den * den' := by omega
        _ ≤ (2 * right + 1) * (den * den') + den * den' := by omega
        _ = _ := by ring
    have := Nat.le_of_mul_le_mul_right this product
    omega
  subst next
  have expand : 2 * (right + 1) * (den * den') = (2 * right + 1) * (den * den') + den * den' := by
    ring
  have tieHigh : 2 * num' = (2 * right + 1) * den' := by
    apply Nat.eq_of_mul_eq_mul_right positive
    have : 2 * (num' * den) = (2 * right + 1) * (den * den') := by omega
    calc 2 * num' * den = 2 * (num' * den) := by ring
      _ = (2 * right + 1) * (den * den') := this
      _ = _ := by ring
  have tieLow : 2 * (right + 1) * den = 2 * num + den := by
    apply Nat.eq_of_mul_eq_mul_right positive'
    have : 2 * (right + 1) * (den * den') = 2 * (num * den') + den * den' := by omega
    calc 2 * (right + 1) * den * den' = 2 * (right + 1) * (den * den') := by ring
      _ = _ := this
      _ = _ := by ring
  have := evenHigh tieHigh
  have := evenLow tieLow
  omega

theorem roundQuotient_mul (k : Nat) {den : Nat} (positive : 0 < den) :
    roundQuotient (k * den) den = k := by
  simp [roundQuotient, Nat.mul_div_cancel k positive, positive]

theorem le_roundQuotient {num den k : Nat} (positive : 0 < den) (above : k * den ≤ num) :
    k ≤ roundQuotient num den := by
  have mono : roundQuotient (k * den) den ≤ roundQuotient num den :=
    roundQuotient_mono positive positive (Nat.mul_le_mul_right _ above)
  rwa [roundQuotient_mul k positive] at mono

theorem roundQuotient_le {num den k : Nat} (positive : 0 < den) (below : num ≤ k * den) :
    roundQuotient num den ≤ k := by
  have mono : roundQuotient num den ≤ roundQuotient (k * den) den :=
    roundQuotient_mono positive positive (Nat.mul_le_mul_right _ below)
  rwa [roundQuotient_mul k positive] at mono

theorem roundQuotient_le_of_lt_half {num den k : Nat} (positive : 0 < den)
    (below : 2 * num < (2 * k + 1) * den) : roundQuotient num den ≤ k := by
  obtain ⟨-, -, low, -⟩ := roundQuotient_nearest num positive
  have : 2 * roundQuotient num den * den < (2 * k + 2) * den := by
    calc 2 * roundQuotient num den * den ≤ 2 * num + den := low
      _ < (2 * k + 1) * den + den := by omega
      _ = _ := by ring
  have := Nat.lt_of_mul_lt_mul_right this
  omega

theorem one_le_roundQuotient_iff {num den : Nat} (positive : 0 < den) :
    1 ≤ roundQuotient num den ↔ den < 2 * num := by
  obtain ⟨high, -, low, evenLow⟩ := roundQuotient_nearest num positive
  constructor
  · intro above
    rcases Nat.eq_or_lt_of_le above with one | more
    · rw [← one] at low evenLow
      by_contra short
      have tie : 2 * 1 * den = 2 * num + den := by omega
      have even : 1 % 2 = 0 := evenLow tie
      cases even
    · have twice : 4 * den ≤ 2 * roundQuotient num den * den :=
        Nat.mul_le_mul_right den (by omega)
      omega
  · intro above
    by_contra none
    rw [Nat.lt_one_iff.mp (Nat.lt_of_not_le none)] at high
    omega

def Representable (units : Nat) : Prop :=
  ∃ significand exponent : Nat, significand < 2 ^ 53 ∧ units = significand * 2 ^ exponent

theorem representable_of_lt {units : Nat} (small : units < 2 ^ 53) : Representable units :=
  ⟨units, 0, small, by simp⟩

theorem Representable.shiftLeft {units : Nat} (representable : Representable units)
    (exponent : Nat) : Representable (units <<< exponent) := by
  obtain ⟨significand, exponent', small, rfl⟩ := representable
  refine ⟨significand, exponent' + exponent, small, ?_⟩
  rw [Nat.shiftLeft_eq, Nat.pow_add, Nat.mul_assoc]

theorem droppedBits_mono {num den num' den' : Nat} (positive : 0 < den) (positive' : 0 < den')
    (le : num * den' ≤ num' * den) : droppedBits num den ≤ droppedBits num' den' := by
  have quotients : num / den ≤ num' / den' := by
    rw [Nat.le_div_iff_mul_le positive']
    apply Nat.le_of_mul_le_mul_right _ positive
    calc num / den * den' * den = num / den * den * den' := by ring
      _ ≤ num * den' := Nat.mul_le_mul_right _ (Nat.div_mul_le_self num den)
      _ ≤ num' * den := le
  have logarithms : (num / den).log2 ≤ (num' / den').log2 := by
    by_cases none : num / den = 0
    · simp [none]
    · rw [Nat.le_log2 (Nat.ne_of_gt ((Nat.pos_of_ne_zero none).trans_le quotients))]
      exact (Nat.log2_self_le none).trans quotients
  unfold droppedBits
  omega

theorem quotient_lt (num den : Nat) : num / (den * 2 ^ droppedBits num den) < 2 ^ 53 := by
  rw [← Nat.div_div_eq_div_mul, Nat.div_lt_iff_lt_mul (Nat.two_pow_pos _), ← Nat.pow_add]
  refine (Nat.lt_log2_self (n := num / den)).trans_le (Nat.pow_le_pow_right (by decide) ?_)
  unfold droppedBits
  omega

theorem le_quotient {num den : Nat} (dropped : 0 < droppedBits num den) :
    2 ^ 52 ≤ num / (den * 2 ^ droppedBits num den) := by
  have large : num / den ≠ 0 := by
    intro none
    simp [droppedBits, none] at dropped
  rw [← Nat.div_div_eq_div_mul, Nat.le_div_iff_mul_le (Nat.two_pow_pos _), ← Nat.pow_add]
  refine (Nat.pow_le_pow_right (by decide) ?_).trans (Nat.log2_self_le large)
  unfold droppedBits at dropped ⊢
  omega

theorem roundUnits_eq (num den : Nat) : roundUnits num den =
    roundQuotient num (den * 2 ^ droppedBits num den) * 2 ^ droppedBits num den := by
  rw [roundUnits, Nat.shiftLeft_eq, Nat.shiftLeft_eq]

theorem roundUnits_mono {num den num' den' : Nat} (positive : 0 < den) (positive' : 0 < den')
    (le : num * den' ≤ num' * den) : roundUnits num den ≤ roundUnits num' den' := by
  have bits := droppedBits_mono positive positive' le
  have room := quotient_lt num den
  have filled := @le_quotient num' den'
  rw [roundUnits_eq, roundUnits_eq]
  generalize droppedBits num den = lower at *
  generalize droppedBits num' den' = upper at *
  have positive₂ : 0 < den * 2 ^ lower := Nat.mul_pos positive (Nat.two_pow_pos _)
  have positive₂' : 0 < den' * 2 ^ upper := Nat.mul_pos positive' (Nat.two_pow_pos _)
  rcases Nat.eq_or_lt_of_le bits with same | fewer
  · subst same
    refine Nat.mul_le_mul_right _ (roundQuotient_mono positive₂ positive₂' ?_)
    calc num * (den' * 2 ^ lower) = num * den' * 2 ^ lower := by ring
      _ ≤ num' * den * 2 ^ lower := Nat.mul_le_mul_right _ le
      _ = _ := by ring
  · -- a power of two lies between the two
    have under : roundQuotient num (den * 2 ^ lower) ≤ 2 ^ 53 :=
      roundQuotient_le positive₂ (Nat.le_of_lt ((Nat.div_lt_iff_lt_mul positive₂).mp room))
    have above : 2 ^ 52 ≤ roundQuotient num' (den' * 2 ^ upper) :=
      le_roundQuotient positive₂' ((Nat.le_div_iff_mul_le positive₂').mp (filled (by omega)))
    calc roundQuotient num (den * 2 ^ lower) * 2 ^ lower
        ≤ 2 ^ 53 * 2 ^ lower := Nat.mul_le_mul_right _ under
      _ = 2 ^ 52 * 2 ^ (lower + 1) := by ring
      _ ≤ 2 ^ 52 * 2 ^ upper := Nat.mul_le_mul_left _ (Nat.pow_le_pow_right (by decide) fewer)
      _ ≤ _ := Nat.mul_le_mul_right _ above

theorem roundUnits_mul {units den : Nat} (representable : Representable units)
    (positive : 0 < den) : roundUnits (units * den) den = units := by
  obtain ⟨significand, exponent, small, rfl⟩ := representable
  have bits : droppedBits (significand * 2 ^ exponent * den) den ≤ exponent := by
    unfold droppedBits
    rw [Nat.mul_div_cancel _ positive]
    by_cases none : significand * 2 ^ exponent = 0
    · simp [none]
    · have : significand * 2 ^ exponent < 2 ^ (53 + exponent) := by
        rw [Nat.pow_add]
        exact Nat.mul_lt_mul_of_pos_right small (Nat.two_pow_pos _)
      have := (Nat.log2_lt none).mpr this
      omega
  rw [roundUnits_eq]
  generalize droppedBits (significand * 2 ^ exponent * den) den = dropped at *
  -- no more bits are dropped than there are zeros at the end
  obtain ⟨more, rfl⟩ := Nat.exists_eq_add_of_le bits
  have multiple : significand * 2 ^ (dropped + more) * den =
      significand * 2 ^ more * (den * 2 ^ dropped) := by ring
  simp only [multiple, roundQuotient_mul _ (Nat.mul_pos positive (Nat.two_pow_pos _))]
  ring

theorem roundUnits_zero (den : Nat) : roundUnits 0 den = 0 := by
  rw [roundUnits_eq, roundQuotient, Nat.zero_div, Nat.zero_mod]
  simp

theorem roundUnits_le {num den units : Nat} (representable : Representable units)
    (positive : 0 < den) (below : num ≤ units * den) : roundUnits num den ≤ units := by
  have mono : roundUnits num den ≤ roundUnits (units * den) den :=
    roundUnits_mono positive positive (Nat.mul_le_mul_right _ below)
  rwa [roundUnits_mul representable positive] at mono

theorem le_roundUnits {num den units : Nat} (representable : Representable units)
    (positive : 0 < den) (above : units * den ≤ num) : units ≤ roundUnits num den := by
  have mono : roundUnits (units * den) den ≤ roundUnits num den :=
    roundUnits_mono positive positive (Nat.mul_le_mul_right _ above)
  rwa [roundUnits_mul representable positive] at mono

/-- Half way from the largest finite magnitude to the power of two after it, in units. -/
def rangeUnits : Nat := (2 ^ 54 - 1) <<< 2044

theorem roundUnits_rangeUnits : roundUnits rangeUnits 1 = overflowUnits := by decide +kernel

def largestUnits : Nat := (2 ^ 53 - 1) <<< 2045

theorem roundUnits_le_largest {num den : Nat} (positive : 0 < den)
    (inside : num < rangeUnits * den) : roundUnits num den ≤ largestUnits := by
  have bits : droppedBits num den ≤ 2045 := by
    have quotient : num / den < 2 ^ 2098 := by
      rw [Nat.div_lt_iff_lt_mul positive]
      exact inside.trans (Nat.mul_lt_mul_of_pos_right (by decide +kernel) positive)
    unfold droppedBits
    by_cases none : num / den = 0
    · simp [none]
    · have := (Nat.log2_lt none).mpr quotient
      omega
  have room := quotient_lt num den
  rw [roundUnits_eq]
  generalize droppedBits num den = dropped at *
  have positive' : 0 < den * 2 ^ dropped := Nat.mul_pos positive (Nat.two_pow_pos _)
  -- with all bits dropped the quotient is just below 2⁵³; with fewer a power of two is far enough
  rcases Nat.eq_or_lt_of_le bits with rfl | fewer
  · have under : roundQuotient num (den * 2 ^ 2045) ≤ 2 ^ 53 - 1 := by
      apply roundQuotient_le_of_lt_half positive'
      calc 2 * num < 2 * (rangeUnits * den) := by omega
        _ = (2 * (2 ^ 53 - 1) + 1) * (den * 2 ^ 2045) := by
          have twice : 2 ^ 2045 = 2 ^ 2044 * 2 := by decide +kernel
          have range : rangeUnits = (2 ^ 54 - 1) * 2 ^ 2044 := by decide +kernel
          rw [twice, range]
          generalize 2 ^ 2044 = power
          ring
    calc _ ≤ (2 ^ 53 - 1) * 2 ^ 2045 := Nat.mul_le_mul_right _ under
      _ = largestUnits := by decide +kernel
  · have under : roundQuotient num (den * 2 ^ dropped) ≤ 2 ^ 53 :=
      roundQuotient_le positive' (Nat.le_of_lt ((Nat.div_lt_iff_lt_mul positive').mp room))
    calc _ ≤ 2 ^ 53 * 2 ^ dropped := Nat.mul_le_mul_right _ under
      _ ≤ 2 ^ 53 * 2 ^ 2044 := Nat.mul_le_mul_left _ (Nat.pow_le_pow_right (by decide) (by omega))
      _ ≤ largestUnits := by decide +kernel

theorem shiftLeft_lt_one_shiftLeft {a b k l : Nat} (small : a < 2 ^ b) (le : b + k ≤ l) :
    a <<< k < 1 <<< l := by
  rw [Nat.shiftLeft_eq, Nat.one_shiftLeft]
  calc a * 2 ^ k < 2 ^ b * 2 ^ k := Nat.mul_lt_mul_of_pos_right small (Nat.two_pow_pos k)
    _ = 2 ^ (b + k) := (Nat.pow_add 2 b k).symm
    _ ≤ 2 ^ l := Nat.pow_le_pow_right Nat.two_pos le

theorem largestUnits_lt_overflow : largestUnits < overflowUnits :=
  shiftLeft_lt_one_shiftLeft (by decide : 2 ^ 53 - 1 < 2 ^ 53) (by decide)

theorem roundUnits_lt_overflow_iff {num den : Nat} (positive : 0 < den) :
    roundUnits num den < overflowUnits ↔ num < rangeUnits * den := by
  refine ⟨fun finite => ?_,
    fun inside => (roundUnits_le_largest positive inside).trans_lt largestUnits_lt_overflow⟩
  by_contra outside
  push Not at outside
  -- half way is a tie, and the even neighbour is the power of two
  have mono : roundUnits rangeUnits 1 ≤ roundUnits num den :=
    roundUnits_mono Nat.one_pos positive (by rwa [Nat.mul_one])
  rw [roundUnits_rangeUnits] at mono
  omega

end Jp2Render.Binary64
