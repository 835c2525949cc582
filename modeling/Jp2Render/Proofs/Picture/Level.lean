import Jp2Render.Picture.Level
import Jp2Render.Proofs.Reduction.Plan

/-!
Levels and the parts of full light that they stand for. As a binary64 number a part is rounded, once
if it is a quotient and twice if it is a multiple of the smallest part, and rounded again on the way
back; each time by so little that the same byte comes back, and that the same bytes are more than half
bright.
-/

namespace Jp2Render.Level

open Binary64 Arithmetic

theorem isBright_ofByte (v : Int) : isBright (ofByte v) = true ↔ 128 ≤ v := by
  have some := perStep_pos
  rw [isBright, ofByte, decide_eq_true_eq, ← Int.mul_assoc, Int.mul_lt_mul_right some]
  omega

/-- The part of full light that a byte stands for. -/
def share (v : Int) : Binary64 := ofInt v / 255

/-- The part of full light as so many of the smallest parts. -/
def scaledShare (v : Int) : Binary64 := ofInt v * (1 / 255)

theorem exists_grain : ∃ e, unitsPerOne = 2 ^ 40 * 2 ^ e := by
  -- the exponents stay variables, so that no power is computed
  have split (k e : Nat) (all : k + e = 1074) : unitsPerOne = 2 ^ k * 2 ^ e := by
    rw [unitsPerOne, Nat.one_shiftLeft, ← all, Nat.pow_add]
  exact ⟨1034, split 40 1034 rfl⟩

/-- Units that are nearly the part of a byte: times 255 they lie within a few grains of it, each grain
being 2⁻⁴⁰ of full light. -/
structure IsNear (e n units low high : Nat) : Prop where
  above : low * 2 ^ e ≤ units * 255
  below : units * 255 ≤ high * 2 ^ e
  least : n * 2 ^ 40 ≤ low + 2 ^ 17
  greatest : high ≤ n * 2 ^ 40 + 2 ^ 17

variable {e n units low high : Nat}

theorem roundUnits_share (one : unitsPerOne = 2 ^ 40 * 2 ^ e) (byte : n ≤ 255) :
    n * 2 ^ 40 / 255 * 2 ^ e ≤ roundUnits (n * unitsPerOne) 255 ∧
      roundUnits (n * unitsPerOne) 255 ≤ (n * 2 ^ 40 / 255 + 1) * 2 ^ e := by
  have whole := Nat.div_add_mod (n * 2 ^ 40) 255
  have rest := Nat.mod_lt (n * 2 ^ 40) (by decide : 0 < 255)
  rw [one]
  generalize n * 2 ^ 40 / 255 = k at *
  constructor
  · refine le_roundUnits ((representable_of_lt (by omega)).mul_two_pow _) (by decide) ?_
    calc k * 2 ^ e * 255 = 255 * k * 2 ^ e := by ring
      _ ≤ n * 2 ^ 40 * 2 ^ e := Nat.mul_le_mul_right _ (by omega)
      _ = n * (2 ^ 40 * 2 ^ e) := Nat.mul_assoc ..
  · refine roundUnits_le ((representable_of_lt (by omega)).mul_two_pow _) (by decide) ?_
    calc n * (2 ^ 40 * 2 ^ e) = n * 2 ^ 40 * 2 ^ e := (Nat.mul_assoc ..).symm
      _ ≤ 255 * (k + 1) * 2 ^ e := Nat.mul_le_mul_right _ (by omega)
      _ = (k + 1) * 2 ^ e * 255 := by ring

theorem isNear_share (one : unitsPerOne = 2 ^ 40 * 2 ^ e) (byte : n ≤ 255) :
    ∃ low high, IsNear e n (roundUnits (n * unitsPerOne) 255) low high := by
  obtain ⟨low, high⟩ := roundUnits_share one byte
  refine ⟨n * 2 ^ 40 / 255 * 255, (n * 2 ^ 40 / 255 + 1) * 255, ?_, ?_, by omega, by omega⟩
  · rw [Nat.mul_right_comm]
    exact Nat.mul_le_mul_right _ low
  · rw [Nat.mul_right_comm]
    exact Nat.mul_le_mul_right _ high

theorem isNear_scaledShare (one : unitsPerOne = 2 ^ 40 * 2 ^ e) (byte : n ≤ 255) :
    ∃ low high, IsNear e n (roundUnits (n * roundUnits (1 * unitsPerOne) 255) 1) low high := by
  obtain ⟨low, high⟩ := roundUnits_share one (by decide : 1 ≤ 255)
  have whole := Nat.div_add_mod (1 * 2 ^ 40) 255
  have rest := Nat.mod_lt (1 * 2 ^ 40) (by decide : 0 < 255)
  generalize roundUnits (1 * unitsPerOne) 255 = part at low high ⊢
  generalize 1 * 2 ^ 40 / 255 = k at *
  generalize 1 * 2 ^ 40 % 255 = r at *
  -- what the smallest part is short of is multiplied with it, but by no more than a byte
  have parts : n * k * 255 + n * r = n * 2 ^ 40 := by
    calc n * k * 255 + n * r = n * (255 * k + r) := by ring
      _ = n * 2 ^ 40 := by rw [whole, Nat.one_mul]
  have few : n * r ≤ 255 * 255 := Nat.mul_le_mul byte (Nat.le_of_lt rest)
  have next : n * (k + 1) = n * k + n := Nat.mul_succ n k
  have above : n * k * 2 ^ e ≤ roundUnits (n * part) 1 := by
    refine le_roundUnits ((representable_of_lt (by omega)).mul_two_pow _) Nat.one_pos ?_
    rw [Nat.mul_one, Nat.mul_assoc]
    exact Nat.mul_le_mul_left _ low
  have below : roundUnits (n * part) 1 ≤ n * (k + 1) * 2 ^ e := by
    refine roundUnits_le ((representable_of_lt (by omega)).mul_two_pow _) Nat.one_pos ?_
    rw [Nat.mul_one, Nat.mul_assoc]
    exact Nat.mul_le_mul_left _ high
  refine ⟨n * k * 255, n * (k + 1) * 255, ?_, ?_, by omega, by omega⟩
  · rw [Nat.mul_right_comm]
    exact Nat.mul_le_mul_right _ above
  · rw [Nat.mul_right_comm]
    exact Nat.mul_le_mul_right _ below

theorem IsNear.roundQuotient (near : IsNear e n units low high)
    (one : unitsPerOne = 2 ^ 40 * 2 ^ e) (byte : n ≤ 255) :
    roundQuotient (roundUnits (units * 255) 1) unitsPerOne = n := by
  obtain ⟨above, below, least, greatest⟩ := near
  have ordered : low ≤ high :=
    Nat.le_of_mul_le_mul_right (above.trans below) (Nat.two_pow_pos e)
  have under : roundUnits (units * 255) 1 ≤ high * 2 ^ e := by
    refine roundUnits_le ((representable_of_lt (by omega)).mul_two_pow _) Nat.one_pos ?_
    rw [Nat.mul_one]
    exact below
  have beyond : low * 2 ^ e ≤ roundUnits (units * 255) 1 := by
    refine le_roundUnits ((representable_of_lt (by omega)).mul_two_pow _) Nat.one_pos ?_
    rw [Nat.mul_one]
    exact above
  -- a few grains are far less than the half step in which rounding could go astray
  generalize roundUnits (units * 255) 1 = back at under beyond
  have positive := Nat.two_pow_pos e
  apply Nat.le_antisymm
  · apply roundQuotient_le_of_lt_half unitsPerOne_pos
    rw [one]
    calc 2 * back ≤ 2 * high * 2 ^ e := by rw [Nat.mul_assoc]; omega
      _ < (2 * n + 1) * 2 ^ 40 * 2 ^ e := Nat.mul_lt_mul_of_pos_right (by omega) positive
      _ = (2 * n + 1) * (2 ^ 40 * 2 ^ e) := Nat.mul_assoc ..
  · obtain ⟨within, -⟩ := roundQuotient_nearest back unitsPerOne_pos
    by_contra less
    generalize Binary64.roundQuotient back unitsPerOne = q at within less
    rw [one] at within
    have far : 2 * low * 2 ^ e ≤ (2 * q + 1) * 2 ^ 40 * 2 ^ e := by
      calc 2 * low * 2 ^ e ≤ 2 * back := by rw [Nat.mul_assoc]; omega
        _ ≤ (2 * q + 1) * (2 ^ 40 * 2 ^ e) := within
        _ = (2 * q + 1) * 2 ^ 40 * 2 ^ e := (Nat.mul_assoc ..).symm
    have := Nat.le_of_mul_le_mul_right far positive
    omega

theorem IsNear.lt_twice (near : IsNear e n units low high)
    (one : unitsPerOne = 2 ^ 40 * 2 ^ e) : unitsPerOne < 2 * units ↔ 128 ≤ n := by
  obtain ⟨above, below, least, greatest⟩ := near
  have positive := Nat.two_pow_pos e
  rw [one]
  constructor
  · intro more
    by_contra dark
    have beyond : 255 * 2 ^ 40 * 2 ^ e < 2 * high * 2 ^ e := by
      rw [Nat.mul_assoc, Nat.mul_assoc 2]
      omega
    have := Nat.lt_of_mul_lt_mul_right beyond
    omega
  · intro bright
    have beyond : 255 * 2 ^ 40 * 2 ^ e < 2 * low * 2 ^ e :=
      Nat.mul_lt_mul_of_pos_right (by omega) positive
    rw [Nat.mul_assoc, Nat.mul_assoc 2] at beyond
    omega

theorem IsNear.within (near : IsNear e n units low high) (one : unitsPerOne = 2 ^ 40 * 2 ^ e)
    (byte : n ≤ 255) : units * 255 ≤ 256 * unitsPerOne := by
  obtain ⟨-, below, -, greatest⟩ := near
  rw [one]
  calc units * 255 ≤ high * 2 ^ e := below
    _ ≤ 256 * 2 ^ 40 * 2 ^ e := Nat.mul_le_mul_right _ (by omega)
    _ = 256 * (2 ^ 40 * 2 ^ e) := Nat.mul_assoc ..

theorem ofInt_byte (byte : n ≤ 255) : ofInt n = .finite false (n * unitsPerOne) :=
  ofInt_of_lt (by omega)

theorem full_eq : (255 : Binary64) = .finite false (255 * unitsPerOne) := ofInt_byte le_rfl

theorem finite_mul_full (within : units * 255 ≤ 256 * unitsPerOne) :
    finite false units * 255 = .finite false (roundUnits (units * 255) 1) := by
  have inside : roundUnits (units * 255) 1 ≤ 256 * unitsPerOne := by
    refine roundUnits_le (representable_integer (by decide)) Nat.one_pos ?_
    omega
  have rounded : roundUnits (units * (255 * unitsPerOne)) unitsPerOne =
      roundUnits (units * 255) 1 := by
    have cancelled := roundUnits_mul_mul (units * 255) 1 unitsPerOne_pos
    rwa [Nat.mul_assoc, Nat.one_mul] at cancelled
  rw [full_eq, finite_mul_finite, rounded,
    ofUnits_finite (inside.trans_lt (integer_lt_overflow (by decide)))]
  rfl

theorem share_eq (byte : n ≤ 255) :
    share n = .finite false (roundUnits (n * unitsPerOne) 255) := by
  have within : roundUnits (n * unitsPerOne) 255 ≤ 1 * unitsPerOne :=
    ratio_units_le (by decide) (by decide) byte
  have rounded : roundUnits (n * unitsPerOne * unitsPerOne) (255 * unitsPerOne) =
      roundUnits (n * unitsPerOne) 255 := roundUnits_mul_mul _ _ unitsPerOne_pos
  rw [share, full_eq, ofInt_byte byte,
    finite_div_finite _ _ _ (Nat.mul_pos (by decide) unitsPerOne_pos), rounded,
    ofUnits_finite (within.trans_lt (integer_lt_overflow (by decide)))]
  rfl

theorem scaledShare_eq (byte : n ≤ 255)
    (within : roundUnits (n * roundUnits (1 * unitsPerOne) 255) 1 ≤ 256 * unitsPerOne) :
    scaledShare n = .finite false (roundUnits (n * roundUnits (1 * unitsPerOne) 255) 1) := by
  have part : (1 / 255 : Binary64) = .finite false (roundUnits (1 * unitsPerOne) 255) :=
    share_eq (by decide : 1 ≤ 255)
  generalize roundUnits (1 * unitsPerOne) 255 = units at part within ⊢
  have rounded : roundUnits (n * unitsPerOne * units) unitsPerOne = roundUnits (n * units) 1 := by
    have cancelled := roundUnits_mul_mul (n * units) 1 unitsPerOne_pos
    rwa [Nat.mul_right_comm, Nat.one_mul] at cancelled
  rw [scaledShare, part, ofInt_byte byte, finite_mul_finite, rounded,
    ofUnits_finite (within.trans_lt (integer_lt_overflow (by decide)))]
  rfl

/-- Units that are nearly the part of a byte come back as that byte, and are more than half of full
light just where its level is. -/
theorem IsNear.agrees (near : IsNear e n units low high) (one : unitsPerOne = 2 ^ 40 * 2 ^ e)
    (byte : n ≤ 255) :
    nearest (finite false units * 255) = .ok (toByte (ofByte n)) ∧
      ((1 / 2 : Binary64) < finite false units ↔ isBright (ofByte n) = true) := by
  constructor
  · rw [finite_mul_full (near.within one byte), nearest_finite, near.roundQuotient one byte,
      toByte_ofByte (by omega) (by omega)]
  · rw [isBright_ofByte]
    refine Reduction.half_lt_finite.trans ?_
    rw [eq_self, true_and, near.lt_twice one]
    omega

/-- The parts of full light are to bytes what levels are to them: they come back as the same bytes, and
lie above one half for the same ones, whether they are quotients or multiples of the smallest part. -/
theorem share_agrees {v : Int} (least : 0 ≤ v) (greatest : v ≤ 255) :
    ∀ part, part = share v ∨ part = scaledShare v →
      nearest (part * 255) = .ok (toByte (ofByte v)) ∧
        ((1 / 2 : Binary64) < part ↔ isBright (ofByte v) = true) := by
  lift v to Nat using least
  have byte : v ≤ 255 := by omega
  obtain ⟨e, one⟩ := exists_grain
  rintro part (rfl | rfl)
  · obtain ⟨low, high, near⟩ := isNear_share one byte
    rw [share_eq byte]
    exact near.agrees one byte
  · obtain ⟨low, high, near⟩ := isNear_scaledShare one byte
    have within := near.within one byte
    rw [scaledShare_eq byte (by omega)]
    exact near.agrees one byte

end Jp2Render.Level
