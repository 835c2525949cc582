import Jp2Render.Proofs.Binary64.Values
import Jp2Render.Proofs.Text.Digits

/-!
Fixed places read back. A finite number is written as the decimal that is nearest to it among those of
so many places, so the exact value of its digits is off by half of the last place at most.
-/

namespace Jp2Render.Text

open Binary64

def decimal? (cs : List Char) : Option ℚ := do
  let (negative, unsigned) := takeSign cs
  let (whole, fraction) ← cut? '.' unsigned
  let digits ← valueOf? (whole ++ fraction)
  return signed negative (digits / 10 ^ fraction.length)

theorem decimal?_of_sign {whole fraction : List Char} {digits : ℕ} (begun : whole ≠ [])
    (isDigit : ∀ c ∈ whole, c.isDigit = true) (read : valueOf? (whole ++ fraction) = some digits)
    (negative : Bool) :
    decimal? ((signText negative).toList ++ (whole ++ '.' :: fraction)) =
      some (signed negative (digits / 10 ^ fraction.length)) := by
  have point : '.' ∉ whole := fun member => absurd (isDigit _ member) (by decide)
  have signed : takeSign ((signText negative).toList ++ (whole ++ '.' :: fraction)) =
      (negative, whole ++ '.' :: fraction) := by
    cases negative with
    | true => rfl
    | false =>
        cases whole with
        | nil => exact absurd rfl begun
        | cons first rest => exact takeSign_of_isDigit (isDigit _ List.mem_cons_self) _
  simp [decimal?, signed, cut?_append point, read]

end Jp2Render.Text

namespace Jp2Render.Binary64

open Text

theorem toList_fixedText (negative : Bool) (units : ℕ) {places : ℕ} (many : 0 < places) :
    ((finite negative units).fixedText places).toList = (signText negative).toList ++
      ((Nat.repr (roundQuotient (units * 10 ^ places) unitsPerOne / 10 ^ places)).toList ++ '.' ::
        (paddedDigits places
          (roundQuotient (units * 10 ^ places) unitsPerOne % 10 ^ places)).toList) := by
  simp [fixedText, Nat.pos_iff_ne_zero.mp many]

variable {x : Binary64} {places : ℕ}

theorem decimal?_fixedText (finite : x.isFinite = true) (many : 0 < places) :
    ∃ value, decimal? (x.fixedText places).toList = some value ∧
      |value - x.toRat| ≤ 1 / (2 * 10 ^ places) := by
  obtain ⟨negative, units, rfl⟩ := exists_finite finite
  have near := (isNearest_roundQuotient (units * 10 ^ places) unitsPerOne_pos).1
  rw [toList_fixedText negative units many]
  generalize roundQuotient (units * 10 ^ places) unitsPerOne = scaled at *
  have power : 0 < 10 ^ places := Nat.pow_pos (by decide)
  have fits : scaled % 10 ^ places < 10 ^ places := Nat.mod_lt scaled power
  have length := length_paddedDigits many fits
  have read := valueOf?_append (valueOf?_repr (scaled / 10 ^ places))
    (valueOf?_paddedDigits places (scaled % 10 ^ places))
  rw [length, Nat.div_add_mod'] at read
  have written : (Nat.repr (scaled / 10 ^ places)).toList ≠ [] := by
    rw [Nat.toList_repr]
    exact List.ne_nil_of_length_pos Nat.length_toDigits_pos
  refine ⟨_, decimal?_of_sign written (fun c => isDigit_of_mem_repr) read negative, ?_⟩
  have tens : (0 : ℚ) < 10 ^ places := by positivity
  have ones := unitsPerOne_pos_rat
  rw [length, toRat_finite, abs_signed_sub]
  push_cast at near
  generalize (unitsPerOne : ℚ) = one at *
  -- the digits are those of the nearest multiple, which is off by half a place at most
  have split : (scaled : ℚ) / 10 ^ places - units / one =
      -(units * 10 ^ places / one - scaled) / 10 ^ places := by
    field_simp
    ring
  rw [split, abs_div, abs_neg, abs_of_pos tens, ← div_div]
  exact div_le_div_of_nonneg_right near tens.le

theorem mem_fixedText {c : Char} (finite : x.isFinite = true) (many : 0 < places)
    (member : c ∈ (x.fixedText places).toList) : c.isDigit = true ∨ c = '.' ∨ c = '-' := by
  obtain ⟨negative, units, rfl⟩ := exists_finite finite
  rw [toList_fixedText negative units many, List.mem_append, List.mem_append, List.mem_cons] at member
  rcases member with sign | whole | point | fraction
  · cases negative with
    | false => cases sign
    | true => exact .inr (.inr (List.mem_singleton.mp sign))
  · exact .inl (isDigit_of_mem_repr whole)
  · exact .inr (.inl point)
  · exact .inl (isDigit_of_mem_paddedDigits fraction)

end Jp2Render.Binary64
