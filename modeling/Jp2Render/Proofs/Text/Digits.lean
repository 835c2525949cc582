import Jp2Render.Text.Fields
import Jp2Render.Text.Numeral
import Mathlib.Data.Nat.Digits.Lemmas
import Mathlib.Tactic.Ring

/-!
Decimal digits and the numbers that they write. The digits of a number read back as that number, also
with zeros in front of them, and digits that stand after others move these to the left. As an integer
numeral, digits with nothing else around them are read as the number that they write.
-/

namespace Jp2Render.Text

def valueOf? (digits : List Char) : Option ℕ := (digits.mapM digitValue?).map ofDigits

theorem foldl_digits (value : ℕ) (digits : List ℕ) :
    digits.foldl (fun value digit => 10 * value + digit) value =
      value * 10 ^ digits.length + ofDigits digits := by
  induction digits generalizing value with
  | nil => simp [ofDigits]
  | cons digit rest ih =>
      rw [ofDigits, List.foldl_cons, List.foldl_cons, ih, ih, List.length_cons]
      ring

theorem ofDigits_append (first second : List ℕ) :
    ofDigits (first ++ second) = ofDigits first * 10 ^ second.length + ofDigits second := by
  rw [ofDigits, List.foldl_append, foldl_digits]
  rfl

theorem length_of_mapM {digits : List Char} {values : List ℕ}
    (read : digits.mapM digitValue? = some values) : values.length = digits.length := by
  induction digits generalizing values with
  | nil =>
      rw [List.mapM_nil] at read
      cases read
      rfl
  | cons first rest ih =>
      simp only [List.mapM_cons, Option.pure_def, Option.bind_eq_bind, Option.bind_eq_some_iff,
        Option.some.injEq] at read
      obtain ⟨value, -, values, found, rfl⟩ := read
      simp only [List.length_cons, ih found]

variable {digits more : List Char} {m n : ℕ}

theorem valueOf?_append (first : valueOf? digits = some m) (second : valueOf? more = some n) :
    valueOf? (digits ++ more) = some (m * 10 ^ more.length + n) := by
  rw [valueOf?, Option.map_eq_some_iff] at first second
  obtain ⟨values, read, rfl⟩ := first
  obtain ⟨others, read', rfl⟩ := second
  rw [valueOf?, List.mapM_append, read, read', ← length_of_mapM read']
  exact congrArg some (ofDigits_append values others)

theorem digitValue?_digitChar {digit : ℕ} (one : digit < 10) :
    digitValue? (Nat.digitChar digit) = some digit := by
  interval_cases digit <;> rfl

theorem valueOf?_digitChar {digit : ℕ} (one : digit < 10) :
    valueOf? [Nat.digitChar digit] = some digit := by
  simp [valueOf?, digitValue?_digitChar one, ofDigits]

theorem valueOf?_zeros (count : ℕ) : valueOf? (List.replicate count '0') = some 0 := by
  induction count with
  | zero => rfl
  | succ count ih =>
      have zero : valueOf? ['0'] = some 0 := rfl
      have zeros := valueOf?_append zero ih
      rwa [Nat.zero_mul, List.singleton_append] at zeros

theorem valueOf?_repr (n : ℕ) : valueOf? (Nat.repr n).toList = some n := by
  rw [Nat.toList_repr]
  induction n using Nat.strong_induction_on with
  | _ n ih =>
      rw [Nat.toDigits_eq_if (by decide)]
      split
      · next one => exact valueOf?_digitChar one
      · next many =>
          have last : n % 10 < 10 := Nat.mod_lt n (by decide)
          rw [valueOf?_append (ih (n / 10) (by omega)) (valueOf?_digitChar last)]
          exact congrArg some (Nat.div_add_mod' n 10)

theorem isDigit_of_mem_repr {c : Char} (member : c ∈ (Nat.repr n).toList) : c.isDigit = true := by
  rw [Nat.toList_repr] at member
  exact Nat.isDigit_of_mem_toDigits (by decide) (by decide) member

theorem takeSign_of_isDigit {c : Char} (digit : c.isDigit = true) (rest : List Char) :
    takeSign (c :: rest) = (false, c :: rest) := by
  unfold takeSign
  split
  · next same =>
      rw [(List.cons.inj same).1] at digit
      exact absurd digit (by decide)
  · next same =>
      rw [(List.cons.inj same).1] at digit
      exact absurd digit (by decide)
  · rfl

theorem isNumeralBlank_of_isDigit {c : Char} (digit : c.isDigit = true) : isNumeralBlank c = false := by
  obtain ⟨low, high⟩ := Char.isDigit_iff_toNat.mp digit
  have low : 48 ≤ c.toNat := low
  have high : c.toNat ≤ 57 := high
  rw [← Bool.not_eq_true]
  simp only [isNumeralBlank, isBlank, Bool.and_eq_true, Bool.or_eq_true, decide_eq_true_eq]
  omega

theorem dropWhile_digits {cs : List Char} (isDigit : ∀ c ∈ cs, c.isDigit = true) :
    cs.dropWhile isNumeralBlank = cs := by
  cases cs with
  | nil => rfl
  | cons c rest =>
      rw [List.dropWhile_cons, isNumeralBlank_of_isDigit (isDigit c List.mem_cons_self)]
      rfl

theorem trimBy_digits {cs : List Char} (isDigit : ∀ c ∈ cs, c.isDigit = true) :
    trimBy isNumeralBlank cs = cs := by
  have reversed : ∀ c ∈ cs.reverse, c.isDigit = true := fun c member =>
    isDigit c (List.mem_reverse.mp member)
  rw [trimBy, dropWhile_digits isDigit, dropWhile_digits reversed, List.reverse_reverse]

theorem digitRun_digits {cs : List Char} {values : List ℕ} (isDigit : ∀ c ∈ cs, c.isDigit = true)
    (read : cs.mapM digitValue? = some values) : digitRun cs = (values, []) := by
  induction cs generalizing values with
  | nil =>
      rw [List.mapM_nil] at read
      cases read
      simp [digitRun, groupedDigits]
  | cons c rest ih =>
      simp only [List.mapM_cons, Option.pure_def, Option.bind_eq_bind, Option.bind_eq_some_iff,
        Option.some.injEq] at read
      obtain ⟨value, first, values, found, rfl⟩ := read
      have others : ∀ c ∈ rest, c.isDigit = true := fun c member =>
        isDigit c (List.mem_cons_of_mem _ member)
      -- no digit is an underscore, so none is skipped
      have next : afterDigit digitValue? rest = rest := by
        unfold afterDigit
        split
        · exact absurd (others '_' List.mem_cons_self) (by decide)
        · rfl
      have left := ih others found
      rw [digitRun] at left ⊢
      rw [groupedDigits, first]
      simp only [next, left]

theorem readInteger_digits {cs : List Char} {n : ℕ} (begun : cs ≠ [])
    (isDigit : ∀ c ∈ cs, c.isDigit = true) (few : cs.length ≤ integerDigitLimit)
    (value : valueOf? cs = some n) : readInteger (String.ofList cs) = .ok n := by
  obtain ⟨values, read, rfl⟩ := Option.map_eq_some_iff.mp value
  have unsigned : takeSign cs = (false, cs) := by
    cases cs with
    | nil => exact absurd rfl begun
    | cons c rest => exact takeSign_of_isDigit (isDigit c List.mem_cons_self) rest
  have length := length_of_mapM read
  have some : values ≠ [] := by
    rw [← List.length_pos_iff, length]
    exact List.length_pos_iff.mpr begun
  have short : ¬ integerDigitLimit < values.length := by omega
  simp [readInteger, trimBy_digits isDigit, integerOf?, unsigned, digitRun_digits isDigit read, some,
    short]

end Jp2Render.Text

namespace Jp2Render.Binary64

open Text

theorem toList_paddedDigits (width n : ℕ) : (paddedDigits width n).toList =
    List.replicate (width - (Nat.repr n).length) '0' ++ (Nat.repr n).toList := by
  simp [paddedDigits]

theorem valueOf?_paddedDigits (width n : ℕ) : valueOf? (paddedDigits width n).toList = some n := by
  rw [toList_paddedDigits, valueOf?_append (valueOf?_zeros _) (valueOf?_repr n), Nat.zero_mul,
    Nat.zero_add]

theorem length_paddedDigits {width n : ℕ} (some : 0 < width) (fits : n < 10 ^ width) :
    (paddedDigits width n).toList.length = width := by
  have short : (Nat.repr n).length ≤ width := (Nat.length_repr_le_iff some).mpr fits
  rw [toList_paddedDigits, List.length_append, List.length_replicate, String.length_toList]
  omega

theorem isDigit_of_mem_paddedDigits {c : Char} {width n : ℕ}
    (member : c ∈ (paddedDigits width n).toList) : c.isDigit = true := by
  rw [toList_paddedDigits, List.mem_append] at member
  rcases member with zero | digit
  · rw [List.eq_of_mem_replicate zero]
    rfl
  · exact isDigit_of_mem_repr digit

end Jp2Render.Binary64
