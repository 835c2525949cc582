import Jp2Render.Text.Numeral

/-!
Characters of numerals. A numeral consists of digits, signs, points and underscores, of the letters of
exponents and of those that name an infinity or what is no number, with blanks around it. So a text in
which another character stands is not read as a number; commas and exclamation marks are such.
-/

namespace Jp2Render.Text

def isNumeralCharacter (c : Char) : Bool :=
  isNumeralBlank c || (digitValue? c).isSome || c ∈ ['+', '-', '_', '.'] ||
    c.toLower ∈ ['a', 'e', 'f', 'i', 'n', 't', 'y']

def AreNumeral (cs : List Char) : Prop := ∀ c ∈ cs, isNumeralCharacter c = true

namespace AreNumeral

variable {cs rest : List Char} {c : Char}

theorem nil : AreNumeral [] := nofun

theorem cons (first : isNumeralCharacter c = true) (others : AreNumeral rest) :
    AreNumeral (c :: rest) := by
  intro d member
  rcases List.mem_cons.mp member with rfl | later
  · exact first
  · exact others d later

theorem of_afterDigit (left : AreNumeral (afterDigit digitValue? cs)) : AreNumeral cs := by
  unfold afterDigit at left
  split at left
  · split at left
    · exact cons rfl left
    · exact left
  · exact left

theorem of_digitRun (left : AreNumeral (digitRun cs).2) : AreNumeral cs := by
  unfold digitRun at left
  fun_induction groupedDigits digitValue? cs with
  | case1 => exact nil
  | case2 c rest other => exact left
  | case3 c rest value digit values after taken ih =>
      rw [taken] at ih
      refine cons ?_ (of_afterDigit (ih left))
      simp [isNumeralCharacter, digit]

theorem of_takeSign (left : AreNumeral (takeSign cs).2) : AreNumeral cs := by
  unfold takeSign at left
  split at left
  · exact cons rfl left
  · exact cons rfl left
  · exact left

theorem of_takeFraction (left : AreNumeral (takeFraction cs).2) : AreNumeral cs := by
  unfold takeFraction at left
  split at left
  · exact cons rfl (of_digitRun left)
  · exact left

theorem of_takeExponent {exponent : Int} (taken : takeExponent cs = some (exponent, rest))
    (left : AreNumeral rest) : AreNumeral cs := by
  unfold takeExponent at taken
  split at taken
  · next c more =>
    split at taken
    · next mark =>
      rw [Bool.or_eq_true, decide_eq_true_eq, decide_eq_true_eq] at mark
      dsimp only at taken
      split at taken
      · cases taken
      · obtain ⟨-, rfl⟩ := Prod.mk.inj (Option.some.inj taken)
        refine cons ?_ (of_takeSign (of_digitRun left))
        rcases mark with rfl | rfl <;> rfl
    · obtain ⟨-, rfl⟩ := Prod.mk.inj (Option.some.inj taken)
      exact left
  · exact nil

theorem of_name {name : List Char} (letters : name ⊆ ['a', 'e', 'f', 'i', 'n', 't', 'y'])
    (spelled : String.ofList (cs.map Char.toLower) = String.ofList name) : AreNumeral cs := by
  intro c member
  have letter : c.toLower ∈ name := by
    rw [← String.ofList_injective spelled]
    exact List.mem_map_of_mem member
  simp only [isNumeralCharacter, Bool.or_eq_true, decide_eq_true_eq]
  exact .inr (letters letter)

theorem of_decimalOf? {negative : Bool} {x : Binary64} (read : decimalOf? negative cs = some x) :
    AreNumeral cs := by
  unfold decimalOf? at read
  dsimp only at read
  split at read
  · cases read
  · split at read
    · next exponent taken => exact of_digitRun (of_takeFraction (of_takeExponent taken nil))
    · cases read

theorem of_realOf? {x : Binary64} (read : realOf? cs = some x) : AreNumeral cs := by
  unfold realOf? at read
  dsimp only at read
  refine of_takeSign ?_
  split at read
  · next infinite =>
    rw [Bool.or_eq_true, decide_eq_true_eq, decide_eq_true_eq] at infinite
    rcases infinite with short | long
    · exact of_name (by decide) short
    · exact of_name (by decide) long
  · split at read
    · next named => exact of_name (by decide) named
    · exact of_decimalOf? read

theorem of_integerOf? {n : Int} (read : integerOf? cs = some (.ok n)) : AreNumeral cs := by
  unfold integerOf? at read
  dsimp only at read
  refine of_takeSign (of_digitRun ?_)
  split at read
  · cases read
  · split at read
    · cases read
    · split at read
      · next ended =>
        rw [List.isEmpty_iff.mp ended]
        exact nil
      · cases read

theorem of_dropWhile (left : AreNumeral (cs.dropWhile isNumeralBlank)) : AreNumeral cs := by
  induction cs with
  | nil => exact nil
  | cons c rest ih =>
      rw [List.dropWhile_cons] at left
      split at left
      · next blank => exact cons (by simp [isNumeralCharacter, blank]) (ih left)
      · exact left

theorem of_reverse (left : AreNumeral cs.reverse) : AreNumeral cs := fun c member =>
  left c (List.mem_reverse.mpr member)

theorem of_trimBy (left : AreNumeral (trimBy isNumeralBlank cs)) : AreNumeral cs := by
  refine of_dropWhile (of_reverse (of_dropWhile (of_reverse ?_)))
  exact left

end AreNumeral

variable {cs : List Char}

theorem areNumeral_of_readInteger {n : Int} (read : readInteger (String.ofList cs) = .ok n) :
    AreNumeral cs := by
  unfold readInteger at read
  rw [String.toList_ofList] at read
  split at read
  · cases read
  · cases read
  · next value found => exact .of_trimBy (.of_integerOf? found)

theorem areNumeral_of_readReal {x : Binary64} (read : readReal (String.ofList cs) = .ok x) :
    AreNumeral cs := by
  unfold readReal at read
  rw [String.toList_ofList] at read
  split at read
  · next value found => exact .of_trimBy (.of_realOf? found)
  · cases read

end Jp2Render.Text
