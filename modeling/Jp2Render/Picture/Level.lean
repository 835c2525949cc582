import Jp2Render.Picture.Grid

/-!
Levels: light finer than eight bits. A level is a whole number of parts of an eight-bit step, so
that every eight-bit value has a level of its own, and going to levels and back changes nothing.
-/

namespace Jp2Render.Level

def perStep : Int := 1 <<< 48

def ofByte (v : Int) : Int := v * perStep

def roundEven (num den : Int) : Int :=
  let q := num / den
  let twice := 2 * (num % den)
  if twice < den then q else if den < twice then q + 1 else q + q % 2

def toByte (level : Int) : Int := max 0 (min 255 (roundEven level perStep))

def between (first second k den : Int) : Int := (first * (den - k) + second * k) / den

def luma (red green blue : Int) : Int := (2125 * red + 7154 * green + 721 * blue) / 10000

def isBright (level : Int) : Bool := 255 * perStep < 2 * level

theorem perStep_pos : 0 < perStep := by decide

theorem roundEven_mul (v : Int) : roundEven (v * perStep) perStep = v := by
  simp [roundEven, Int.mul_ediv_cancel v (Int.ne_of_gt perStep_pos), perStep_pos]

theorem toByte_ofByte {v : Int} (least : 0 ≤ v) (greatest : v ≤ 255) : toByte (ofByte v) = v := by
  rw [toByte, ofByte, roundEven_mul]
  omega

end Jp2Render.Level
