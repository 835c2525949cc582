/-!
Blank characters: the white space of Unicode, which is trimmed from text, and the narrower class
that may surround a numeral.
-/

namespace Jp2Render.Text

/-- White space of Unicode, the four information separators included. -/
def isBlank (c : Char) : Bool :=
  let n := c.toNat
  (9 ≤ n && n ≤ 13) || (28 ≤ n && n ≤ 32) || n = 0x85 || n = 0xA0 || n = 0x1680 ||
    (0x2000 ≤ n && n ≤ 0x200A) || n = 0x2028 || n = 0x2029 || n = 0x202F || n = 0x205F || n = 0x3000

/-- White space that may surround a numeral: the information separators may not. -/
def isNumeralBlank (c : Char) : Bool :=
  isBlank c && !(28 ≤ c.toNat && c.toNat ≤ 31)

def trimBy (inClass : Char → Bool) (cs : List Char) : List Char :=
  ((cs.dropWhile inClass).reverse.dropWhile inClass).reverse

def trim (s : String) : String := String.ofList (trimBy isBlank s.toList)

end Jp2Render.Text
