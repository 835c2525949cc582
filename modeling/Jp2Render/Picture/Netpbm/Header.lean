import Jp2Render.Picture.Basic
import Jp2Render.Picture.Netpbm.Fault
import Jp2Render.Text.Numeral

/-!
Headers of Netpbm pictures. A header is a magic word and some tokens between blanks: the width, the
height, and what the samples are measured by. A comment reaches from a hash to the end of its line
and does not part a token. The byte after the last token is the header's last.
-/

namespace Jp2Render.Netpbm

def isBlank (b : UInt8) : Bool := b = 32 || (9 ≤ b && b ≤ 13)

def isLineEnd (b : UInt8) : Bool := b = 10 || b = 13

def hash : UInt8 := 35

def takeWord : Nat → Bytes → Bytes × Bytes
  | 0, bytes => ([], bytes)
  | _ + 1, [] => ([], [])
  | room + 1, b :: rest =>
    if isBlank b then ([], rest)
    else
      let (word, left) := takeWord room rest
      (b :: word, left)

def tokenLimit : Nat := 10

def takeToken (begun : Bytes) (inComment : Bool) : Bytes → Bytes × Bytes
  | [] => (begun, [])
  | b :: rest =>
    if inComment then takeToken begun (!isLineEnd b) rest
    else if isBlank b then (if begun.isEmpty then takeToken [] false rest else (begun, rest))
    else if b = hash then takeToken begun true rest
    else if begun.length = tokenLimit then (begun ++ [b], rest)
    else takeToken (begun ++ [b]) false rest

def token (bytes : Bytes) : Except NetpbmFault (Bytes × Bytes) :=
  let (token, rest) := takeToken [] false bytes
  if token.isEmpty then .error .headerEnds
  else if tokenLimit < token.length then .error (.headerTokenTooLong token)
  else .ok (token, rest)

def asciiText? (bytes : Bytes) : Option String :=
  if bytes.all (· < 128) then some (String.ofList (bytes.map fun b => Char.ofNat b.toNat)) else none

def integerOf (token : Bytes) : Except NetpbmFault Int :=
  match (asciiText? token).map Text.readInteger with
  | some (.ok value) => .ok value
  | _ => .error (.notAnInteger token)

def realOf (token : Bytes) : Except NetpbmFault Binary64 :=
  match (asciiText? token).map Text.readReal with
  | some (.ok value) => .ok value
  | _ => .error (.notAReal token)

def integerToken (bytes : Bytes) : Except NetpbmFault (Int × Bytes) := do
  let (token, rest) ← token bytes
  return (← integerOf token, rest)

def realToken (bytes : Bytes) : Except NetpbmFault (Binary64 × Bytes) := do
  let (token, rest) ← token bytes
  return (← realOf token, rest)

def formats : List (String × PictureMode × Bool) :=
  [("P1", .bilevel, true), ("P2", .gray, true), ("P3", .rgb, true),
   ("P4", .bilevel, false), ("P5", .gray, false), ("P6", .rgb, false),
   ("P0CMYK", .cmyk, false), ("Pf", .real, false),
   ("PyP", .palette, false), ("PyRGBA", .rgba, false), ("PyCMYK", .cmyk, false)]

def magicLimit : Nat := 6

inductive SampleCoding where
  | plainBits
  | plain (maxval : Nat)
  | packedBits
  | bytes
  | words
  | scaled (maxval : Nat)
  /-- Four bytes each, the rows from bottom to top. -/
  | reals (lowFirst : Bool)
deriving DecidableEq, Repr

structure Header where
  mode : PictureMode
  width : Int
  height : Int
  coding : SampleCoding
deriving DecidableEq, Repr

/-- The coding of samples up to a maxval, and the mode that holds them: light finer than eight bits
is kept as plain numbers. -/
def codingFor (mode : PictureMode) (plain : Bool) (maxval : Nat) : PictureMode × SampleCoding :=
  let wide := mode = .gray && decide (255 < maxval)
  (if wide then .integer else mode,
    if plain then .plain maxval
    else if wide && maxval = 65535 then .words
    else if maxval = 255 then .bytes
    else .scaled maxval)

def maxvalToken (bytes : Bytes) : Except NetpbmFault (Nat × Bytes) := do
  let (maxval, rest) ← integerToken bytes
  if 0 < maxval ∧ maxval < 65536 then return (maxval.toNat, rest) else throw .maxvalOutOfRange

def measure (mode : PictureMode) (plain : Bool) (bytes : Bytes) :
    Except NetpbmFault ((PictureMode × SampleCoding) × Bytes) :=
  match mode with
  | .bilevel => .ok ((mode, if plain then .plainBits else .packedBits), bytes)
  | .real => do
    let (scale, rest) ← realToken bytes
    if scale.isFinite && !scale.isZero then return ((mode, .reals scale.isNegative), rest)
    else throw .scaleOutOfRange
  | _ => do
    let (maxval, rest) ← maxvalToken bytes
    return (codingFor mode plain maxval, rest)

def formatOf? (magic : Bytes) : Option (PictureMode × Bool) :=
  (asciiText? magic).bind fun word => formats.lookup word

def header (bytes : Bytes) : Except NetpbmFault (Header × Bytes) := do
  let (magic, rest) := takeWord magicLimit bytes
  match formatOf? magic with
  | none => throw .unidentified
  | some (mode, plain) =>
    let (width, rest) ← integerToken rest
    let (height, rest) ← integerToken rest
    let ((mode, coding), rest) ← measure mode plain rest
    if width ≤ 0 ∨ height ≤ 0 then throw .unidentified
    return ({ mode, width, height, coding }, rest)

end Jp2Render.Netpbm
