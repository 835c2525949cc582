import Jp2Render.Picture.Netpbm.Header

/-!
Samples of Netpbm pictures. Samples of full eight or sixteen bits are taken as they are; all others
are scaled from their maxval to the full range. Bytes after the last sample are no part of the
picture.
-/

namespace Jp2Render.Netpbm

def fullRange (mode : PictureMode) : Nat := if mode = .integer then 65535 else 255

def cutOff (range : Nat) : Except Binary64.RoundingFault Int → Int
  | .ok value => min range value
  | .error _ => range

def scaleSample (range maxval sample : Nat) : Int :=
  cutOff range (Binary64.ofRatio false sample maxval * Binary64.ofInt range).round

def bitsOf (b : UInt8) : List Int :=
  (List.range 8).map fun i => if b.toNat >>> (7 - i) % 2 = 1 then 0 else 255

def bitRows (width rowBytes : Nat) : (rows : Nat) → Bytes → List Int
  | 0, _ => []
  | rows + 1, bytes =>
    ((bytes.take rowBytes).flatMap bitsOf).take width ++
      bitRows width rowBytes rows (bytes.drop rowBytes)

def wordsOf : Bytes → List Nat
  | high :: low :: rest => (high.toNat * 256 + low.toNat) :: wordsOf rest
  | _ => []

def wholePart (bits : Nat) : Int :=
  let exponent := bits >>> 23 % 256
  let fraction := bits % (1 <<< 23)
  let magnitude : Nat :=
    if exponent = 255 ∧ fraction ≠ 0 then 0
    else if exponent < 127 then 0
    else (1 <<< 23 + fraction) <<< (exponent - 127) >>> 23
  if bits >>> 31 % 2 = 1 then -(magnitude : Int) else magnitude

def realsOf (lowFirst : Bool) : Bytes → List Int
  | a :: b :: c :: d :: rest =>
    let number (a b c d : UInt8) := ((a.toNat * 256 + b.toNat) * 256 + c.toNat) * 256 + d.toNat
    wholePart (if lowFirst then number d c b a else number a b c d) :: realsOf lowFirst rest
  | _ => []

def rowsReversed (width : Nat) : (rows : Nat) → List Int → List Int
  | 0, _ => []
  | rows + 1, samples => rowsReversed width rows (samples.drop width) ++ samples.take width

def rowsOf (rowBytes rows : Nat) (bytes : Bytes) : Except NetpbmFault Bytes :=
  let kept := bytes.take (rowBytes * rows)
  if kept.length < rowBytes * rows then .error (.truncated (kept.length % rowBytes)) else .ok kept

def enough (count : Nat) (bytes : Bytes) : Except NetpbmFault Bytes :=
  let kept := bytes.take count
  if kept.length < count then .error .tooLittleData else .ok kept

def withoutComments (inComment : Bool) : Bytes → Bytes
  | [] => []
  | b :: rest =>
    if inComment then withoutComments (!isLineEnd b) rest
    else if b = hash then withoutComments true rest
    else b :: withoutComments false rest

def wordsBetween : Bytes → List Bytes
  | [] => []
  | b :: rest =>
    if isBlank b then wordsBetween rest
    else
      match rest with
      | [] => [[b]]
      | next :: _ =>
        if isBlank next then [b] :: wordsBetween rest
        else
          match wordsBetween rest with
          | [] => [[b]]
          | word :: words => (b :: word) :: words

def plainBits (count : Nat) (bytes : Bytes) : Except NetpbmFault (List Int) := do
  let digits := (withoutComments false bytes).filter fun b => !isBlank b
  match digits.find? fun b => b ≠ 48 && b ≠ 49 with
  | some b => throw (.invalidBit b)
  | none =>
    if digits.length < count then throw .tooLittleData
    return (digits.take count).map fun b => if b = 49 then 0 else 255

def tooLong (word : Bytes) : NetpbmFault := .dataTokenTooLong (word.take (tokenLimit + 1))

def plainSample (range maxval : Nat) (word : Bytes) : Except NetpbmFault Int := do
  if tokenLimit < word.length then throw (tooLong word)
  let value ← integerOf word
  if value < 0 then throw (.negativeSample value)
  if (maxval : Int) < value then throw (.sampleTooLarge value)
  return scaleSample range maxval value.toNat

def plainSamples (range maxval : Nat) : (count : Nat) → List Bytes → Except NetpbmFault (List Int)
  | 0, _ => .ok []
  | _ + 1, [] => .error .tooLittleData
  | count + 1, word :: words => do
    let sample ← plainSample range maxval word
    return sample :: (← plainSamples range maxval count words)

/-- A last word that goes on to the end of the bytes must not be too long, wanted or not. -/
def checkLastWord (bytes : Bytes) : Except NetpbmFault Unit :=
  let last := (bytes.reverse.takeWhile fun b => !isBlank b).reverse
  if tokenLimit < last.length then .error (tooLong last) else .ok ()

def samples (mode : PictureMode) (coding : SampleCoding) (width height : Nat) (bytes : Bytes) :
    Except NetpbmFault (List Int) := do
  let row := width * mode.bands
  let count := row * height
  match coding with
  | .plainBits => plainBits count bytes
  | .plain maxval =>
    let text := withoutComments false bytes
    checkLastWord text
    plainSamples (fullRange mode) maxval count (wordsBetween text)
  | .packedBits =>
    let rowBytes := (width + 7) / 8
    return bitRows width rowBytes height (← rowsOf rowBytes height bytes)
  | .bytes => return (← rowsOf row height bytes).map fun b => (b.toNat : Int)
  | .words => return (wordsOf (← rowsOf (2 * row) height bytes)).map Int.ofNat
  | .reals lowFirst =>
    return rowsReversed width height (realsOf lowFirst (← rowsOf (4 * row) height bytes))
  | .scaled maxval =>
    if maxval < 256 then
      return (← enough count bytes).map fun b => scaleSample (fullRange mode) maxval b.toNat
    else
      return (wordsOf (← enough (2 * count) bytes)).map (scaleSample (fullRange mode) maxval)

end Jp2Render.Netpbm
