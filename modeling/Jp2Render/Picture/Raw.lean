import Jp2Render.Picture.Netpbm.Samples

/-!
Pictures as raw bytes: row by row, the bands of a place together, without any header. Whole numbers
have their low byte first; black and white takes one bit a sample in rows of whole bytes, and a bit
that is set is white.
-/

namespace Jp2Render.Picture

def lowFirst (bytes : Bytes) : Nat := bytes.foldr (fun b value => b.toNat + 256 * value) 0

def rawWords : Bytes → List Int
  | a :: b :: rest => lowFirst [a, b] :: rawWords rest
  | _ => []

def rawIntegers : Bytes → List Int
  | a :: b :: c :: d :: rest =>
    Int.bmod (lowFirst [a, b, c, d]) (1 <<< 32) :: rawIntegers rest
  | _ => []

def rawSamples (mode : PictureMode) (width height : Nat) (bytes : Bytes) : List Int :=
  match mode with
  | .bilevel => (Netpbm.bitRows width ((width + 7) / 8) height bytes).map (255 - ·)
  | .integer => rawIntegers bytes
  | .word => rawWords bytes
  | .real => Netpbm.realsOf true bytes
  | _ => bytes.map fun b => b.toNat

def rawPalette (bytes : Bytes) : Palette :=
  if bytes.isEmpty then .identity else (bytes.map fun b => (b.toNat : Int)).toArray

def ofRaw (mode : PictureMode) (width height : Nat) (bytes palette : Bytes) : Picture :=
  { mode
    grid := .ofSamples width height mode.bands (rawSamples mode width height bytes).toArray
    palette := rawPalette palette }

end Jp2Render.Picture
