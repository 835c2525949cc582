import Jp2Render.Picture.Netpbm.Samples

/-!
Pictures in the Netpbm formats, in digits or in binary, of any maxval.
-/

namespace Jp2Render.Netpbm

def sideLimit : Int := 1 <<< 31 - 1

def rowLimit : Int := 1 <<< 29 - 2

def read (bytes : Bytes) : Except NetpbmFault Picture := do
  let (header, rest) ← header bytes
  if sideLimit < header.width ∨ sideLimit < header.height then throw .sideTooLong
  if rowLimit < header.width then throw .outOfMemory
  let width := header.width.toNat
  let height := header.height.toNat
  let samples ← samples header.mode header.coding width height rest
  return { mode := header.mode
           grid := .ofSamples width height header.mode.bands samples.toArray }

end Jp2Render.Netpbm
