import Jp2Render.Picture.Grid

/-!
Pictures. The mode of a picture says what its samples are: light, colours, inks, positions in a
palette, or plain numbers. Pictures of any mode can be brought into gray or into red, green and
blue.
-/

namespace Jp2Render

inductive PictureMode where
  | bilevel
  | gray
  | grayAlpha
  | palette
  | rgb
  | rgba
  | cmyk
  | integer
  | word
  | real
  /-- Any further mode; the samples are the red, green and blue that it comes to. -/
  | other
deriving DecidableEq, Repr

namespace PictureMode

def name : PictureMode → String
  | .bilevel => "1"
  | .gray => "L"
  | .grayAlpha => "LA"
  | .palette => "P"
  | .rgb => "RGB"
  | .rgba => "RGBA"
  | .cmyk => "CMYK"
  | .integer => "I"
  | .word => "I;16"
  | .real => "F"
  | .other => "other"

def all : List PictureMode :=
  [.bilevel, .gray, .grayAlpha, .palette, .rgb, .rgba, .cmyk, .integer, .word, .real]

def ofName? (name : String) : Option PictureMode := all.find? (·.name = name)

def bands : PictureMode → Nat
  | .grayAlpha => 2
  | .rgb | .other => 3
  | .rgba | .cmyk => 4
  | _ => 1

end PictureMode

abbrev Palette := Array Int

namespace Palette

def identity : Palette := Array.ofFn fun i : Fin 768 => (i.val / 3 : Nat)

def part (palette : Palette) (position : Int) (band : Nat) : Int :=
  palette.getD (position.toNat * 3 + band) 0

end Palette

structure Picture where
  mode : PictureMode
  grid : Grid
  palette : Palette := .identity
deriving Repr

namespace Picture

def dimensions (p : Picture) : Dimensions := p.grid.dimensions

def clip (sample : Int) : Int := max 0 (min 255 sample)

/-- The product of two eight-bit values, scaled back to eight bits. -/
def scaledProduct (a b : Int) : Int :=
  let t := a * b + 128
  (t / 256 + t) / 256

def underBlack (ink black : Int) : Int :=
  let light := 255 - black
  clip (light - scaledProduct ink light)

def luma (red green blue : Int) : Int :=
  (19595 * red + 38470 * green + 7471 * blue + 32768) / 65536

def colour (mode : PictureMode) (palette : Palette) (bands : Nat → Int) (band : Nat) : Int :=
  match mode with
  | .bilevel | .gray | .grayAlpha => bands 0
  | .palette => palette.part (bands 0) band
  | .rgb | .rgba | .other => bands band
  | .cmyk => underBlack (bands band) (bands 3)
  | .integer | .word | .real => clip (bands 0)

def light (mode : PictureMode) (palette : Palette) (bands : Nat → Int) : Int :=
  match mode with
  | .bilevel | .gray | .grayAlpha => bands 0
  | .integer | .word | .real => clip (bands 0)
  | _ =>
    let part := colour mode palette bands
    luma (part 0) (part 1) (part 2)

def toRgb (p : Picture) : Picture :=
  if p.mode = .rgb then p
  else { mode := .rgb, grid := p.grid.spread 3 (colour p.mode p.palette) }

def toGray (p : Picture) : Picture :=
  if p.mode = .gray then p
  else { mode := .gray, grid := p.grid.merge (light p.mode p.palette) }

/-- A gray picture in black and white: what is at least half bright becomes white. -/
def toBilevel (p : Picture) : Picture :=
  { mode := .bilevel, grid := p.toGray.grid.mapSamples fun v => if 128 ≤ v then 255 else 0 }

end Picture

end Jp2Render
