import Jp2Render.OutputFormat
import Jp2Render.Picture.Netpbm
import Jp2Render.Proofs.Sequencing

/-!
The libraries that pictures are read, drawn and written with. What they make of a picture is part of
the program; whether they make it at all is theirs to say: a library may refuse a task for want of
memory, for a limit of its own, or for any other reason.
-/

namespace Jp2Render

inductive PictureTask where
  | copy
  | scale (target : Dimensions)
  | mirror
  | turn (canvas : Dimensions)
  | toGray
  | toBilevel
  | toRgb
  | write (format : OutputFormat) (quality : Int)
deriving DecidableEq, Repr

inductive ArrayTask where
  /-- Samples are taken into levels. -/
  | load
  | scale (target : Dimensions)
  | turn (canvas : Dimensions)
  | gray
  | bitonal
  /-- Levels are brought back into a picture. An array has any sides that there is memory for, a picture
  only those that a machine word can count: what is longer is refused with an overflow. -/
  | show
deriving DecidableEq, Repr

structure Library (Task Subject : Type) where
  refusal? : Task → Subject → Option LibraryFault

namespace Library

variable {Task Subject : Type}

def willing : Library Task Subject := ⟨fun _ _ => none⟩

def ask (library : Library Task Subject) (task : Task) (subject : Subject) :
    Except PictureFault Unit :=
  match library.refusal? task subject with
  | some fault => .error (.library fault)
  | none => .ok ()

end Library

namespace Netpbm

theorem positive_header {bytes rest : Bytes} {shape : Header}
    (shaped : header bytes = .ok (shape, rest)) : 0 < shape.width ∧ 0 < shape.height := by
  unfold header at shaped
  simp only at shaped
  split at shaped
  · cases shaped
  · obtain ⟨width, -, shaped⟩ := bind_eq_ok_iff.mp shaped
    obtain ⟨height, -, shaped⟩ := bind_eq_ok_iff.mp shaped
    obtain ⟨measured, -, shaped⟩ := bind_eq_ok_iff.mp shaped
    split at shaped
    · cases shaped
    · next area =>
      have same := congrArg Prod.fst (pure_eq_ok_iff.mp shaped)
      simp only at same
      rw [← same]
      simp only
      omega

theorem isCounted_read {bytes : Bytes} {picture : Picture} (done : read bytes = .ok picture) :
    picture.dimensions.IsCounted := by
  unfold read at done
  simp only at done
  obtain ⟨⟨shape, rest⟩, shaped, done⟩ := bind_eq_ok_iff.mp done
  obtain ⟨wide, high⟩ := positive_header shaped
  split at done
  · cases done
  · next counted =>
    split at done
    · cases done
    · obtain ⟨samples, -, done⟩ := bind_eq_ok_iff.mp done
      rw [← pure_eq_ok_iff.mp done]
      simp only [sideLimit] at counted
      constructor
      · simp only [Dimensions.IsPositive, Picture.dimensions, Grid.ofSamples, Grid.dimensions_ofFn]
        omega
      · simp only [Dimensions.IsLong, Dimensions.longSide, Picture.dimensions, Grid.ofSamples,
          Grid.dimensions_ofFn]
        omega

end Netpbm

/-- What takes bytes as a picture, in whatever formats it knows. A picture that has been read has sides
that can be counted. -/
structure PictureReader where
  read : Bytes → Except LibraryFault Picture
  counted : ∀ {bytes picture}, read bytes = .ok picture → picture.dimensions.IsCounted

def PictureReader.netpbm : PictureReader where
  read bytes := (Netpbm.read bytes).mapError NetpbmFault.toLibrary
  counted done := Netpbm.isCounted_read (mapError_eq_ok_iff.mp done)

structure Libraries where
  reader : PictureReader
  pictures : Library PictureTask Picture
  arrays : Library ArrayTask Grid

/-- Libraries that do whatever they are asked to do, and read the formats that the decoder writes. -/
def Libraries.willing : Libraries := ⟨.netpbm, .willing, .willing⟩

end Jp2Render
