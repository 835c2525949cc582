import Jp2Render.Backend.Basic
import Jp2Render.Proofs.Turning

/-!
What changes make of dimensions. Each change to a picture has dimensions to give, which depend on
those before it alone; a backend that gives them is in step with any other that does.
-/

namespace Jp2Render

def Rotation.Turns (degrees : Binary64) (before after : Dimensions) : Prop :=
  if degrees.isZero then after = before else boundingBox before degrees = .ok after

def Adjustment.Takes : Adjustment → Dimensions → Dimensions → Prop
  | .scale target, _, after => after = target
  | .rotate rotation, before, after => Rotation.Turns rotation.normalized before after
  | .filter _, before, after => after = before

theorem Rotation.turns_unique {degrees : Binary64} {before first second : Dimensions}
    (turned : Turns degrees before first) (turned' : Turns degrees before second) :
    first = second := by
  unfold Turns at turned turned'
  split at turned
  · rw [if_pos ‹_›] at turned'
    rw [turned, turned']
  · rw [if_neg ‹_›, turned] at turned'
    exact Except.ok.inj turned'

theorem Adjustment.takes_unique {adjustment : Adjustment} {before first second : Dimensions}
    (taken : adjustment.Takes before first) (taken' : adjustment.Takes before second) :
    first = second := by
  cases adjustment with
  | scale target => exact taken.trans taken'.symm
  | rotate rotation => exact Rotation.turns_unique taken taken'
  | filter quality => exact taken.trans taken'.symm

theorem Dimensions.ofNat_toNat {canvas : Dimensions} (positive : canvas.IsPositive) :
    (⟨canvas.width.toNat, canvas.height.toNat⟩ : Dimensions) = canvas := by
  obtain ⟨width, height⟩ := canvas
  obtain ⟨wide, high⟩ := positive
  simp only at wide high
  simp only [Dimensions.mk.injEq]
  omega

theorem Rotation.boundingBox_of_canvasAndMap {source canvas : Dimensions} {degrees : Binary64}
    {origin : PixelOrigin} {map : AffineMap Binary64}
    (drawn : canvasAndMap source degrees origin = .ok (canvas, map)) :
    boundingBox source degrees = .ok canvas := by
  rw [canvasAndMap, bind_eq_ok_iff] at drawn
  obtain ⟨box, bounded, drawn⟩ := drawn
  simp only [bind_eq_ok_iff, pure_eq_ok_iff] at drawn
  obtain ⟨_, _, _, _, _, _, _, _, same⟩ := drawn
  rw [bounded, (Prod.mk.inj same).1]

end Jp2Render
