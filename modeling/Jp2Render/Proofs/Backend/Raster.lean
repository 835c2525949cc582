import Jp2Render.Backend.Raster
import Jp2Render.Proofs.Backend.Changes

/-!
Dimensions in the backend that works on pixels. They are read off the picture that is held, so each
step has to make a picture of the right ones; where a step draws on a new canvas, the canvas has
short sides.
-/

namespace Jp2Render

theorem Lanczos.dimensions_resize (g : Grid) (width height : Nat) :
    (resize g width height).dimensions = ⟨width, height⟩ := by
  have rows (g : Grid) : (if width = g.width then g else resizeRows g width).width = width ∧
      (if width = g.width then g else resizeRows g width).height = g.height := by
    split
    · next same => exact ⟨same.symm, rfl⟩
    · exact ⟨rfl, rfl⟩
  have columns (g : Grid) : (if height = g.height then g else resizeColumns g height).width =
        g.width ∧
      (if height = g.height then g else resizeColumns g height).height = height := by
    split
    · next same => exact ⟨rfl, same.symm⟩
    · exact ⟨rfl, rfl⟩
  unfold resize Grid.dimensions
  simp only
  split
  · rw [(rows _).1, (rows _).2, (columns _).2]
  · rw [(columns _).1, (columns _).2, (rows _).1]

namespace Picture

theorem dimensions_toGray (picture : Picture) : picture.toGray.dimensions = picture.dimensions := by
  unfold toGray
  split <;> rfl

theorem dimensions_toRgb (picture : Picture) : picture.toRgb.dimensions = picture.dimensions := by
  unfold toRgb
  split <;> rfl

theorem dimensions_toBilevel (picture : Picture) :
    picture.toBilevel.dimensions = picture.dimensions := dimensions_toGray picture

end Picture

namespace HeldPicture

theorem content_eq_ok {held : HeldPicture} {picture : Picture} (content : held.content = .ok picture) :
    picture.dimensions = held.dimensions := by
  unfold HeldPicture.content at content
  split at content
  · cases content
  · rw [dimensions, Except.ok.inj content]

end HeldPicture

namespace RasterBackend

variable {libraries : Libraries}

theorem checkCanvas_eq_ok {canvas : Dimensions} {u : Unit} (fits : checkCanvas canvas = .ok u) :
    canvas.IsCounted := by
  unfold checkCanvas at fits
  split at fits
  · cases fits
  · next short =>
    split at fits
    · next positive => exact ⟨positive, short⟩
    · cases fits

theorem dimensions_resized (picture : Picture) {target : Dimensions}
    (positive : target.IsPositive) : (resized picture target).dimensions = target := by
  unfold resized Picture.dimensions
  cases picture.mode with
  | bilevel => exact Dimensions.ofNat_toNat positive
  | _ => exact (Lanczos.dimensions_resize _ _ _).trans (Dimensions.ofNat_toNat positive)

theorem scaled_eq_ok {target : Dimensions} {held : HeldPicture} {picture : Picture}
    (done : scaled libraries target held = .ok picture) :
    ∃ content, held.content = .ok content ∧ target.IsCounted ∧ picture = resized content target := by
  rw [scaled, bind_eq_ok_iff] at done
  obtain ⟨content, found, done⟩ := done
  obtain ⟨_, fits, done⟩ := bind_eq_ok_iff.mp done
  obtain ⟨_, -, done⟩ := bind_eq_ok_iff.mp done
  exact ⟨content, found, checkCanvas_eq_ok fits, (pure_eq_ok_iff.mp done).symm⟩

theorem scale_takes {target : Dimensions} {before after : HeldPicture}
    (scaled : scale libraries target before = .ok after) : after.dimensions = target := by
  unfold scale at scaled
  split at scaled
  · next same => rw [← Except.ok.inj scaled, same]
  · split at scaled
    · next picture drawn =>
      obtain ⟨content, -, counted, rfl⟩ := scaled_eq_ok drawn
      rw [← Except.ok.inj scaled]
      exact dimensions_resized content counted.positive
    · cases scaled

theorem turned_takes {degrees : Binary64} {held : HeldPicture} {picture : Picture}
    (turned : turned libraries degrees held = .ok picture) :
    Rotation.boundingBox held.dimensions degrees = .ok picture.dimensions ∧
      picture.dimensions.IsCounted := by
  rw [RasterBackend.turned, bind_eq_ok_iff] at turned
  obtain ⟨⟨canvas, map⟩, drawn, turned⟩ := turned
  have bounded := Rotation.boundingBox_of_canvasAndMap (mapError_eq_ok_iff.mp drawn)
  obtain ⟨_, fits, turned⟩ := bind_eq_ok_iff.mp turned
  obtain ⟨_, -, turned⟩ := bind_eq_ok_iff.mp turned
  obtain ⟨source, -, turned⟩ := bind_eq_ok_iff.mp turned
  have counted := checkCanvas_eq_ok fits
  have dimensions : picture.dimensions = canvas := by
    rw [← pure_eq_ok_iff.mp turned, Picture.dimensions]
    simp only
    cases source.mode <;> exact Dimensions.ofNat_toNat counted.positive
  rw [dimensions]
  exact ⟨bounded, counted⟩

theorem turn_takes {degrees : Binary64} {before after : HeldPicture}
    (turned : turn libraries degrees before = .ok after) :
    Rotation.Turns degrees before.dimensions after.dimensions := by
  unfold Rotation.Turns
  unfold turn at turned
  split at turned
  · rw [if_pos ‹_›, Except.ok.inj turned]
  · obtain ⟨picture, drawn, rfl⟩ := map_eq_ok_iff.mp turned
    rw [if_neg ‹_›]
    exact (turned_takes drawn).1

theorem turn_short {degrees : Binary64} {before after : HeldPicture}
    (turned : turn libraries degrees before = .ok after) (some : ¬ degrees.isZero = true) :
    after.dimensions.width < 2 ^ 31 ∧ after.dimensions.height < 2 ^ 31 := by
  rw [turn, if_neg some] at turned
  obtain ⟨picture, drawn, rfl⟩ := map_eq_ok_iff.mp turned
  have short : ¬ picture.dimensions.IsLong := (turned_takes drawn).2.short
  rw [Dimensions.IsLong, Dimensions.longSide, not_or, not_le, not_le] at short
  exact short

theorem mirrored_dimensions {before after : HeldPicture}
    (mirrored : mirrored libraries before = .ok after) : after.dimensions = before.dimensions := by
  obtain ⟨picture, content, mirrored⟩ := bind_eq_ok_iff.mp mirrored
  obtain ⟨_, -, mirrored⟩ := bind_eq_ok_iff.mp mirrored
  rw [← pure_eq_ok_iff.mp mirrored, ← HeldPicture.content_eq_ok content]
  rfl

theorem rotate_turns {rotation : Rotation} {before after : HeldPicture}
    (rotated : rotate libraries rotation before = .ok after) :
    ∃ mirrored, mirrored.dimensions = before.dimensions ∧
      turn libraries rotation.normalized mirrored = .ok after := by
  unfold rotate at rotated
  split at rotated
  · split at rotated
    · cases rotated
    · next mirrored done =>
      exact ⟨mirrored, mirrored_dimensions done, mapError_eq_ok_iff.mp rotated⟩
  · exact ⟨before, rfl, mapError_eq_ok_iff.mp rotated⟩

theorem grayed_eq_ok {before after : HeldPicture} (done : grayed libraries before = .ok after) :
    after = before ∨ ∃ picture, before.content = .ok picture ∧ after = { picture := picture.toGray } := by
  unfold grayed at done
  split at done
  · exact .inl (Except.ok.inj done).symm
  · obtain ⟨picture, content, done⟩ := bind_eq_ok_iff.mp done
    obtain ⟨_, -, done⟩ := bind_eq_ok_iff.mp done
    exact .inr ⟨picture, content, (pure_eq_ok_iff.mp done).symm⟩

theorem grayed_dimensions {before after : HeldPicture} (done : grayed libraries before = .ok after) :
    after.dimensions = before.dimensions := by
  rcases grayed_eq_ok done with rfl | ⟨picture, content, rfl⟩
  · rfl
  · exact (Picture.dimensions_toGray picture).trans (HeldPicture.content_eq_ok content)

theorem blackened_eq_ok {before after : HeldPicture} (done : blackened libraries before = .ok after) :
    ∃ gray picture, grayed libraries before = .ok gray ∧ gray.content = .ok picture ∧
      after = { picture := picture.toBilevel } := by
  obtain ⟨gray, first, done⟩ := bind_eq_ok_iff.mp done
  obtain ⟨picture, content, done⟩ := bind_eq_ok_iff.mp done
  obtain ⟨_, -, done⟩ := bind_eq_ok_iff.mp done
  exact ⟨gray, picture, mapError_eq_ok_iff.mp first, mapError_eq_ok_iff.mp content,
    (pure_eq_ok_iff.mp done).symm⟩

theorem filter_dimensions {quality : Quality} {before after : HeldPicture}
    (filtered : filter libraries quality before = .ok after) :
    after.dimensions = before.dimensions := by
  unfold filter at filtered
  split at filtered
  · exact grayed_dimensions (mapError_eq_ok_iff.mp filtered)
  · obtain ⟨gray, picture, first, content, rfl⟩ := blackened_eq_ok filtered
    rw [← grayed_dimensions first, ← HeldPicture.content_eq_ok content]
    exact Picture.dimensions_toBilevel picture
  · rw [Except.ok.inj filtered]
  · rw [Except.ok.inj filtered]

theorem adjust_takes {adjustment : Adjustment} {before after : HeldPicture}
    (adjusted : (rasterBackend libraries).adjust adjustment before = .ok after) :
    adjustment.Takes before.dimensions after.dimensions := by
  cases adjustment with
  | scale target => exact scale_takes adjusted
  | rotate rotation =>
      obtain ⟨mirrored, same, turned⟩ := rotate_turns adjusted
      have taken := turn_takes turned
      rw [same] at taken
      exact taken
  | filter quality => exact filter_dimensions adjusted

end RasterBackend

end Jp2Render
