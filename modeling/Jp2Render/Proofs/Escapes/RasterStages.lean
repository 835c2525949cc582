import Jp2Render.Proofs.Escapes.Stages

/-!
Stages of the backend that works on pixels. Each step draws at once, so each step that needs a canvas
may fail for it. Between the steps a picture is held that has not been released, is plain, and has the
dimensions that were asked for; those of the raster and of the target can be counted.
-/

namespace Jp2Render

structure HeldPicture.Shows (held : HeldPicture) (d : Dimensions) : Prop where
  kept : held.released = false
  dimensions : held.dimensions = d
  plain : held.picture.IsPlain

theorem HeldPicture.Shows.content {held : HeldPicture} {d : Dimensions} (shows : held.Shows d) :
    held.content = .ok held.picture := by
  rw [HeldPicture.content, shows.kept]
  rfl

theorem HeldPicture.Shows.content_eq {held : HeldPicture} {d : Dimensions} {picture : Picture}
    (shows : held.Shows d) (content : held.content = .ok picture) : picture = held.picture :=
  Except.ok.inj (content.symm.trans shows.content)

theorem Picture.mode_toGray (picture : Picture) : picture.toGray.mode = .gray := by
  unfold toGray
  split
  · assumption
  · rfl

namespace RasterBackend

variable {libraries : Libraries} {held next : HeldPicture} {before after target : Dimensions}
  {degrees : Binary64} {rotation : Rotation}

theorem failsWith_checkCanvas {canvas : Dimensions} :
    FailsWith PictureFault.Spills (checkCanvas canvas) ↔ canvas.IsLong := by
  unfold checkCanvas
  -- only the first check spills, and it comes before the one that does not
  split
  · next long => exact iff_of_true (failsWith_error.mpr (PictureFault.spills_sideTooLong _)) long
  · next short =>
    refine iff_of_false ?_ short
    split
    · exact not_failsWith_ok _
    · exact not_failsWith_error PictureFault.not_spills_noArea

theorem failsWith_scale (shows : held.Shows before) :
    FailsWith (·.fault.Spills) (scale libraries target held) ↔ target ≠ before ∧ target.IsLong := by
  have drawn : FailsWith PictureFault.Spills (scaled libraries target held) ↔ target.IsLong := by
    rw [scaled, shows.content, ok_bind, ← failsWith_checkCanvas]
    exact failsWith_bind_left fun _ =>
      not_failsWith_bind Library.not_spills_ask fun _ => not_failsWith_pure _
  unfold scale
  split
  · next same =>
    rw [shows.dimensions] at same
    exact iff_of_false (not_failsWith_ok held) fun changed => changed.1 same.symm
  · next other =>
    rw [shows.dimensions] at other
    rw [and_iff_right (Ne.symm other), ← drawn]
    cases scaled libraries target held with
    | error fault => simp only [failsWith_error]
    | ok picture => simp only [not_failsWith_ok]

theorem shows_scale (shows : held.Shows before) (counted : before.IsCounted)
    (done : scale libraries target held = .ok next) : next.Shows target ∧ target.IsCounted := by
  have dimensions := scale_takes done
  unfold scale at done
  split at done
  · next same =>
    rw [shows.dimensions] at same
    rw [← Except.ok.inj done] at dimensions ⊢
    exact ⟨⟨shows.kept, dimensions, shows.plain⟩, same ▸ counted⟩
  · split at done
    · next picture drawn =>
      obtain ⟨content, found, counted, rfl⟩ := scaled_eq_ok drawn
      obtain rfl := shows.content_eq found
      rw [← Except.ok.inj done] at dimensions ⊢
      exact ⟨⟨rfl, dimensions, shows.plain⟩, counted⟩
    · cases done

theorem mirrored_eq_ok_iff (shows : held.Shows before) :
    (∃ next, mirrored libraries held = .ok next) ↔
      libraries.pictures.refusal? .mirror held.picture = none := by
  rw [mirrored, shows.content, ok_bind]
  constructor
  · rintro ⟨next, done⟩
    obtain ⟨_, willing, -⟩ := bind_eq_ok_iff.mp done
    exact Library.ask_eq_ok_iff.mp willing
  · intro willing
    exact ⟨_, bind_eq_ok_iff.mpr ⟨(), Library.ask_eq_ok_iff.mpr willing, rfl⟩⟩

theorem shows_mirrored (shows : held.Shows before) (done : mirrored libraries held = .ok next) :
    next.Shows before := by
  have dimensions := mirrored_dimensions done
  rw [mirrored, shows.content, ok_bind] at done
  obtain ⟨_, -, done⟩ := bind_eq_ok_iff.mp done
  rw [← pure_eq_ok_iff.mp done] at dimensions ⊢
  exact ⟨rfl, dimensions.trans shows.dimensions, shows.plain⟩

theorem not_spills_mirrored (shows : held.Shows before) :
    ¬ FailsWith PictureFault.Spills (mirrored libraries held) := by
  rw [mirrored, shows.content, ok_bind]
  exact not_failsWith_bind Library.not_spills_ask fun _ => not_failsWith_pure _

theorem failsWith_turn (shows : held.Shows before) (counted : before.IsCounted) :
    FailsWith PictureFault.Spills (turn libraries degrees held) ↔
      Rotation.Overturns degrees before := by
  unfold turn Rotation.Overturns
  split
  · next upright =>
    rw [upright]
    exact iff_of_false (not_failsWith_ok held) fun overturned => Bool.noConfusion overturned.1
  · next turns =>
    rw [failsWith_map, turned, shows.dimensions, and_iff_right (Bool.eq_false_iff.mpr turns)]
    rcases Rotation.canvasAndMap_counted counted degrees .corner with
      ⟨nan, undrawn⟩ | ⟨box, map, bounded, drawn⟩
    · rw [undrawn, nan, mapError_error, error_bind, failsWith_error]
      exact iff_of_false (by simp) (by simp)
    · rw [drawn, mapError_ok, ok_bind]
      simp only [bounded, Except.ok.injEq, exists_eq_left']
      rw [shows.content, ← failsWith_checkCanvas]
      exact failsWith_bind_left fun _ =>
        not_failsWith_bind Library.not_spills_ask fun _ => not_failsWith_pure _

theorem shows_turn (shows : held.Shows before) (done : turn libraries degrees held = .ok next) :
    ∃ after, next.Shows after := by
  unfold turn at done
  split at done
  · rw [← Except.ok.inj done]
    exact ⟨before, shows⟩
  · obtain ⟨picture, drawn, rfl⟩ := map_eq_ok_iff.mp done
    rw [turned, bind_eq_ok_iff] at drawn
    obtain ⟨⟨canvas, map⟩, -, drawn⟩ := drawn
    obtain ⟨_, -, drawn⟩ := bind_eq_ok_iff.mp drawn
    obtain ⟨_, -, drawn⟩ := bind_eq_ok_iff.mp drawn
    rw [shows.content, ok_bind] at drawn
    refine ⟨picture.dimensions, rfl, rfl, ?_⟩
    rw [← pure_eq_ok_iff.mp drawn]
    exact shows.plain

theorem failsWith_rotate (shows : held.Shows before) (counted : before.IsCounted) :
    FailsWith (·.fault.Spills) (rotate libraries rotation held) ↔
      (rotation.mirror = true → libraries.pictures.refusal? .mirror held.picture = none) ∧
        Rotation.Overturns rotation.normalized before := by
  unfold rotate
  split
  · next mirrors =>
    rw [← mirrored_eq_ok_iff shows]
    split
    · next fault failed =>
      have spills := not_counts_of_failed (not_spills_mirrored shows) failed
      refine iff_of_false (not_failsWith_error spills) fun willing => ?_
      obtain ⟨next, done⟩ := willing.1 mirrors
      rw [failed] at done
      cases done
    · next faced done =>
      rw [failsWith_mapError, and_iff_right fun _ => ⟨faced, done⟩]
      exact failsWith_turn (shows_mirrored shows done) counted
  · next faces =>
    rw [failsWith_mapError, and_iff_right fun mirrors => absurd mirrors faces]
    exact failsWith_turn shows counted

theorem shows_rotate (shows : held.Shows before)
    (done : rotate libraries rotation held = .ok next) : ∃ after, next.Shows after := by
  unfold rotate at done
  split at done
  · split at done
    · cases done
    · next faced mirroring =>
      exact shows_turn (shows_mirrored shows mirroring) (mapError_eq_ok_iff.mp done)
  · exact shows_turn shows (mapError_eq_ok_iff.mp done)

theorem shows_grayed (shows : held.Shows before) (done : grayed libraries held = .ok next) :
    next.Shows before := by
  have dimensions := grayed_dimensions done
  rcases grayed_eq_ok done with rfl | ⟨picture, content, rfl⟩
  · exact shows
  · exact ⟨rfl, dimensions.trans shows.dimensions, .inr (.inl (Picture.mode_toGray picture))⟩

theorem not_spills_grayed (shows : held.Shows before) :
    ¬ FailsWith PictureFault.Spills (grayed libraries held) := by
  unfold grayed
  split
  · exact not_failsWith_ok _
  · rw [shows.content, ok_bind]
    exact not_failsWith_bind Library.not_spills_ask fun _ => not_failsWith_pure _

theorem not_spills_labelled {Result : Type} {outcome : Except PictureFault Result}
    (fine : ¬ FailsWith PictureFault.Spills outcome) (left : HeldPicture) :
    ¬ FailsWith (·.fault.Spills) (outcome.mapError fun fault => (⟨fault, left⟩ : StepFault _)) :=
  mt failsWith_mapError.mp fine

theorem not_spills_blackened (shows : held.Shows before) :
    ¬ FailsWith (·.fault.Spills) (blackened libraries held) := by
  intro failed
  rcases failsWith_bind.mp failed with failed | ⟨gray, done, failed⟩
  · exact not_spills_labelled (not_spills_grayed shows) held failed
  · have content := (shows_grayed shows (mapError_eq_ok_iff.mp done)).content
    simp only [content, mapError_ok, ok_bind] at failed
    exact not_failsWith_bind (not_spills_labelled Library.not_spills_ask _)
      (fun _ => not_failsWith_pure _) failed

theorem not_spills_filter (shows : held.Shows before) (quality : Quality) :
    ¬ FailsWith (·.fault.Spills) (filter libraries quality held) := by
  unfold filter
  cases quality with
  | gray => exact not_spills_labelled (not_spills_grayed shows) held
  | bitonal => exact not_spills_blackened shows
  | _ => exact not_failsWith_ok _

theorem shows_filter {quality : Quality} (shows : held.Shows before)
    (done : filter libraries quality held = .ok next) : next.Shows before := by
  have dimensions := filter_dimensions done
  unfold filter at done
  split at done
  · exact shows_grayed shows (mapError_eq_ok_iff.mp done)
  · obtain ⟨gray, picture, -, -, rfl⟩ := blackened_eq_ok done
    exact ⟨rfl, dimensions.trans shows.dimensions, .inr (.inr rfl)⟩
  · rwa [← Except.ok.inj done]
  · rwa [← Except.ok.inj done]

theorem result_encode (source held : HeldPicture) (format : OutputFormat) (quality : Int) :
    (rasterBackend.encode source format quality held).result =
      held.content >>= EncodedPicture.ofPicture format quality := by
  show (encode .willing source format quality held).result = _
  unfold encode
  cases held.content <;> rfl

theorem failsWith_encode (source : HeldPicture) (format : OutputFormat) (quality : Int)
    (shows : held.Shows before) :
    FailsWith PictureFault.Spills (encode libraries source format quality held).result ↔
      libraries.pictures.refusal? (.write format quality) held.picture = none ∧
        format.Clips before := by
  rw [encode, shows.content, ← shows.dimensions]
  exact Backend.failsWith_encodePicture shows.plain

variable {raster : Raster} {request : Request} {quality : Int}

theorem not_spills_start (source : HeldPicture) :
    ¬ FailsWith PictureFault.Spills (start libraries source) := by
  refine not_failsWith_bind ?_ fun _ => not_failsWith_bind Library.not_spills_ask fun _ =>
    not_failsWith_pure _
  unfold HeldPicture.content
  split <;> simp

section

variable (plain : raster.picture.IsPlain) (counted : raster.dimensions.IsCounted)
include plain

theorem shows_opened
    (reached : (rasterBackend libraries).Reaches raster target request .scaling held) :
    held.Shows raster.dimensions := by
  cases reached with
  | opened done =>
      obtain ⟨content, found, done⟩ := bind_eq_ok_iff.mp done
      obtain ⟨_, -, done⟩ := bind_eq_ok_iff.mp done
      obtain rfl := Except.ok.inj found
      rw [← pure_eq_ok_iff.mp done]
      exact ⟨rfl, rfl, plain⟩

include counted

theorem shows_scaled
    (reached : (rasterBackend libraries).Reaches raster target request .rotating held) :
    held.Shows target ∧ target.IsCounted := by
  cases reached with
  | scaled reached done => exact shows_scale (shows_opened plain reached) counted done

theorem shows_rotated
    (reached : (rasterBackend libraries).Reaches raster target request .filtering held) :
    ∃ after, held.Shows after := by
  cases reached with
  | rotated reached done => exact shows_rotate (shows_scaled plain counted reached).1 done

theorem shows_filtered
    (reached : (rasterBackend libraries).Reaches raster target request .encoding held) :
    held.Shows held.dimensions := by
  cases reached with
  | filtered reached done =>
      obtain ⟨after, shows⟩ := shows_rotated plain counted reached
      have shows := shows_filter shows done
      exact ⟨shows.kept, rfl, shows.plain⟩

end

/-- Stages that let a failure escape: the target has a side that cannot be counted, or is turned onto a
canvas with one, what has been drawn is too large for the format, or a library refuses for a reason that
no stage handles. -/
inductive Overruns (libraries : Libraries) (raster : Raster) (target : Dimensions)
    (request : Request) (quality : Int) : Prop
  | scaling {held : HeldPicture}
      (reached : (rasterBackend libraries).Reaches raster target request .scaling held)
      (scales : target ≠ raster.dimensions) (long : target.IsLong)
  | turning {held : HeldPicture}
      (reached : (rasterBackend libraries).Reaches raster target request .rotating held)
      (mirrored : request.rotation.mirror = true →
        libraries.pictures.refusal? .mirror held.picture = none)
      (long : Rotation.Overturns request.rotation.normalized target)
  | encoding {held : HeldPicture}
      (reached : (rasterBackend libraries).Reaches raster target request .encoding held)
      (written : libraries.pictures.refusal? (.write request.format quality) held.picture = none)
      (clips : request.format.Clips held.dimensions)
  | library (letOut : (rasterBackend libraries).LetsOut raster target request quality)

theorem breaks_loose_iff (plain : raster.picture.IsPlain) (counted : raster.dimensions.IsCounted) :
    (∃ stage fault, (rasterBackend libraries).Breaks raster target request quality stage fault ∧
      fault.IsLoose) ↔ Overruns libraries raster target request quality := by
  rw [Backend.breaks_loose_iff]
  constructor
  · rintro (⟨stage, fault, breaks, spills⟩ | letOut)
    · cases breaks with
      | opening failed => exact absurd ⟨fault, failed, spills⟩ (not_spills_start _)
      | scaling reached failed =>
          obtain ⟨scales, long⟩ :=
            (failsWith_scale (shows_opened plain reached)).mp ⟨_, failed, spills⟩
          exact .scaling reached scales long
      | rotating reached failed =>
          obtain ⟨shows, counted⟩ := shows_scaled plain counted reached
          obtain ⟨mirrored, long⟩ := (failsWith_rotate shows counted).mp ⟨_, failed, spills⟩
          exact .turning reached mirrored long
      | filtering reached failed =>
          obtain ⟨after, shows⟩ := shows_rotated plain counted reached
          exact absurd ⟨_, failed, spills⟩ (not_spills_filter shows request.quality)
      | encoding reached failed =>
          obtain ⟨written, clips⟩ := (failsWith_encode { picture := raster.picture } request.format
            quality (shows_filtered plain counted reached)).mp ⟨fault, failed, spills⟩
          exact .encoding reached written clips
    · exact .library letOut
  · rintro (⟨reached, scales, long⟩ | ⟨reached, mirrored, long⟩ | ⟨reached, written, clips⟩ | letOut)
    · obtain ⟨step, failed, spills⟩ :=
        (failsWith_scale (shows_opened plain reached)).mpr ⟨scales, long⟩
      exact .inl ⟨.scaling, step.fault, .scaling reached failed, spills⟩
    · obtain ⟨shows, counted⟩ := shows_scaled plain counted reached
      obtain ⟨step, failed, spills⟩ := (failsWith_rotate shows counted).mpr ⟨mirrored, long⟩
      exact .inl ⟨.rotating, step.fault, .rotating reached failed, spills⟩
    · obtain ⟨fault, failed, spills⟩ := (failsWith_encode { picture := raster.picture }
        request.format quality (shows_filtered plain counted reached)).mpr ⟨written, clips⟩
      exact .inl ⟨.encoding, fault, .encoding reached failed, spills⟩
    · exact .inr letOut

end RasterBackend

end Jp2Render
