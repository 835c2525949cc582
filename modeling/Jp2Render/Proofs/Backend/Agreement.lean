import Jp2Render.Backend.Processing
import Jp2Render.Proofs.Backend.Graph
import Jp2Render.Proofs.Backend.Raster

/-!
Agreement of the backends. One backend reads the dimensions off the picture that it holds, the other
one states them for a picture that it has not yet rendered; along any changes they are the same.
-/

namespace Jp2Render

namespace Backend

variable {Handle : Type} {libraries : Libraries}

/-- Makes one change after the other, up to the first that fails. -/
def adjustAll (backend : Backend Handle) : List Adjustment → Handle → Except (StepFault Handle) Handle
  | [], handle => .ok handle
  | adjustment :: adjustments, handle => do
    let adjusted ← backend.adjust adjustment handle
    backend.adjustAll adjustments adjusted

theorem adjustAll_agree {adjustments : List Adjustment} {source : Dimensions}
    {held held' : HeldPicture} {graph graph' : RenderGraph}
    (alike : held.dimensions = graph.dimensions) (foretells : graph.Foretells libraries source)
    (adjusted : (rasterBackend libraries).adjustAll adjustments held = .ok held')
    (adjusted' : (graphBackend libraries).adjustAll adjustments graph = .ok graph') :
    held'.dimensions = graph'.dimensions ∧ graph'.Foretells libraries source := by
  -- what one change keeps: both handles have the same dimensions, and rendering has them, too
  induction adjustments generalizing held graph with
  | nil =>
      rw [adjustAll] at adjusted adjusted'
      rw [← Except.ok.inj adjusted, ← Except.ok.inj adjusted']
      exact ⟨alike, foretells⟩
  | cons adjustment adjustments ih =>
      rw [adjustAll, bind_eq_ok_iff] at adjusted adjusted'
      obtain ⟨next, step, rest⟩ := adjusted
      obtain ⟨next', step', rest'⟩ := adjusted'
      have taken := RasterBackend.adjust_takes step
      obtain ⟨taken', further⟩ := RenderGraph.adjust_takes step'
      rw [alike] at taken
      exact ih (Adjustment.takes_unique taken taken') (further.foretells foretells) rest rest'

end Backend

theorem EncodedPicture.dimensions_convertedFor {format : OutputFormat} {picture converted : Picture}
    (conversion : convertedFor format picture = .ok converted) :
    converted.dimensions = picture.dimensions := by
  unfold convertedFor at conversion
  split at conversion
  · rw [Except.ok.inj conversion]
  · split at conversion
    · split at conversion
      · rw [Except.ok.inj conversion]
      · cases conversion
    · split at conversion
      · rw [← Except.ok.inj conversion, Picture.dimensions_toGray]
      · rw [← Except.ok.inj conversion, Picture.dimensions_toRgb]

theorem EncodedPicture.dimensions_ofPicture {format : OutputFormat} {quality : Int}
    {picture : Picture} {encoded : EncodedPicture}
    (done : ofPicture format quality picture = .ok encoded) :
    encoded.dimensions = picture.dimensions := by
  rw [ofPicture, bind_eq_ok_iff] at done
  obtain ⟨converted, conversion, done⟩ := done
  obtain ⟨_, -, done⟩ := bind_eq_ok_iff.mp done
  rw [← pure_eq_ok_iff.mp done]
  exact dimensions_convertedFor conversion

theorem Backend.dimensions_encodePicture {libraries : Libraries} {format : OutputFormat}
    {quality : Int} {picture : Picture} {encoded : EncodedPicture}
    (done : (encodePicture libraries picture format quality).result = .ok encoded) :
    encoded.dimensions = picture.dimensions := by
  obtain ⟨_, -, done⟩ := bind_eq_ok_iff.mp done
  exact EncodedPicture.dimensions_ofPicture done

theorem RasterBackend.encode_dimensions {libraries : Libraries} (source : HeldPicture)
    {held : HeldPicture} {format : OutputFormat} {quality : Int} {encoded : EncodedPicture}
    (done : (encode libraries source format quality held).result = .ok encoded) :
    encoded.dimensions = held.dimensions := by
  unfold encode at done
  split at done
  · next content =>
    rw [Backend.dimensions_encodePicture done, HeldPicture.content_eq_ok content]
  · cases done

theorem RenderArray.dimensions_toPicture (array : RenderArray) :
    array.toPicture.dimensions = array.dimensions := by
  cases array <;> rfl

theorem RenderGraph.load_eq_ok {libraries : Libraries} {source : HeldPicture} {array : RenderArray}
    (loaded : load libraries source = .ok array) : array.dimensions = source.dimensions := by
  obtain ⟨picture, content, loaded⟩ := bind_eq_ok_iff.mp loaded
  obtain ⟨_, -, loaded⟩ := bind_eq_ok_iff.mp loaded
  rw [← pure_eq_ok_iff.mp loaded, ← HeldPicture.content_eq_ok content]
  rfl

theorem RenderGraph.render_dimensions {libraries : Libraries} {graph : RenderGraph}
    {source : HeldPicture} {array : RenderArray}
    (foretells : graph.Foretells libraries source.dimensions)
    (rendered : (graph.render source libraries).result = .ok array) :
    array.dimensions = graph.dimensions := by
  unfold render at rendered
  split at rendered
  · cases rendered
  · next loaded => exact foretells _ array (load_eq_ok loaded) rendered

theorem RenderGraph.dimensions_encodeArray {libraries : Libraries} {array : RenderArray}
    {format : OutputFormat} {quality : Int} {encoded : EncodedPicture}
    (done : (encodeArray libraries array format quality).result = .ok encoded) :
    encoded.dimensions = array.dimensions := by
  unfold encodeArray at done
  split at done
  · cases done
  · rw [Backend.dimensions_encodePicture done, RenderArray.dimensions_toPicture]

theorem RenderGraph.encode_dimensions {libraries : Libraries} {graph : RenderGraph}
    {source : HeldPicture} {format : OutputFormat} {quality : Int} {encoded : EncodedPicture}
    (foretells : graph.Foretells libraries source.dimensions)
    (done : (graph.encode libraries source format quality).result = .ok encoded) :
    encoded.dimensions = graph.dimensions := by
  unfold encode at done
  simp only at done
  split at done
  · cases done
  · next array rendered =>
    rw [dimensions_encodeArray done, render_dimensions foretells rendered]

namespace Backend

theorem process_eq_ok {Handle : Type} {backend : Backend Handle} {raster : Raster}
    {request : Request} {quality : Int} {encoded : EncodedPicture}
    (processed : (backend.process raster request quality).result = .ok encoded) :
    ∃ target opened handle,
      request.size.scaling.target raster.dimensions raster.reduction = .ok target ∧
      backend.start { picture := raster.picture } = .ok opened ∧
      backend.adjustAll [.scale target, .rotate request.rotation, .filter request.quality] opened =
        .ok handle ∧
      (backend.encode { picture := raster.picture } request.format quality handle).result =
        .ok encoded := by
  unfold process at processed
  -- every stage that succeeded is one of the changes, in the same order
  split at processed
  · cases processed
  · next target sized =>
    have staged := mapError_eq_ok_iff.mp processed
    rcases start : backend.start { picture := raster.picture } with fault | opened
    · rw [start] at staged
      cases staged
    · rw [start, afterOpening, finish] at staged
      split at staged
      · cases staged
      · next handle transformed =>
        refine ⟨target, opened, handle, sized, rfl, ?_, mapError_eq_ok_iff.mp staged⟩
        rw [transform, bind_eq_ok_iff] at transformed
        obtain ⟨scaled, first, transformed⟩ := transformed
        obtain ⟨rotated, second, third⟩ := bind_eq_ok_iff.mp transformed
        rw [adjustAll, bind_eq_ok_iff]
        refine ⟨scaled, mapError_eq_ok_iff.mp first, ?_⟩
        rw [adjustAll, bind_eq_ok_iff]
        refine ⟨rotated, mapError_eq_ok_iff.mp second, ?_⟩
        rw [adjustAll, bind_eq_ok_iff]
        exact ⟨handle, mapError_eq_ok_iff.mp third, rfl⟩

variable {libraries : Libraries}

theorem start_agree {source held : HeldPicture} {graph : RenderGraph}
    (opened : (rasterBackend libraries).start source = .ok held)
    (opened' : (graphBackend libraries).start source = .ok graph) :
    held.dimensions = graph.dimensions ∧ graph.Foretells libraries source.dimensions := by
  obtain ⟨picture, content, opened⟩ := bind_eq_ok_iff.mp opened
  obtain ⟨_, -, opened⟩ := bind_eq_ok_iff.mp opened
  rw [← pure_eq_ok_iff.mp opened, ← Except.ok.inj opened']
  refine ⟨HeldPicture.content_eq_ok content, fun before after same run => ?_⟩
  rw [← Except.ok.inj run, same]

theorem RasterBackend.turned_dimensions {target : Dimensions} {rotation : Rotation}
    {quality : Quality} {opened held : HeldPicture}
    (adjusted : (rasterBackend libraries).adjustAll
      [.scale target, .rotate rotation, .filter quality] opened = .ok held) :
    if rotation.normalized.isZero then held.dimensions = target
    else Rotation.boundingBox target rotation.degrees = .ok held.dimensions := by
  rw [adjustAll, bind_eq_ok_iff] at adjusted
  obtain ⟨scaled, scaling, adjusted⟩ := adjusted
  rw [adjustAll, bind_eq_ok_iff] at adjusted
  obtain ⟨rotated, rotating, adjusted⟩ := adjusted
  rw [adjustAll, bind_eq_ok_iff] at adjusted
  obtain ⟨filtered, filtering, same⟩ := adjusted
  rw [← Except.ok.inj same, RasterBackend.filter_dimensions filtering]
  obtain ⟨mirrored, mirroring, turning⟩ := RasterBackend.rotate_turns rotating
  have taken := RasterBackend.turn_takes turning
  unfold Rotation.Turns at taken
  rw [mirroring] at taken
  rw [← RasterBackend.scale_takes scaling]
  split
  · rwa [if_pos ‹_›] at taken
  · next some =>
    obtain ⟨narrow, low⟩ := RasterBackend.turn_short turning some
    rw [if_neg some] at taken
    exact Rotation.boundingBox_normalized taken narrow low

/-- Along any changes that both backends make to a picture, the picture of the one has the dimensions
that the other states, and so has whatever that one renders. Both therefore process a raster into
pictures of the same dimensions: those of the target, or of its bounding box if it is turned. -/
theorem dimensions_agree (libraries : Libraries) :
    (∀ (source : HeldPicture) (adjustments : List Adjustment) (opened held : HeldPicture)
      (begun graph : RenderGraph),
      (rasterBackend libraries).start source = .ok opened →
      (graphBackend libraries).start source = .ok begun →
      (rasterBackend libraries).adjustAll adjustments opened = .ok held →
      (graphBackend libraries).adjustAll adjustments begun = .ok graph →
      held.dimensions = graph.dimensions ∧
        ∀ array, (graph.render source libraries).result = .ok array →
          array.dimensions = graph.dimensions) ∧
    ∀ (raster : Raster) (request : Request) (quality quality' : Int)
      (encoded encoded' : EncodedPicture),
      ((rasterBackend libraries).process raster request quality).result = .ok encoded →
      ((graphBackend libraries).process raster request quality').result = .ok encoded' →
      encoded.dimensions = encoded'.dimensions ∧
        ∃ target, request.size.scaling.target raster.dimensions raster.reduction = .ok target ∧
          if request.rotation.normalized.isZero then encoded.dimensions = target
          else Rotation.boundingBox target request.rotation.degrees = .ok encoded.dimensions := by
  refine ⟨fun source adjustments opened held begun graph first second third fourth => ?_,
    fun raster request quality quality' encoded encoded' processed processed' => ?_⟩
  · obtain ⟨alike, foretells⟩ := start_agree first second
    obtain ⟨alike', foretells'⟩ := adjustAll_agree alike foretells third fourth
    exact ⟨alike', fun array => RenderGraph.render_dimensions foretells'⟩
  · obtain ⟨target, opened, held, sized, first, third, last⟩ := process_eq_ok processed
    obtain ⟨target', begun, graph, sized', second, fourth, last'⟩ := process_eq_ok processed'
    rw [sized] at sized'
    obtain rfl := Except.ok.inj sized'
    obtain ⟨alike, foretells⟩ := start_agree first second
    obtain ⟨alike', foretells'⟩ := adjustAll_agree alike foretells third fourth
    have dimensions := RasterBackend.encode_dimensions { picture := raster.picture } last
    have dimensions' := RenderGraph.encode_dimensions foretells' last'
    refine ⟨by rw [dimensions, dimensions', alike'], target, sized, ?_⟩
    rw [dimensions]
    exact RasterBackend.turned_dimensions third

/-- A picture that is enlarged, mirrored, turned and made black and white; and a raster of its own
size that is mirrored and turned. -/
theorem dimensions_agree_quarter :
    let picture : Picture := { mode := .gray, grid := .ofSamples 3 2 1 #[0, 50, 100, 150, 200, 250] }
    let adjustments : List Adjustment := [.scale ⟨5, 4⟩, .rotate ⟨90, true⟩, .filter .bitonal]
    let request : Request := { format := .png, rotation := ⟨450, true⟩ }
    ∃ held graph encoded encoded',
      rasterBackend.adjustAll adjustments { picture } = .ok held ∧
      graphBackend.adjustAll adjustments { dimensions := ⟨3, 2⟩ } = .ok graph ∧
      (rasterBackend.process { picture } request 80).result = .ok encoded ∧
      (graphBackend.process { picture } request 80).result = .ok encoded' ∧
      held.dimensions = graph.dimensions ∧ encoded.dimensions = encoded'.dimensions := by
  intro picture adjustments request
  have succeed : (rasterBackend.adjustAll adjustments { picture }).isOk = true ∧
      (graphBackend.adjustAll adjustments { dimensions := ⟨3, 2⟩ }).isOk = true ∧
      (rasterBackend.process { picture } request 80).result.isOk = true ∧
      (graphBackend.process { picture } request 80).result.isOk = true := by
    decide +kernel +revert
  obtain ⟨held, first⟩ := exists_eq_ok succeed.1
  obtain ⟨graph, second⟩ := exists_eq_ok succeed.2.1
  obtain ⟨encoded, third⟩ := exists_eq_ok succeed.2.2.1
  obtain ⟨encoded', fourth⟩ := exists_eq_ok succeed.2.2.2
  refine ⟨held, graph, encoded, encoded', first, second, third, fourth, ?_, ?_⟩
  · exact ((dimensions_agree .willing).1 { picture } adjustments _ held _ graph rfl rfl first second).1
  · exact ((dimensions_agree .willing).2 { picture } request 80 80 encoded encoded' third fourth).1

end Backend

end Jp2Render
