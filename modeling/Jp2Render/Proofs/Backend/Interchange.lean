import Jp2Render.Proofs.Escapes.GraphStages
import Jp2Render.Proofs.Escapes.RasterStages
import Jp2Render.Proofs.Picture.EightBit
import Jp2Render.Proofs.Picture.Level

/-!
Where either backend will do. One works on samples of eight bits, the other one on levels that it
makes of them and brings back; as long as nothing has to be drawn anew, and no light has to be taken
of colours, both have the same picture to encode.
-/

namespace Jp2Render

/-- The picture that a backend hands on to be encoded, or else the stage that failed. A graph is
rendered only then, so that it fails in encoding. -/
def BackendKind.image (kind : BackendKind) (raster : Raster) (target : Dimensions)
    (request : Request) : Except (Stage × PictureFault) Picture :=
  let source : HeldPicture := { picture := raster.picture }
  match kind with
  | .raster => do
    let opened ← (rasterBackend.start source).mapError (Stage.opening, ·)
    let held ← rasterBackend.transform target request opened
    held.content.mapError (Stage.encoding, ·)
  | .graph => do
    let opened ← (graphBackend.start source).mapError (Stage.opening, ·)
    let graph ← graphBackend.transform target request opened
    let array ← (graph.rendered source).mapError (Stage.encoding, ·)
    return array.toPicture

namespace Backend

variable {Handle : Type} {backend : Backend Handle} {raster : Raster} {target : Dimensions}
  {request : Request}

theorem process_of_transform {opened handle : Handle} (quality : Int)
    (found : request.size.scaling.target raster.dimensions raster.reduction = .ok target)
    (start : backend.start { picture := raster.picture } = .ok opened)
    (transformed : backend.transform target request opened = .ok handle) :
    (backend.process raster request quality).result =
      (backend.encode { picture := raster.picture } request.format quality handle).result.mapError
        fun fault => backend.faultOf (.encoding, fault) := by
  unfold process
  simp only [found, start, afterOpening, finish, transformed]
  cases (backend.encode { picture := raster.picture } request.format quality handle).result <;> rfl

end Backend

theorem BackendKind.process_image {kind : BackendKind} {raster : Raster} {target : Dimensions}
    {request : Request} {image : Picture} (quality : Int)
    (found : request.size.scaling.target raster.dimensions raster.reduction = .ok target)
    (given : kind.image raster target request = .ok image) :
    (kind.process raster request quality).result =
      (EncodedPicture.ofPicture request.format quality image).mapError fun fault =>
        if fault.failsStage then .failed kind.name .encoding fault else .escaped fault := by
  cases kind with
  | raster =>
      obtain ⟨opened, start, given⟩ := bind_eq_ok_iff.mp given
      obtain ⟨held, transformed, content⟩ := bind_eq_ok_iff.mp given
      refine (Backend.process_of_transform quality found (mapError_eq_ok_iff.mp start)
        transformed).trans ?_
      rw [RasterBackend.result_encode, mapError_eq_ok_iff.mp content]
      rfl
  | graph =>
      obtain ⟨opened, start, given⟩ := bind_eq_ok_iff.mp given
      obtain ⟨graph, transformed, given⟩ := bind_eq_ok_iff.mp given
      obtain ⟨array, rendered, given⟩ := bind_eq_ok_iff.mp given
      refine (Backend.process_of_transform quality found (mapError_eq_ok_iff.mp start)
        transformed).trans ?_
      rw [RenderGraph.result_encode, mapError_eq_ok_iff.mp rendered, ok_bind,
        pure_eq_ok_iff.mp given]
      rfl

theorem EncodedPicture.ofPicture_congr {picture picture' : Picture} (plain : picture.IsPlain)
    (mode : picture.mode = picture'.mode) (grid : picture.grid = picture'.grid)
    (format : OutputFormat) (quality : Int) :
    ofPicture format quality picture = ofPicture format quality picture' := by
  obtain ⟨_, _, palette⟩ := picture
  obtain ⟨_, _, palette'⟩ := picture'
  obtain rfl : _ = _ := mode
  obtain rfl : _ = _ := grid
  -- none of the three modes looks anything up in a palette
  rcases plain with rfl | rfl | rfl
  · cases format <;> rfl
  · cases format <;> rfl
  · cases format <;> rfl

namespace Picture

def facing (picture : Picture) (mirror : Bool) : Picture :=
  if mirror then { picture with grid := picture.grid.mirrored } else picture

def developed (picture : Picture) (quality : Quality) : Picture :=
  if quality = .bitonal then picture.toBilevel else picture

variable {picture : Picture}

theorem mode_facing (picture : Picture) (mirror : Bool) :
    (picture.facing mirror).mode = picture.mode := by
  cases mirror <;> rfl

theorem IsEightBit.facing (eightBit : picture.IsEightBit) (mirror : Bool) :
    (picture.facing mirror).IsEightBit := by
  cases mirror with
  | false => exact eightBit
  | true => exact ⟨eightBit.bands, eightBit.bytes.mirrored⟩

end Picture

/-- Filters that take no light of colours: a gray picture has none, and one in colours may be left as
it is. -/
def Quality.Spares (quality : Quality) (mode : PictureMode) : Prop :=
  mode = .gray ∨ mode = .rgb ∧ (quality = .color ∨ quality = .default)

theorem Quality.Spares.isPlain {quality : Quality} {picture : Picture}
    (spares : quality.Spares picture.mode) : (picture.developed quality).IsPlain := by
  unfold Picture.developed
  split
  · exact .inr (.inr rfl)
  · rcases spares with gray | ⟨rgb, -⟩
    · exact .inr (.inl gray)
    · exact .inl rgb

namespace RasterBackend

variable {raster : Raster} {request : Request} {picture : Picture} {quality : Quality}

theorem turn_upright (libraries : Libraries) {degrees : Binary64} (upright : degrees.isZero = true)
    (held : HeldPicture) : turn libraries degrees held = .ok held := if_pos upright

theorem rotate_upright {rotation : Rotation} (upright : rotation.normalized.isZero = true) :
    rotate .willing rotation { picture } = .ok { picture := picture.facing rotation.mirror } := by
  unfold rotate Picture.facing
  cases rotation.mirror with
  | false =>
      rw [turn_upright _ upright]
      rfl
  | true =>
      have mirroring : mirrored .willing { picture } =
          .ok { picture := { picture with grid := picture.grid.mirrored } } := rfl
      rw [if_pos rfl, if_pos rfl, mirroring]
      simp only [turn_upright _ upright, mapError_ok]

theorem filter_sparing (spares : quality.Spares picture.mode) :
    filter .willing quality { picture } = .ok { picture := picture.developed quality } := by
  unfold filter Picture.developed
  -- gray pictures pass any filter; coloured ones only those that do nothing
  rcases spares with gray | ⟨-, rfl | rfl⟩
  · have stays : grayed .willing { picture } = .ok { picture } := if_pos gray
    cases quality with
    | gray => simp [stays, mapError_ok]
    | bitonal =>
        simp only [blackened, stays, mapError_ok, ok_bind]
        rfl
    | _ => rfl
  · rfl
  · rfl

theorem image_unresampled (upright : request.rotation.normalized.isZero = true)
    (spares : request.quality.Spares raster.picture.mode) :
    BackendKind.raster.image raster raster.dimensions request =
      .ok ((raster.picture.facing request.rotation.mirror).developed request.quality) := by
  have scaling : rasterBackend.scale raster.dimensions { picture := raster.picture } =
      .ok { picture := raster.picture } := if_pos rfl
  have spares' : request.quality.Spares (raster.picture.facing request.rotation.mirror).mode := by
    rwa [Picture.mode_facing]
  have transformed := Backend.transform_eq_ok_iff.mpr
    ⟨_, scaling, _, rotate_upright upright, filter_sparing spares'⟩
  have opening : rasterBackend.start { picture := raster.picture } =
      .ok { picture := raster.picture } := rfl
  unfold BackendKind.image
  simp only [opening, transformed, mapError_ok, ok_bind, HeldPicture.content]
  rfl

end RasterBackend

namespace RenderArray

variable {picture : Picture}

theorem toByte_ofByte {g : Grid} (bytes : g.HoldsBytes) :
    (g.mapSamples Level.ofByte).mapSamples Level.toByte = g := by
  rw [Grid.mapSamples_mapSamples]
  refine Grid.mapSamples_of_fixed fun v found => ?_
  obtain ⟨least, greatest⟩ := bytes v found
  exact Level.toByte_ofByte least greatest

theorem mirror_ofPicture (picture : Picture) :
    (ofPicture picture).mirror = ofPicture { picture with grid := picture.grid.mirrored } := by
  show levels _ = levels _
  rw [Grid.mirrored_mapSamples]

theorem gray_ofPicture (single : picture.grid.bands = 1) :
    (ofPicture picture).gray = ofPicture picture := by
  show levels (if picture.grid.bands = 1 then _ else _) = _
  rw [if_pos single]
  rfl

theorem toPicture_ofPicture (eightBit : picture.IsEightBit)
    (standard : picture.mode = .gray ∨ picture.mode = .rgb) :
    (ofPicture picture).toPicture.mode = picture.mode ∧
      (ofPicture picture).toPicture.grid = picture.grid := by
  refine ⟨?_, toByte_ofByte eightBit.bytes⟩
  show (if picture.grid.bands = 1 then PictureMode.gray else PictureMode.rgb) = _
  rw [eightBit.bands]
  rcases standard with mode | mode
  · rw [mode]
    rfl
  · rw [mode]
    rfl

theorem toPicture_bitonal (gray : picture.mode = .gray) (single : picture.grid.bands = 1) :
    (ofPicture picture).bitonal.toPicture = picture.toBilevel := by
  have bright : (ofPicture picture).bitonal = .bits ((picture.grid.mapSamples Level.ofByte).mapSamples
      fun level => if Level.isBright level then 1 else 0) := by
    unfold bitonal
    rw [gray_ofPicture single]
    rfl
  have same : ∀ v, (if Level.isBright (Level.ofByte v) then 1 else 0) * 255 =
      if 128 ≤ v then (255 : Int) else 0 := by
    intro v
    simp only [Level.isBright_ofByte]
    split <;> rfl
  rw [bright, toPicture, Grid.mapSamples_mapSamples, Grid.mapSamples_mapSamples, Picture.toBilevel,
    Picture.toGray, if_pos gray]
  simp only [same]

end RenderArray

namespace RenderGraph

variable {raster : Raster} {request : Request} {graph : RenderGraph} {source : HeldPicture}
  {picture : Picture}

theorem turn_upright {degrees : Binary64} (upright : degrees.isZero = true) (graph : RenderGraph) :
    turn degrees graph = .ok graph := if_pos upright

theorem rotate_upright {rotation : Rotation} (upright : rotation.normalized.isZero = true)
    (rendered : graph.rendered source = .ok (.ofPicture picture)) :
    ∃ facing, rotate rotation graph = .ok facing ∧
      facing.rendered source = .ok (.ofPicture (picture.facing rotation.mirror)) := by
  unfold rotate Picture.facing
  cases rotation.mirror with
  | false =>
      refine ⟨graph, ?_, rendered⟩
      simp only [turn_upright upright, mapError_ok, Bool.false_eq_true, if_false]
  | true =>
      refine ⟨graph.andThen .mirror graph.dimensions, ?_, ?_⟩
      · simp only [turn_upright upright, mapError_ok, if_true]
      · rw [rendered_andThen, rendered, ok_bind, RenderArray.run, RenderArray.mirror_ofPicture]
        rfl

theorem filter_sparing {quality : Quality} (eightBit : picture.IsEightBit)
    (spares : quality.Spares picture.mode)
    (rendered : graph.rendered source = .ok (.ofPicture picture)) :
    ∃ filtered array, filter quality graph = .ok filtered ∧ filtered.rendered source = .ok array ∧
      array.toPicture.mode = (picture.developed quality).mode ∧
      array.toPicture.grid = (picture.developed quality).grid := by
  have standard : picture.mode = .gray ∨ picture.mode = .rgb := spares.imp_right And.left
  have same := RenderArray.toPicture_ofPicture eightBit standard
  unfold Picture.developed
  rcases spares with gray | ⟨-, rfl | rfl⟩
  · have single : picture.grid.bands = 1 := by
      rw [eightBit.bands, gray]
      rfl
    cases quality with
    | gray =>
        refine ⟨_, .ofPicture picture, rfl, ?_, same⟩
        rw [rendered_andThen, rendered, ok_bind, RenderArray.run, RenderArray.gray_ofPicture single]
        rfl
    | bitonal =>
        refine ⟨_, (RenderArray.ofPicture picture).bitonal, rfl, ?_, ?_⟩
        · rw [rendered_andThen, rendered, ok_bind, RenderArray.run]
          rfl
        · rw [RenderArray.toPicture_bitonal gray single]
          exact ⟨rfl, rfl⟩
    | _ => exact ⟨graph, _, rfl, rendered, same⟩
  · exact ⟨graph, _, rfl, rendered, same⟩
  · exact ⟨graph, _, rfl, rendered, same⟩

theorem image_unresampled (eightBit : raster.picture.IsEightBit)
    (upright : request.rotation.normalized.isZero = true)
    (spares : request.quality.Spares raster.picture.mode) :
    ∃ image, BackendKind.graph.image raster raster.dimensions request = .ok image ∧
      image.mode =
        ((raster.picture.facing request.rotation.mirror).developed request.quality).mode ∧
      image.grid =
        ((raster.picture.facing request.rotation.mirror).developed request.quality).grid := by
  let begun : RenderGraph := { dimensions := raster.picture.dimensions }
  have opening : graphBackend.start { picture := raster.picture } = .ok begun := rfl
  have scaling : graphBackend.scale raster.dimensions begun = .ok begun := congrArg _ (if_pos rfl)
  have begins : begun.rendered { picture := raster.picture } = .ok (.ofPicture raster.picture) := rfl
  obtain ⟨facing, rotating, rendered⟩ := rotate_upright upright begins
  obtain ⟨filtered, array, filtering, developed, mode, grid⟩ :=
    filter_sparing (eightBit.facing request.rotation.mirror) (by rwa [Picture.mode_facing]) rendered
  have transformed := Backend.transform_eq_ok_iff.mpr ⟨_, scaling, _, rotating, filtering⟩
  refine ⟨array.toPicture, ?_, mode, grid⟩
  unfold BackendKind.image
  simp only [opening, transformed, developed, mapError_ok, ok_bind]
  rfl

end RenderGraph

namespace BackendKind

/-- A raster of eight bits, as any that is decoded. If it keeps its size, is not turned, and its
colours are not taken into gray, either backend hands on the same picture: of the same mode and
dimensions, with the same samples at the same places. So either one encodes what the other does. The
levels that the samples are meanwhile stand for parts of full light; these, as binary64 numbers, come
back as the same bytes and lie above one half for the same ones. -/
theorem images_agree {raster : Raster} {request : Request} (eightBit : raster.picture.IsEightBit)
    (spares : request.quality.Spares raster.picture.mode)
    (upright : request.rotation.normalized.isZero = true)
    (sized : request.size.scaling.target raster.dimensions raster.reduction =
      .ok raster.dimensions) :
    (∃ image image' : Picture,
      BackendKind.raster.image raster raster.dimensions request = .ok image ∧
      BackendKind.graph.image raster raster.dimensions request = .ok image' ∧
      image.mode = image'.mode ∧ image.dimensions = image'.dimensions ∧ image.grid = image'.grid ∧
      ∀ (kind : BackendKind) (quality : Int) (encoded : EncodedPicture),
        (kind.process raster request quality).result = .ok encoded ↔
          EncodedPicture.ofPicture request.format quality image = .ok encoded) ∧
    ∀ v ∈ raster.picture.grid.samples, ∀ part, part = Level.share v ∨ part = Level.scaledShare v →
      Arithmetic.nearest (part * 255) = .ok (Level.toByte (Level.ofByte v)) ∧
        ((1 / 2 : Binary64) < part ↔ Level.isBright (Level.ofByte v) = true) := by
  have given := RasterBackend.image_unresampled upright spares
  have spares' : request.quality.Spares (raster.picture.facing request.rotation.mirror).mode := by
    rwa [Picture.mode_facing]
  obtain ⟨image, given', mode, grid⟩ := RenderGraph.image_unresampled eightBit upright spares
  constructor
  · refine ⟨_, image, given, given', mode.symm, congrArg Grid.dimensions grid.symm, grid.symm, ?_⟩
    intro kind quality encoded
    cases kind with
    | raster => rw [process_image quality sized given, mapError_eq_ok_iff]
    | graph =>
        -- the picture that is rendered has no palette of its own, and needs none
        rw [process_image quality sized given', mapError_eq_ok_iff,
          EncodedPicture.ofPicture_congr spares'.isPlain mode.symm grid.symm]
  · intro v found
    obtain ⟨least, greatest⟩ := eightBit.bytes v found
    exact Level.share_agrees least greatest

/-- A gray raster as it comes from the decoder, mirrored and made black and white; its samples lie at
both ends and at both sides of the middle. -/
theorem images_agree_mirrored :
    let bytes := Bytes.ofText "P5 3 2 255 " ++ [127, 128, 255, 0, 1, 254]
    let request : Request := { format := .png, rotation := ⟨720, true⟩, quality := .bitonal }
    ∃ (raster : Raster) (image image' : Picture), Raster.ofBytes bytes 0 = .ok raster ∧
      BackendKind.raster.image raster raster.dimensions request = .ok image ∧
      BackendKind.graph.image raster raster.dimensions request = .ok image' ∧
      image.mode = image'.mode ∧ image.grid = image'.grid ∧
      image.grid.samples = #[255, 255, 0, 255, 0, 0] := by
  intro bytes request
  have seen : (Raster.ofBytes bytes 0).toOption.map (fun raster => (raster.picture.mode,
      ((raster.picture.facing true).developed .bitonal).grid.samples)) =
      some (.gray, #[255, 255, 0, 255, 0, 0]) := by
    decide +kernel
  obtain ⟨raster, read, shown⟩ := Option.map_eq_some_iff.mp seen
  obtain ⟨gray, samples⟩ := Prod.mk.inj shown
  have read := toOption_eq_some_iff.mp read
  have upright : request.rotation.normalized.isZero = true := by decide +kernel
  obtain ⟨⟨image, image', given, given', mode, -, grid, -⟩, -⟩ :=
    images_agree (Raster.isEightBit_ofBytes read) (.inl gray) upright rfl
  refine ⟨raster, image, image', read, given, given', mode, grid, ?_⟩
  rw [RasterBackend.image_unresampled upright (.inl gray)] at given
  rw [← Except.ok.inj given]
  exact samples

end BackendKind

end Jp2Render
