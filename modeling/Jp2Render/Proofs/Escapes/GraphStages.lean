import Jp2Render.Proofs.Escapes.Stages

/-!
Stages of the backend that draws up a graph. Only its stage of rotation looks at numbers; whatever
else may fail does so while the graph is rendered, which is when it is encoded. That rendering does not
spill is an invariant of drawing up: a node that turns is added only if there is a canvas to turn onto.
-/

namespace Jp2Render

namespace RenderArray

variable {libraries : Libraries} {array : RenderArray} {degrees : Binary64}

theorem isPlain_toPicture (array : RenderArray) : array.toPicture.IsPlain := by
  unfold toPicture Picture.IsPlain
  cases array with
  | bits grid => exact .inr (.inr rfl)
  | levels grid =>
      simp only
      split
      · exact .inr (.inl rfl)
      · exact .inl rfl

theorem not_spills_scale (array : RenderArray) (target : Dimensions) :
    ¬ FailsWith PictureFault.Spills (array.scale libraries target) := by
  cases array with
  | levels grid =>
      refine not_failsWith_bind Library.not_spills_ask fun _ => ?_
      split
      · exact not_failsWith_throw_bind PictureFault.not_spills_noArea _
      · exact not_failsWith_pure _
  | bits grid =>
      rw [scale]
      split
      · exact not_failsWith_error PictureFault.not_spills_bilevelSmoothing
      · exact not_failsWith_error PictureFault.not_spills_bilevelInterpolation

theorem not_spills_rotate {box : Dimensions}
    (bounded : Rotation.boundingBox array.dimensions degrees = .ok box) :
    ¬ FailsWith PictureFault.Spills (array.rotate libraries degrees) := by
  obtain ⟨map, drawn⟩ := Rotation.canvasAndMap_of_boundingBox .centre bounded
  rw [rotate, drawn, mapError_ok, ok_bind]
  cases array with
  | levels grid => exact not_failsWith_bind Library.not_spills_ask fun _ => not_failsWith_pure _
  | bits grid => exact not_failsWith_error PictureFault.not_spills_bilevelInterpolation

theorem not_spills_run {node : RenderNode} {after : Dimensions}
    (taken : node.Takes array.dimensions after) :
    ¬ FailsWith PictureFault.Spills (array.run libraries node) := by
  cases node with
  | scale target => exact not_spills_scale array target
  | mirror => exact not_failsWith_ok _
  | rotate degrees => exact not_spills_rotate taken
  | gray => exact not_failsWith_bind Library.not_spills_ask fun _ => not_failsWith_pure _
  | bitonal => exact not_failsWith_bind Library.not_spills_ask fun _ => not_failsWith_pure _

end RenderArray

namespace RenderGraph

variable {libraries : Libraries} {graph before after : RenderGraph} {source : HeldPicture}
  {drawn target : Dimensions}

def rendered (graph : RenderGraph) (source : HeldPicture) (libraries : Libraries := .willing) :
    Except PictureFault RenderArray :=
  (graph.render source libraries).result

theorem rendered_andThen (graph : RenderGraph) (node : RenderNode) (d : Dimensions)
    (source : HeldPicture) :
    (graph.andThen node d).rendered source libraries =
      (graph.rendered source libraries >>= fun array => array.run libraries node) := by
  unfold rendered render andThen
  cases load libraries source with
  -- a picture that cannot be loaded renders nothing, however many nodes there are
  | error fault => rfl
  | ok array => exact result_runNodes_append _ _ _ _

theorem result_encode (graph : RenderGraph) (source : HeldPicture)
    (format : OutputFormat) (quality : Int) :
    (graphBackend.encode source format quality graph).result =
      graph.rendered source >>= fun array => EncodedPicture.ofPicture format quality array.toPicture := by
  show (encode .willing source format quality graph).result = _
  unfold encode rendered
  simp only
  cases (graph.render source).result <;> rfl

def Holds (libraries : Libraries) (graph : RenderGraph) (drawn : Dimensions) : Prop :=
  ∀ array : RenderArray, array.dimensions = drawn →
    ¬ FailsWith PictureFault.Spills (runNodes libraries array graph.nodes).result

theorem Extends.holds (further : before.Extends after) (foretells : before.Foretells libraries drawn)
    (holds : before.Holds libraries drawn) : after.Holds libraries drawn := by
  induction further with
  | same => exact holds
  | andThen further taken ih =>
      intro array same failed
      rw [RenderGraph.andThen, result_runNodes_append] at failed
      rcases failsWith_bind.mp failed with failed | ⟨middle, run, failed⟩
      · exact ih array same failed
      · -- what has been rendered so far has the dimensions that the next node was added for
        have stated := further.foretells foretells array middle same run
        exact RenderArray.not_spills_run (stated ▸ taken) failed

def bare (drawn : Dimensions) : RenderGraph := { dimensions := drawn }

theorem foretells_bare : (bare drawn).Foretells libraries drawn := by
  intro before after same run
  rw [← Except.ok.inj run, same]
  rfl

theorem holds_bare : (bare drawn).Holds libraries drawn := fun _ _ => not_failsWith_ok _

variable {raster : Raster} {request : Request} {quality : Int} {stage : Stage}

theorem extends_of_reaches
    (reached : (graphBackend libraries).Reaches raster target request stage graph) :
    (bare raster.dimensions).Extends graph := by
  induction reached with
  | opened done =>
      rw [← Except.ok.inj done]
      exact .same
  | scaled _ done ih => exact ih.trans (scale_takes done).2
  | rotated _ done ih => exact ih.trans (rotate_takes done).2
  | filtered _ done ih => exact ih.trans (filter_takes done).2

theorem dimensions_of_reaches
    (reached : (graphBackend libraries).Reaches raster target request .rotating graph) :
    graph.dimensions = target := by
  cases reached with
  | scaled _ done => exact (scale_takes done).1

theorem not_spills_load (source : HeldPicture) :
    ¬ FailsWith PictureFault.Spills (load libraries source) := by
  refine not_failsWith_bind ?_ fun _ => not_failsWith_bind Library.not_spills_ask fun _ =>
    not_failsWith_pure _
  unfold HeldPicture.content
  split <;> simp

theorem not_spills_render (holds : graph.Holds libraries source.dimensions) :
    ¬ FailsWith PictureFault.Spills (graph.render source libraries).result := by
  unfold render
  cases loaded : load libraries source with
  | error fault => exact not_failsWith_error (not_counts_of_failed (not_spills_load source) loaded)
  | ok array => exact holds array (load_eq_ok loaded)

theorem failsWith_rotate {rotation : Rotation} :
    FailsWith (·.fault.Spills) (rotate rotation graph) ↔
      Rotation.Unbounded rotation.normalized graph.dimensions := by
  have turning (mirrored : RenderGraph) (same : mirrored.dimensions = graph.dimensions) :
      FailsWith PictureFault.Spills (turn rotation.normalized mirrored) ↔
        Rotation.Unbounded rotation.normalized graph.dimensions := by
    unfold turn Rotation.Unbounded
    split
    · next upright => simp [upright]
    · next turns =>
      rw [failsWith_map, failsWith_mapError, same, and_iff_right (Bool.eq_false_iff.mpr turns)]
      simp only [PictureFault.spills_arithmetic, FailsWith]
  refine failsWith_mapError.trans (turning _ ?_)
  split <;> rfl

theorem failsWith_encodeArray {array : RenderArray} {format : OutputFormat} :
    FailsWith PictureFault.Spills (encodeArray libraries array format quality).result ↔
      libraries.arrays.refusal? .show array.grid = none ∧
        libraries.pictures.refusal? (.write format quality) array.toPicture = none ∧
        format.Clips array.dimensions := by
  unfold encodeArray
  split
  · next fault refused =>
    have spills := not_counts_of_failed Library.not_spills_ask refused
    refine iff_of_false (not_failsWith_error spills) fun accepted => ?_
    have shown : libraries.arrays.ask .show array.grid = .ok () := Library.ask_eq_ok_iff.mpr accepted.1
    rw [shown] at refused
    cases refused
  · next accepted =>
    rw [Backend.failsWith_encodePicture array.isPlain_toPicture, RenderArray.dimensions_toPicture,
      and_iff_right (Library.ask_eq_ok_iff.mp accepted)]

theorem failsWith_encode {format : OutputFormat} (holds : graph.Holds libraries source.dimensions) :
    FailsWith PictureFault.Spills (encode libraries source format quality graph).result ↔
      ∃ array, graph.rendered source libraries = .ok array ∧
        FailsWith PictureFault.Spills (encodeArray libraries array format quality).result := by
  have sound := not_spills_render holds
  unfold encode rendered
  simp only
  cases rendering : (graph.render source libraries).result with
  | error fault => simpa using not_counts_of_failed sound rendering
  | ok array => simp

/-- Stages that let a failure escape: the target cannot be turned, what has been rendered is too large
for the format, or a library refuses for a reason that no stage handles. -/
inductive Overruns (libraries : Libraries) (raster : Raster) (target : Dimensions)
    (request : Request) (quality : Int) : Prop
  | turning (unbounded : Rotation.Unbounded request.rotation.normalized target)
  | encoding {graph : RenderGraph} {array : RenderArray}
      (reached : (graphBackend libraries).Reaches raster target request .encoding graph)
      (rendered : graph.rendered { picture := raster.picture } libraries = .ok array)
      (shown : libraries.arrays.refusal? .show array.grid = none)
      (written : libraries.pictures.refusal? (.write request.format quality) array.toPicture = none)
      (clips : request.format.Clips array.dimensions)
  | library (letOut : (graphBackend libraries).LetsOut raster target request quality)

theorem holds_of_reaches
    (reached : (graphBackend libraries).Reaches raster target request stage graph) :
    graph.Holds libraries raster.dimensions :=
  (extends_of_reaches reached).holds foretells_bare holds_bare

theorem breaks_loose_iff :
    (∃ stage fault, (graphBackend libraries).Breaks raster target request quality stage fault ∧
      fault.IsLoose) ↔ Overruns libraries raster target request quality := by
  rw [Backend.breaks_loose_iff]
  constructor
  · rintro (⟨stage, fault, breaks, spills⟩ | letOut)
    · cases breaks with
      | opening failed => cases failed
      | scaling _ failed => cases failed
      | filtering _ failed => cases failed
      | rotating reached failed =>
          have unbounded := failsWith_rotate.mp ⟨_, failed, spills⟩
          exact .turning (dimensions_of_reaches reached ▸ unbounded)
      | encoding reached failed =>
          obtain ⟨array, rendered, failed⟩ :=
            (failsWith_encode (holds_of_reaches reached)).mp ⟨fault, failed, spills⟩
          obtain ⟨shown, written, clips⟩ := failsWith_encodeArray.mp failed
          exact .encoding reached rendered shown written clips
    · exact .library letOut
  · rintro (unbounded | ⟨reached, rendered, shown, written, clips⟩ | letOut)
    · -- opening and scaling always succeed, so turning is always come to
      have opened : (graphBackend libraries).Reaches raster target request .scaling
        (bare raster.dimensions) := .opened rfl
      have reached := Backend.Reaches.scaled opened rfl
      obtain ⟨step, failed, spills⟩ :=
        failsWith_rotate.mpr (dimensions_of_reaches reached ▸ unbounded)
      exact .inl ⟨.rotating, step.fault, .rotating reached failed, spills⟩
    · obtain ⟨fault, failed, spills⟩ := (failsWith_encode (holds_of_reaches reached)).mpr
        ⟨_, rendered, failsWith_encodeArray.mpr ⟨shown, written, clips⟩⟩
      exact .inl ⟨.encoding, fault, .encoding reached failed, spills⟩
    · exact .inr letOut

end RenderGraph

end Jp2Render
