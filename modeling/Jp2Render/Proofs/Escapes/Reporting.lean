import Jp2Render.Proofs.Escapes.GraphStages
import Jp2Render.Proofs.Escapes.RasterStages
import Jp2Render.Proofs.Escapes.Target

/-!
Processing that is reported. Whatever goes wrong is meant to be told by the name of the backend and of
the stage that failed. The stages are gone through one after the other, each with the handle that the
one before it has left; that a stage failed is told wherever its fault is one that is handled.
-/

namespace Jp2Render

namespace Raster.IsDecoded

variable {raster : Raster} (decoded : raster.IsDecoded)
include decoded

theorem isPlain : raster.picture.IsPlain := decoded.mode.imp_right .inl

theorem inRange : raster.dimensions.InRange := by
  obtain ⟨⟨wide, high⟩, short⟩ := decoded.counted
  unfold Dimensions.IsLong Dimensions.longSide at short
  have small := Arithmetic.two_pow_lt_integerRange (by decide : 31 ≤ 1022)
  constructor
  · exact (by omega : raster.dimensions.width.natAbs < 2 ^ 31).trans small
  · exact (by omega : raster.dimensions.height.natAbs < 2 ^ 31).trans small

end Raster.IsDecoded

namespace Backend

variable {Handle : Type} {backend : Backend Handle}

/-- What processing is meant to come to: an encoded picture, or the failure of one of the stages, told
by its name and that of the backend. -/
inductive Reports (backend : Backend Handle) (raster : Raster) (request : Request) (quality : Int) :
    Except ProcessingFault EncodedPicture → Prop
  | encoded (picture : EncodedPicture) : Reports backend raster request quality (.ok picture)
  | failed {target : Dimensions} {stage : Stage} {fault : PictureFault}
      (found : request.size.scaling.target raster.dimensions raster.reduction = .ok target)
      (breaks : backend.Breaks raster target request quality stage fault) :
    Reports backend raster request quality (.error (.failed backend.name stage fault))

/-- What else it may come to: a target that cannot be found, or a stage with a fault that nobody
handles. -/
theorem process_cases (backend : Backend Handle) (raster : Raster) (request : Request)
    (quality : Int) :
    backend.Reports raster request quality (backend.process raster request quality).result ∨
      (∃ cause, (backend.process raster request quality).result = .error (.target cause)) ∨
      ∃ target stage fault, backend.Breaks raster target request quality stage fault ∧
        fault.failsStage = false ∧
        (backend.process raster request quality).result = .error (.escaped fault) := by
  unfold process
  cases found : request.size.scaling.target raster.dimensions raster.reduction with
  | error cause => exact .inr (.inl ⟨cause, rfl⟩)
  | ok target =>
      simp only
      cases outcome : (backend.afterOpening raster target request quality
        (backend.start { picture := raster.picture })).1 with
      | ok picture => exact .inl (.encoded picture)
      | error failure =>
          obtain ⟨stage, fault⟩ := failure
          have breaks := breaks_of_afterOpening outcome
          rw [mapError_error, faultOf]
          by_cases handled : fault.failsStage = true
          · rw [if_pos handled]
            exact .inl (.failed found breaks)
          · rw [if_neg handled]
            exact .inr (.inr ⟨target, stage, fault, breaks, Bool.eq_false_of_not_eq_true handled, rfl⟩)

theorem reports_iff (raster : Raster) (request : Request) (quality : Int) :
    backend.Reports raster request quality (backend.process raster request quality).result ↔
      ¬ FailsWith (fun fault => (Failure.processing fault).Escapes)
        (backend.process raster request quality).result := by
  constructor
  · intro reports
    generalize (backend.process raster request quality).result = outcome at reports ⊢
    cases reports with
    | encoded picture => exact not_failsWith_ok _
    | failed found breaks =>
        exact not_failsWith_error (Failure.not_escapes_of_kind .postProcessing rfl (by decide))
  · intro fine
    rcases backend.process_cases raster request quality with
      reports | ⟨cause, failed⟩ | ⟨target, stage, fault, breaks, loose, failed⟩
    · exact reports
    · exact absurd ⟨_, failed, Failure.escapes_target cause⟩ fine
    · exact absurd ⟨_, failed, Failure.escapes_escaped loose⟩ fine

end Backend

namespace BackendKind

/-- The stages of a backend let a failure escape. -/
def Overruns (kind : BackendKind) (libraries : Libraries) (raster : Raster) (target : Dimensions)
    (request : Request) (quality : Int) : Prop :=
  match kind with
  | .raster => RasterBackend.Overruns libraries raster target request quality
  | .graph => RenderGraph.Overruns libraries raster target request quality

/-- Processing comes to an encoded picture, or tells the backend and the stage that failed. -/
def Reports (kind : BackendKind) (libraries : Libraries) (raster : Raster) (request : Request)
    (quality : Int) : Prop :=
  match kind with
  | .raster => (rasterBackend libraries).Reports raster request quality
      (kind.process raster request quality libraries).result
  | .graph => (graphBackend libraries).Reports raster request quality
      (kind.process raster request quality libraries).result

theorem reports_iff_not_escapes (kind : BackendKind) (libraries : Libraries) (raster : Raster)
    (request : Request) (quality : Int) :
    kind.Reports libraries raster request quality ↔
      ¬ FailsWith (fun fault => (Failure.processing fault).Escapes)
        (kind.process raster request quality libraries).result := by
  cases kind with
  | raster => exact Backend.reports_iff raster request quality
  | graph => exact Backend.reports_iff raster request quality

section

variable {kind : BackendKind} {libraries : Libraries} {raster : Raster} {request : Request}
  {quality : Int} {reduction : Nat}

theorem failsWith_process (decoded : raster.IsDecoded) (reduced : raster.reduction = reduction)
    (known : (reduction : Int) ≤ Reduction.limit) :
    FailsWith (fun fault => (Failure.processing fault).Escapes)
        (kind.process raster request quality libraries).result ↔
      request.size.scaling.HasNoTarget raster.dimensions reduction ∨
      ∃ target, request.size.scaling.target raster.dimensions reduction = .ok target ∧
        kind.Overruns libraries raster target request quality := by
  have missing := Scaling.fails_target decoded.inRange known request.size.scaling
  cases kind with
  | raster =>
      refine Backend.failsWith_process.trans ?_
      rw [reduced]
      refine or_congr missing (exists_congr fun target => and_congr_right fun _ => ?_)
      exact RasterBackend.breaks_loose_iff decoded.isPlain decoded.counted
  | graph =>
      refine Backend.failsWith_process.trans ?_
      rw [reduced]
      refine or_congr missing (exists_congr fun target => and_congr_right fun _ => ?_)
      exact RenderGraph.breaks_loose_iff

/-- A raster that has been decoded is processed into a picture, or the backend and the stage that
failed are told, unless the raster has no target or the stages overrun; then, and only then, a failure
gets out that is none of the request. This holds whatever the libraries refuse to do. -/
theorem reported_unless_overruns (decoded : raster.IsDecoded)
    (reduced : raster.reduction = reduction) (known : (reduction : Int) ≤ Reduction.limit) :
    (kind.Reports libraries raster request quality ↔
      ¬ (request.size.scaling.HasNoTarget raster.dimensions reduction ∨
        ∃ target, request.size.scaling.target raster.dimensions reduction = .ok target ∧
          kind.Overruns libraries raster target request quality)) ∧
    (¬ kind.Reports libraries raster request quality →
      FailsWith (fun fault => (Failure.processing fault).Escapes)
        (kind.process raster request quality libraries).result) := by
  have reports := reports_iff_not_escapes kind libraries raster request quality
  constructor
  · rw [reports, failsWith_process decoded reduced known]
  · intro silent
    by_contra fine
    exact silent (reports.mpr fine)

end

/-- One pixel, which has any size but one without a number. -/
theorem reported_unless_overruns_pixel :
    let picture : Picture := { mode := .gray, grid := .ofSamples 1 1 1 #[97] }
    let endless : Size := ⟨⟨.percent, none, none, some (.infinite false)⟩, .percent (.infinite false),
      by decide +kernel⟩
    BackendKind.graph.Reports .willing { picture } { format := .png } 80 ∧
      ¬ BackendKind.raster.Reports .willing { picture } { format := .png, size := endless } 80 := by
  intro picture endless
  have decoded : Raster.IsDecoded { picture } := ⟨⟨⟨by decide, by decide⟩, by decide⟩, .inr rfl⟩
  have reduced : ({ picture } : Raster).reduction = ((0 : Nat) : Int) := rfl
  have upright : Rotation.none.normalized.isZero = true := by decide +kernel
  have finished : ((graphBackend .willing).afterOpening { picture } ⟨1, 1⟩ { format := .png } 80
      ((graphBackend .willing).start { picture })).1.isOk = true := by decide +kernel
  constructor
  · refine (reported_unless_overruns decoded reduced (by decide)).1.mpr ?_
    rintro (missing | ⟨target, found, overruns⟩)
    · exact missing
    · obtain rfl := Except.ok.inj found
      cases overruns with
      | turning unbounded => exact Bool.noConfusion (unbounded.1.symm.trans upright)
      | encoding _ _ _ _ clips => cases clips.1
      | library letOut =>
          obtain ⟨stage, fault, breaks, -⟩ := letOut
          have failed := Backend.afterOpening_of_breaks breaks
          obtain ⟨encoded, done⟩ := exists_eq_ok finished
          cases done.symm.trans failed
  · intro reports
    refine (reported_unless_overruns decoded reduced (by decide)).1.mp reports ?_
    exact .inl (.inl (by decide +kernel))

/-- A side too long for a machine word gets out of scaling as a fault that no stage handles. -/
theorem not_reported_overlong :
    ¬ ∀ (kind : BackendKind) (raster : Raster) (request : Request) (quality : Int) (reduction : Nat),
      raster.IsDecoded → raster.reduction = reduction → (reduction : Int) ≤ Reduction.limit →
      kind.Reports .willing raster request quality := by
  intro reported
  let raster : Raster := { picture := { mode := .gray, grid := .ofSamples 1 1 1 #[97] } }
  let overlong : Size := ⟨⟨.forced, some 1099511627776, some 1, none⟩, .forced 1099511627776 1,
    by decide +kernel⟩
  have decoded : raster.IsDecoded := ⟨⟨⟨by decide, by decide⟩, by decide⟩, .inr rfl⟩
  have reports := reported .raster raster { format := .png, size := overlong } 80 0 decoded rfl
    (by decide)
  have escaped : ((rasterBackend .willing).process raster { format := .png, size := overlong }
      80).result = .error (.escaped (.sideTooLong 1099511627776)) := by
    decide +kernel
  have impossible : (rasterBackend .willing).Reports raster { format := .png, size := overlong } 80
    (.error (.escaped (.sideTooLong 1099511627776))) := escaped ▸ reports
  cases impossible

end BackendKind

end Jp2Render
