import Jp2Render.Proofs.Backend.Agreement
import Jp2Render.Proofs.Escapes.Faults

/-!
Stages that let a failure escape. A stage is begun with the handle that the one before it has left, and
the first one that breaks is the one that is named. Its fault is loose if no stage handles it. Loose
faults are those of a library that are of no class that is handled, and two of the program's own making,
which spill: a side that no machine word can count is handed on to the library, and a field of the
encoded picture may be too small for a side.
-/

namespace Jp2Render

/-- Turning onto a canvas with a side that no machine word can count. -/
def Rotation.Overturns (degrees : Binary64) (before : Dimensions) : Prop :=
  degrees.isZero = false ∧ ∃ box, boundingBox before degrees = .ok box ∧ box.IsLong

/-- Turning by an angle that is a number, without a canvas to turn onto. -/
def Rotation.Unbounded (degrees : Binary64) (before : Dimensions) : Prop :=
  degrees.isZero = false ∧
    ∃ cause, boundingBox before degrees = .error cause ∧ cause ≠ .notANumberHasNoInteger

def Picture.IsPlain (picture : Picture) : Prop :=
  picture.mode = .rgb ∨ picture.mode = .gray ∨ picture.mode = .bilevel

/-- A side of a GIF is a field of sixteen bits. -/
def OutputFormat.Clips (format : OutputFormat) (d : Dimensions) : Prop :=
  format = .gif ∧ (65535 < d.width ∨ 65535 < d.height)

theorem Dimensions.IsCounted.exists_nat {d : Dimensions} (counted : d.IsCounted) :
    ∃ width height : Nat, width < 2 ^ 31 ∧ height < 2 ^ 31 ∧ d = ⟨width, height⟩ := by
  obtain ⟨⟨wide, high⟩, short⟩ := counted
  unfold IsLong longSide at short
  obtain ⟨width, height⟩ := d
  simp only at wide high short
  -- bounding boxes are known for natural sides only
  lift width to Nat using by omega
  lift height to Nat using by omega
  exact ⟨width, height, by omega, by omega, rfl⟩

namespace Rotation

theorem canvasAndMap_counted {d : Dimensions} (counted : d.IsCounted) (degrees : Binary64)
    (origin : PixelOrigin) :
    (boundingBox d degrees = .error .notANumberHasNoInteger ∧
      canvasAndMap d degrees origin = .error .notANumberHasNoInteger) ∨
    ∃ box map, boundingBox d degrees = .ok box ∧
      canvasAndMap d degrees origin = .ok (box, map) := by
  obtain ⟨width, height, narrow, low, rfl⟩ := counted.exists_nat
  rcases boundingBox_short narrow low degrees with nan | ⟨box, bounded, -⟩
  · refine .inl ⟨nan, ?_⟩
    rw [canvasAndMap, nan, error_bind]
  · obtain ⟨map, drawn⟩ := canvasAndMap_of_boundingBox origin bounded
    exact .inr ⟨box, map, bounded, drawn⟩

end Rotation

namespace Library

variable {Task Subject : Type} {library : Library Task Subject} {task : Task} {subject : Subject}

theorem ask_eq_ok_iff {u : Unit} :
    library.ask task subject = .ok u ↔ library.refusal? task subject = none := by
  unfold ask
  split <;> simp_all

theorem not_spills_ask : ¬ FailsWith PictureFault.Spills (library.ask task subject) := by
  unfold ask
  split <;> simp

end Library

namespace EncodedPicture

theorem convertedFor_plain (format : OutputFormat) {picture : Picture} (plain : picture.IsPlain) :
    ∃ converted, convertedFor format picture = .ok converted := by
  unfold convertedFor
  split
  · exact ⟨picture, rfl⟩
  · next foreign =>
    split
    · next gif =>
      -- a mode that is converted for a GIF is none of its own, which leaves colours only
      rw [gif] at foreign
      rcases plain with mode | mode | mode
      · simp [mode]
      · exact absurd (by simp [nativeModes, mode]) foreign
      · exact absurd (by simp [nativeModes, mode]) foreign
    · split
      · exact ⟨_, rfl⟩
      · exact ⟨_, rfl⟩

theorem failsWith_checkSides {format : OutputFormat} {picture : Picture} :
    FailsWith PictureFault.Spills (checkSides format picture) ↔
      format.Clips picture.dimensions := by
  unfold checkSides OutputFormat.Clips
  have width : picture.dimensions.width = picture.grid.width := rfl
  have height : picture.dimensions.height = picture.grid.height := rfl
  cases format with
  | gif =>
      simp only
      split
      · rw [failsWith_error]
        exact iff_of_true PictureFault.spills_fieldTooSmall ⟨trivial, by omega⟩
      · refine iff_of_false (not_failsWith_ok _) ?_
        rintro ⟨-, long⟩
        omega
  | jpg =>
      simp only
      split <;> simp
  | webp =>
      simp only
      split <;> simp
  | _ => exact iff_of_false (not_failsWith_ok _) nofun

theorem failsWith_ofPicture {format : OutputFormat} {quality : Int} {picture : Picture}
    (plain : picture.IsPlain) :
    FailsWith PictureFault.Spills (ofPicture format quality picture) ↔
      format.Clips picture.dimensions := by
  obtain ⟨converted, conversion⟩ := convertedFor_plain format plain
  rw [ofPicture, conversion, ok_bind, ← dimensions_convertedFor conversion,
    ← failsWith_checkSides]
  exact failsWith_bind_left fun _ => not_failsWith_pure _

end EncodedPicture

theorem Backend.failsWith_encodePicture {libraries : Libraries} {format : OutputFormat}
    {quality : Int} {picture : Picture} (plain : picture.IsPlain) :
    FailsWith PictureFault.Spills (encodePicture libraries picture format quality).result ↔
      libraries.pictures.refusal? (.write format quality) picture = none ∧
        format.Clips picture.dimensions := by
  refine failsWith_bind.trans ((or_iff_right Library.not_spills_ask).trans ?_)
  simp only [Library.ask_eq_ok_iff, EncodedPicture.failsWith_ofPicture plain, exists_const]

namespace Backend

variable {Handle : Type} {backend : Backend Handle} {raster : Raster} {target : Dimensions}
  {request : Request} {quality : Int} {stage : Stage} {opened handle : Handle} {fault : PictureFault}

inductive Reaches (backend : Backend Handle) (raster : Raster) (target : Dimensions)
    (request : Request) : Stage → Handle → Prop
  | opened {handle : Handle} (done : backend.start { picture := raster.picture } = .ok handle) :
    Reaches backend raster target request .scaling handle
  | scaled {handle next : Handle} (reached : Reaches backend raster target request .scaling handle)
      (done : backend.scale target handle = .ok next) :
    Reaches backend raster target request .rotating next
  | rotated {handle next : Handle} (reached : Reaches backend raster target request .rotating handle)
      (done : backend.rotate request.rotation handle = .ok next) :
    Reaches backend raster target request .filtering next
  | filtered {handle next : Handle}
      (reached : Reaches backend raster target request .filtering handle)
      (done : backend.filter request.quality handle = .ok next) :
    Reaches backend raster target request .encoding next

inductive Breaks (backend : Backend Handle) (raster : Raster) (target : Dimensions)
    (request : Request) (quality : Int) : Stage → PictureFault → Prop
  | opening {fault : PictureFault}
      (failed : backend.start { picture := raster.picture } = .error fault) :
    Breaks backend raster target request quality .opening fault
  | scaling {handle : Handle} {step : StepFault Handle}
      (reached : backend.Reaches raster target request .scaling handle)
      (failed : backend.scale target handle = .error step) :
    Breaks backend raster target request quality .scaling step.fault
  | rotating {handle : Handle} {step : StepFault Handle}
      (reached : backend.Reaches raster target request .rotating handle)
      (failed : backend.rotate request.rotation handle = .error step) :
    Breaks backend raster target request quality .rotating step.fault
  | filtering {handle : Handle} {step : StepFault Handle}
      (reached : backend.Reaches raster target request .filtering handle)
      (failed : backend.filter request.quality handle = .error step) :
    Breaks backend raster target request quality .filtering step.fault
  | encoding {handle : Handle} {fault : PictureFault}
      (reached : backend.Reaches raster target request .encoding handle)
      (failed : (backend.encode { picture := raster.picture } request.format quality handle).result =
        .error fault) :
    Breaks backend raster target request quality .encoding fault

theorem transform_eq_ok_iff {handle : Handle} :
    backend.transform target request opened = .ok handle ↔
      ∃ scaled, backend.scale target opened = .ok scaled ∧
        ∃ rotated, backend.rotate request.rotation scaled = .ok rotated ∧
          backend.filter request.quality rotated = .ok handle := by
  unfold transform
  refine bind_eq_ok_iff.trans (exists_congr fun scaled => and_congr mapError_eq_ok_iff ?_)
  refine bind_eq_ok_iff.trans (exists_congr fun rotated => and_congr mapError_eq_ok_iff ?_)
  exact mapError_eq_ok_iff

theorem attempt_eq_error_iff {α : Type} {result : Except (StepFault Handle) α}
    {failure : Stage × PictureFault} :
    attempt stage result = .error failure ↔
      ∃ step, result = .error step ∧ (stage, step.fault) = failure := mapError_eq_error_iff

theorem breaks_of_transform {opened : Handle}
    (start : backend.start { picture := raster.picture } = .ok opened)
    (failed : backend.transform target request opened = .error (stage, fault)) :
    backend.Breaks raster target request quality stage fault := by
  have reached : backend.Reaches raster target request .scaling opened := .opened start
  -- the first of the three that fails is the one that is named
  rcases bind_eq_error_iff.mp failed with failed | ⟨scaled, done, failed⟩
  · obtain ⟨step, broken, ⟨⟩⟩ := attempt_eq_error_iff.mp failed
    exact .scaling reached broken
  have reached := reached.scaled (mapError_eq_ok_iff.mp done)
  rcases bind_eq_error_iff.mp failed with failed | ⟨rotated, done, failed⟩
  · obtain ⟨step, broken, ⟨⟩⟩ := attempt_eq_error_iff.mp failed
    exact .rotating reached broken
  have reached := reached.rotated (mapError_eq_ok_iff.mp done)
  obtain ⟨step, broken, ⟨⟩⟩ := attempt_eq_error_iff.mp failed
  exact .filtering reached broken

theorem reaches_of_transform {opened : Handle}
    (start : backend.start { picture := raster.picture } = .ok opened)
    (transformed : backend.transform target request opened = .ok handle) :
    backend.Reaches raster target request .encoding handle := by
  obtain ⟨scaled, scaling, rotated, rotating, filtering⟩ := transform_eq_ok_iff.mp transformed
  exact (((Reaches.opened start).scaled scaling).rotated rotating).filtered filtering

theorem breaks_of_afterOpening
    (failed : (backend.afterOpening raster target request quality
      (backend.start { picture := raster.picture })).1 = .error (stage, fault)) :
    backend.Breaks raster target request quality stage fault := by
  cases start : backend.start { picture := raster.picture } with
  | error fault =>
      rw [start, afterOpening] at failed
      cases failed
      exact .opening start
  | ok opened =>
      rw [start, afterOpening, finish] at failed
      cases transformed : backend.transform target request opened with
      | error failure =>
          rw [transformed] at failed
          cases failed
          exact breaks_of_transform start transformed
      | ok handle =>
          rw [transformed] at failed
          obtain ⟨cause, failed, ⟨⟩⟩ := mapError_eq_error_iff.mp failed
          exact .encoding (reaches_of_transform start transformed) failed

theorem afterOpening_of_breaks (breaks : backend.Breaks raster target request quality stage fault) :
    (backend.afterOpening raster target request quality
      (backend.start { picture := raster.picture })).1 = .error (stage, fault) := by
  -- all stages before the one that breaks have succeeded, so their results are known
  cases breaks with
  | opening failed => rw [failed, afterOpening]
  | scaling reached failed =>
      cases reached with
      | opened start =>
          simp only [start, afterOpening, finish, transform, attempt, failed, mapError_error, error_bind]
  | rotating reached failed =>
      cases reached with
      | scaled reached scaling =>
          cases reached with
          | opened start =>
              simp only [start, afterOpening, finish, transform, attempt, scaling, failed, mapError_ok,
                ok_bind, mapError_error, error_bind]
  | filtering reached failed =>
      cases reached with
      | rotated reached rotating =>
          cases reached with
          | scaled reached scaling =>
              cases reached with
              | opened start =>
                  simp only [start, afterOpening, finish, transform, attempt, scaling, rotating, failed,
                    mapError_ok, ok_bind, mapError_error]
  | encoding reached failed =>
      cases reached with
      | filtered reached filtering =>
          cases reached with
          | rotated reached rotating =>
              cases reached with
              | scaled reached scaling =>
                  cases reached with
                  | opened start =>
                      have transformed := transform_eq_ok_iff.mpr
                        ⟨_, scaling, _, rotating, filtering⟩
                      simp only [start, afterOpening, finish, transformed, failed, mapError_error]

theorem failsWith_afterOpening {counts : PictureFault → Prop} :
    FailsWith (fun failure => counts failure.2)
        (backend.afterOpening raster target request quality
          (backend.start { picture := raster.picture })).1 ↔
      ∃ stage fault, backend.Breaks raster target request quality stage fault ∧ counts fault := by
  constructor
  · rintro ⟨⟨stage, fault⟩, failed, counted⟩
    exact ⟨stage, fault, breaks_of_afterOpening failed, counted⟩
  · rintro ⟨stage, fault, breaks, counted⟩
    exact ⟨⟨stage, fault⟩, afterOpening_of_breaks breaks, counted⟩

theorem failsWith_process :
    FailsWith (fun fault => (Failure.processing fault).Escapes)
        (backend.process raster request quality).result ↔
      Fails (request.size.scaling.target raster.dimensions raster.reduction) ∨
      ∃ target, request.size.scaling.target raster.dimensions raster.reduction = .ok target ∧
        ∃ stage fault, backend.Breaks raster target request quality stage fault ∧ fault.IsLoose := by
  unfold process
  split
  · next fault missing =>
    rw [missing]
    simp
  · next target found =>
    rw [found]
    simp only [not_failsWith_ok, false_or, Except.ok.injEq, exists_eq_left']
    rw [failsWith_mapError, ← failsWith_afterOpening]
    exact failsWith_congr fun failure => Failure.escapes_faultOf backend failure

def LetsOut (backend : Backend Handle) (raster : Raster) (target : Dimensions) (request : Request)
    (quality : Int) : Prop :=
  ∃ stage fault, backend.Breaks raster target request quality stage (.library fault) ∧
    fault.faultClass = .other

def Spills (backend : Backend Handle) (raster : Raster) (target : Dimensions) (request : Request)
    (quality : Int) : Prop :=
  ∃ stage fault, backend.Breaks raster target request quality stage fault ∧ fault.Spills

theorem breaks_loose_iff :
    (∃ stage fault, backend.Breaks raster target request quality stage fault ∧ fault.IsLoose) ↔
      backend.Spills raster target request quality ∨ backend.LetsOut raster target request quality := by
  constructor
  · rintro ⟨stage, fault, breaks, loose⟩
    rcases PictureFault.isLoose_iff.mp loose with spills | ⟨cause, rfl, other⟩
    · exact .inl ⟨stage, fault, breaks, spills⟩
    · exact .inr ⟨stage, cause, breaks, other⟩
  · rintro (⟨stage, fault, breaks, spills⟩ | ⟨stage, cause, breaks, other⟩)
    · exact ⟨stage, fault, breaks, PictureFault.isLoose_iff.mpr (.inl spills)⟩
    · exact ⟨stage, _, breaks, PictureFault.isLoose_iff.mpr (.inr ⟨cause, rfl, other⟩)⟩

end Backend

end Jp2Render
