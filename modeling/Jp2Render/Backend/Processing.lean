import Jp2Render.Backend.Graph
import Jp2Render.Backend.Raster
import Jp2Render.Failure.Kind
import Jp2Render.Raster

/-!
Post-processing of a raster. A backend opens the raster, scales, rotates, filters and encodes it.
Whatever happens, the raster is closed in the end, and the handle is released if there was one. A
stage that fails ends the processing; there is no falling back to another backend.
-/

namespace Jp2Render

inductive ProcessingFault where
  /-- There is no size to scale to; the raster has not been touched. -/
  | target (fault : ArithmeticFault)
  | failed (backend : String) (stage : Stage) (fault : PictureFault)
  | escaped (fault : PictureFault)
deriving DecidableEq, Repr

namespace ProcessingFault

def shown : ProcessingFault → FaultText
  | .target fault => fault.shown
  | .failed backend stage fault =>
    .ofMessage FailureKind.postProcessing.name
      (FailureKind.postProcessingMessage backend stage.name fault.shown.message)
  | .escaped fault => fault.shown

def cause? : ProcessingFault → Option FaultText
  | .failed _ _ fault => some fault.shown
  | _ => none

end ProcessingFault

/-- What processing leaves: the result, the records, and how often the raster was closed and the
handle released. -/
structure ProcessingReport where
  result : Except ProcessingFault EncodedPicture
  journal : Journal
  closes : Nat
  releases : Nat

namespace Backend

variable {Handle : Type}

def attempt {α : Type} (stage : Stage) (result : Except (StepFault Handle) α) :
    Except (Stage × PictureFault) α :=
  result.mapError fun step => (stage, step.fault)

def transform (backend : Backend Handle) (target : Dimensions) (request : Request)
    (handle : Handle) : Except (Stage × PictureFault) Handle := do
  let scaled ← attempt .scaling (backend.scale target handle)
  let rotated ← attempt .rotating (backend.rotate request.rotation scaled)
  attempt .filtering (backend.filter request.quality rotated)

abbrev StageResult := Except (Stage × PictureFault) EncodedPicture

def finish (backend : Backend Handle) (raster : Raster) (target : Dimensions) (request : Request)
    (quality : Int) (handle : Handle) : StageResult × Journal :=
  match backend.transform target request handle with
  | .error failure => (.error failure, [])
  | .ok handle =>
    let report := backend.encode { picture := raster.picture } request.format quality handle
    (report.result.mapError (Stage.encoding, ·), report.journal)

def afterOpening (backend : Backend Handle) (raster : Raster) (target : Dimensions)
    (request : Request) (quality : Int) : Except PictureFault Handle → StageResult × Journal
  | .error fault => (.error (.opening, fault), [])
  | .ok handle => backend.finish raster target request quality handle

def record (severity : Severity) (message : String) : Record := ⟨severity, .backend, message⟩

def faultOf (backend : Backend Handle) : Stage × PictureFault → ProcessingFault
  | (stage, fault) =>
    if fault.failsStage then .failed backend.name stage fault else .escaped fault

def faultRecords : Except ProcessingFault EncodedPicture → Journal
  | .error (.failed backend stage _) =>
    [record .error (backend ++ " post-processing failed at " ++ stage.name)]
  | _ => []

def startRecord (backend : Backend Handle) (raster : Raster) (target : Dimensions)
    (request : Request) : Record :=
  record .debug (backend.name ++ " post-processing " ++ raster.dimensions.text ++ " -> " ++
    target.text ++ ", rotation " ++ request.rotation.degrees.text ++ ", quality " ++
    request.quality.name ++ ", format " ++ request.format.extension)

def process (backend : Backend Handle) (raster : Raster) (request : Request) (quality : Int) :
    ProcessingReport :=
  match request.size.scaling.target raster.dimensions raster.reduction with
  | .error fault => { result := .error (.target fault), journal := [], closes := 0, releases := 0 }
  | .ok target =>
    let opened := backend.start { picture := raster.picture }
    let (outcome, journal) := backend.afterOpening raster target request quality opened
    let result := outcome.mapError backend.faultOf
    { result
      journal := backend.startRecord raster target request :: journal ++ faultRecords result
      closes := 1
      releases := if opened.isOk then 1 else 0 }

end Backend

inductive BackendKind where
  | raster
  | graph
deriving DecidableEq, Repr

namespace BackendKind

def name : BackendKind → String
  | .raster => rasterBackend.name
  | .graph => graphBackend.name

def all : List BackendKind := [.raster, .graph]

def ofName? (name : String) : Option BackendKind :=
  all.find? (·.name = Text.lower name)

def process (kind : BackendKind) (raster : Raster) (request : Request) (quality : Int)
    (libraries : Libraries := .willing) : ProcessingReport :=
  match kind with
  | .raster => (rasterBackend libraries).process raster request quality
  | .graph => (graphBackend libraries).process raster request quality

end BackendKind

structure UnknownBackend where
  name : String
deriving DecidableEq, Repr

def UnknownBackend.message (fault : UnknownBackend) : String :=
  "Unknown post-processor " ++ Text.quoted fault.name ++ "; expected one of graph, raster"

/-- A chosen backend, with the quality that it encodes lossy formats at. -/
structure PostProcessor where
  kind : BackendKind
  quality : Int := 80
deriving DecidableEq, Repr

namespace PostProcessor

def ofName (name : String) (quality : Int) : Except UnknownBackend PostProcessor :=
  match BackendKind.ofName? name with
  | some kind => .ok { kind, quality }
  | none => .error ⟨name⟩

def chosenRecord (processor : PostProcessor) : Record :=
  ⟨.debug, .backends, "Post-processing using " ++ processor.kind.name⟩

def process (processor : PostProcessor) (raster : Raster) (request : Request)
    (libraries : Libraries := .willing) : ProcessingReport :=
  processor.kind.process raster request processor.quality libraries

end PostProcessor

end Jp2Render
