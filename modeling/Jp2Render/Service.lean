import Jp2Render.Activity

/-!
Serving requests end to end: the formats are checked, the source's size is asked for once, decoding
is planned and done, and the raster is post-processed. Nothing is written unless all of this has
succeeded.
-/

namespace Jp2Render

structure ServiceSettings where
  binDirectory : Option String := none
  stdoutDestination : String := stdoutDevice
  backend : String := "raster"
  decodeTimeout : Option Binary64 := none
  outputLimit : Int := 1024 * 1024 * 1024
  toleratesSilence : Bool := true
  reductionBound : Int := Reduction.limit
  quality : Int := 80

structure Service where
  probe : Probe
  decoder : Decoder
  postProcessor : PostProcessor

namespace Service

def ofSettings (settings : ServiceSettings) : Except UnknownBackend Service := do
  let postProcessor ← PostProcessor.ofName settings.backend settings.quality
  return {
    probe := { binDirectory := settings.binDirectory }
    decoder :=
      { binDirectory := settings.binDirectory
        destination := settings.stdoutDestination
        timeout := settings.decodeTimeout
        outputLimit := settings.outputLimit
        toleratesSilence := settings.toleratesSilence
        reductionBound := settings.reductionBound }
    postProcessor }

def record (severity : Severity) (message : String) : Record := ⟨severity, .processor, message⟩

def checkFormats (request : Request) (source : Source) : Except Failure Unit :=
  if source.format.outputs.isEmpty then .error (.unsupportedSource source.format)
  else if request.format ∈ source.format.outputs then .ok ()
  else .error (.unsupportedOutput request.format)

def postProcess (service : Service) (surroundings : Surroundings) (raster : Raster)
    (request : Request) : Serving EncodedPicture := do
  let report := service.postProcessor.process raster request surroundings.libraries
  Serving.note report.journal
  Serving.settle .processing report.result

def make (service : Service) (surroundings : Surroundings) (request : Request) (source : Source) :
    Serving EncodedPicture := do
  let full ← Serving.askSize surroundings service.probe source
  let plan ← Serving.planDecoding surroundings service.decoder request full source
  let raster ← Serving.decode surroundings service.decoder source plan.region plan.reduction
  service.postProcess surroundings raster request

def failureRecords (source : Source) : Failure → Journal
  | .inputOutput _ => [record .error ("I/O error while processing " ++ source.path.text)]
  | _ => []

def render (service : Service) (surroundings : Surroundings) (request : Request)
    (source : Source) : Serving EncodedPicture := do
  Serving.settle id (checkFormats request source)
  try service.make surroundings request source
  catch failure =>
    let failure := failure.ofRequest
    Serving.note (failureRecords source failure)
    throw failure

def writtenRecord (request : Request) (source : Source) : Record :=
  record .info ("Wrote N bytes of " ++ request.format.mediaType ++ " for " ++ source.path.name)

def serveTo (stream : OutputStream) (service : Service) (surroundings : Surroundings)
    (request : Request) (source : Source) : Serving EncodedPicture := do
  let picture ← service.render surroundings request source
  Serving.write stream picture
  Serving.note [writtenRecord request source]
  return picture

def serve (service : Service) (surroundings : Surroundings) (request : Request) (source : Source)
    (writing : Option SystemError) : Serving EncodedPicture :=
  service.serveTo { refusal? := fun _ => writing.map .system } surroundings request source

end Service

end Jp2Render
