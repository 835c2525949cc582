import Jp2Render.Binary64.Decimal

/-!
Kinds of failure, as users of the program tell them apart, and the messages of those kinds that
carry more than a message. Every failure to serve a request is a request failure; a timeout of the
decoder is also a failure of its streams.
-/

namespace Jp2Render

inductive FailureKind where
  | general
  | configuration
  | request
  | unsupportedSource
  | unsupportedOutput
  | headerTool
  | malformedHeader
  | processStart
  | processFailed
  | streamIO
  | decodeTimeout
  | postProcessing
deriving DecidableEq, Repr

namespace FailureKind

def name : FailureKind → String
  | .general => "KduProcError"
  | .configuration => "ConfigurationError"
  | .request => "ProcessorError"
  | .unsupportedSource => "UnsupportedSourceFormatError"
  | .unsupportedOutput => "UnsupportedOutputFormatError"
  | .headerTool => "HeaderToolError"
  | .malformedHeader => "MalformedHeaderError"
  | .processStart => "ProcessStartError"
  | .processFailed => "ProcessFailedError"
  | .streamIO => "StreamIOError"
  | .decodeTimeout => "DecodeTimeoutError"
  | .postProcessing => "PostProcessingError"

def all : List FailureKind :=
  [.general, .configuration, .request, .unsupportedSource, .unsupportedOutput, .headerTool,
    .malformedHeader, .processStart, .processFailed, .streamIO, .decodeTimeout, .postProcessing]

def ofName? (name : String) : Option FailureKind := all.find? (·.name = name)

def lineage : FailureKind → List FailureKind
  | .general => [.general]
  | .configuration => [.configuration, .general]
  | .request => [.request, .general]
  | .decodeTimeout => [.decodeTimeout, .streamIO, .request, .general]
  | kind => [kind, .request, .general]

def isWrongValue (kind : FailureKind) : Bool := kind = .configuration

def isRequestFailure (kind : FailureKind) : Bool := decide (.request ∈ kind.lineage)

def unsupportedSourceMessage (format : String) : String := "Unsupported source format: " ++ format

def unsupportedOutputMessage (format : String) : String := "Unsupported output format: " ++ format

def timeoutMessage (tool : String) (limit : Binary64) : String :=
  tool ++ " did not finish within " ++ limit.text ++ "s and was killed"

def postProcessingMessage (backend stage message : String) : String :=
  if stage.isEmpty then message
  else
    let name := if backend.isEmpty then "post-processing" else backend
    name ++ " failed at '" ++ stage ++ "': " ++ message

end FailureKind

end Jp2Render
