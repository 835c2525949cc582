import Jp2Render.Backend.Processing
import Jp2Render.FileTree
import Jp2Render.Header
import Jp2Render.Process.Outcome

/-!
What can go wrong while a request is served, from the check of its formats to the writing of its
output. Most failures are failures of the request. A few faults come from operations that nobody
expects to fail; they have no kind and end whatever was going on.
-/

namespace Jp2Render

inductive Failure where
  | unsupportedSource (format : SourceFormat)
  | unsupportedOutput (format : OutputFormat)
  | header (fault : HeaderFault)
  | run (fault : RunFault)
  | tool (failure : ToolFailure)
  | raster (fault : RasterFault)
  | processing (fault : ProcessingFault)
  /-- An operation of the system that failed while a request was served, by the text of its fault. -/
  | inputOutput (fault : FaultText)
  | output (error : SystemError)
  /-- The way to the decoder's output could not be made. -/
  | tree (fault : FileTree.TreeFault)
  | arithmetic (fault : ArithmeticFault)
  | command (fault : CommandFault)
  | foreign (fault : FaultText)
deriving DecidableEq, Repr

namespace RunFault

def seconds (limit : Binary64) : Binary64 := if limit.isZero then 0 else limit

def kind? : RunFault → Option FailureKind
  | .nullByte => none
  | .notStarted _ _ => some .processStart
  | .timedOut _ _ _ => some .decodeTimeout
  | .waitFailed _ => none
  | .stillOpen _ _ _ | .unreadable _ _ | .overflow _ _ => some .streamIO

def message : RunFault → String
  | .nullByte => FaultText.nullByte.message
  | .notStarted tool error => tool ++ " could not be started: " ++ error.message
  | .timedOut tool _ limit => FailureKind.timeoutMessage tool (seconds limit)
  | .waitFailed error => error.message
  | .stillOpen stream tool joinTimeout =>
    stream ++ " still open " ++ joinTimeout.text ++ "s after " ++ tool ++ " exited"
  | .unreadable stream fault => "Error reading " ++ stream ++ ": " ++ fault.message
  | .overflow stream limit => stream ++ " exceeded its " ++ toString limit ++ " byte limit"

def cause? : RunFault → Option FaultText
  | .notStarted _ error => some error.shown
  | .timedOut _ command limit => some (HeaderFault.timeoutShown command (some limit))
  | .unreadable _ fault => some fault.shown
  | _ => none

def shown (fault : RunFault) : FaultText :=
  match fault with
  | .nullByte => .nullByte
  | .waitFailed error => error.shown
  | _ => .ofMessage ((fault.kind?.map FailureKind.name).getD "") fault.message

end RunFault

namespace Failure

def shown : Failure → FaultText
  | .unsupportedSource format =>
    .ofMessage FailureKind.unsupportedSource.name
      (FailureKind.unsupportedSourceMessage format.label)
  | .unsupportedOutput format =>
    .ofMessage FailureKind.unsupportedOutput.name
      (FailureKind.unsupportedOutputMessage format.label)
  | .header fault => fault.shown
  | .run fault => fault.shown
  | .tool failure => .ofMessage FailureKind.processFailed.name failure.message
  | .raster fault => fault.shown
  | .processing fault => fault.shown
  | .inputOutput fault => .ofMessage FailureKind.streamIO.name fault.message
  | .output error =>
    .ofMessage FailureKind.streamIO.name ("Error writing output: " ++ error.message)
  | .tree fault => fault.shown
  | .arithmetic fault => fault.shown
  | .command fault => fault.shown
  | .foreign fault => fault

def message (failure : Failure) : String := failure.shown.message

def cause? : Failure → Option FaultText
  | .header fault => fault.cause?
  | .run fault => fault.cause?
  | .raster fault => fault.cause?
  | .processing fault => fault.cause?
  | .inputOutput fault => some fault
  | .output error => some error.shown
  | _ => none

def kind? (failure : Failure) : Option FailureKind := FailureKind.ofName? failure.shown.kind

def isRequestFailure (failure : Failure) : Bool :=
  match failure.kind? with
  | some kind => kind.isRequestFailure
  | none => false

def systemFault? : Failure → Option FaultText
  | .tree (.system error) | .run (.waitFailed error) => some error.shown
  | .raster (.unconverted fault) => if fault.faultClass = .system then some fault.text else none
  | _ => none

def ofRequest (failure : Failure) : Failure :=
  match failure.systemFault? with
  | some fault => .inputOutput fault
  | none => failure

end Failure

end Jp2Render
