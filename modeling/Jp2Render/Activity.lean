import Jp2Render.Decoder

/-!
What happens while requests are served: records are written, tools are run, and the tree of files
may gain a link. Steps of serving run in a monad that keeps all of this, whether they succeed or
fail.
-/

namespace Jp2Render

inductive WriteFault where
  | system (error : SystemError)
  | foreign (fault : FaultText)
deriving DecidableEq, Repr

def WriteFault.failure : WriteFault → Failure
  | .system error => .output error
  | .foreign fault => .foreign fault

structure OutputStream where
  refusal? : EncodedPicture → Option WriteFault

/-- What a service meets: the directory it works in, how the two tools behave, and what the libraries
do for it. -/
structure Surroundings where
  workingDirectory : Path
  headerTool : HeaderToolBehaviour
  decoderTool : ToolBehaviour
  libraries : Libraries := .willing

structure Activity where
  tree : FileTree
  journal : Journal := []
  calls : List (List String) := []
  /-- The ends of the processes that had both of their streams read. -/
  processes : List ProcessEnd := []
  writes : List EncodedPicture := []

abbrev Serving (α : Type) := ExceptT Failure (StateM Activity) α

namespace Serving

def note (journal : Journal) : Serving Unit :=
  modify fun activity => { activity with journal := activity.journal ++ journal }

def settle {ε α : Type} (fail : ε → Failure) : Except ε α → Serving α
  | .ok value => pure value
  | .error fault => throw (fail fault)

def askSize (surroundings : Surroundings) (probe : Probe) (source : Source) :
    Serving Dimensions := do
  let report := probe.ask surroundings.workingDirectory source surroundings.headerTool
  modify fun activity => { activity with calls := activity.calls ++ [report.command] }
  note report.journal
  settle .header report.result

def runDecoder (surroundings : Surroundings) (decoder : Decoder) (command : List String) :
    Serving Outcome := do
  let report := RunReport.ofInvocation
    (decoder.invocation (command.headD "") command.tail) surroundings.decoderTool
  modify fun activity =>
    { activity with
      calls := activity.calls ++ [command]
      processes := activity.processes ++ report.process.toList }
  note report.journal
  settle .run report.result

def write (stream : OutputStream) (picture : EncodedPicture) : Serving Unit := do
  modify fun activity => { activity with writes := activity.writes ++ [picture] }
  match stream.refusal? picture with
  | some fault => throw fault.failure
  | none => return ()

def ensureDestination (decoder : Decoder) : Serving Unit := do
  if decoder.destination ≠ stdoutDevice then
    let link := Path.ofText decoder.destination
    let tree := (← get).tree
    let change := tree.ensureStdoutLink link
    modify fun activity => { activity with tree := change.tree }
    note (tree.linkRecords link)
    match change.error with
    | some fault => throw (.tree fault)
    | none => return ()

def planDecoding (surroundings : Surroundings) (decoder : Decoder) (request : Request)
    (full : Dimensions) (source : Source) : Serving DecodePlan := do
  let plan ← settle id (decoder.plan surroundings.workingDirectory request full source)
  note [Decoder.planRecord plan]
  return plan

def decode (surroundings : Surroundings) (decoder : Decoder) (source : Source)
    (region : Option String) (reduction : Int) : Serving Raster := do
  if source.format.outputs.isEmpty then throw (.unsupportedSource source.format)
  ensureDestination decoder
  let command ← settle .command
    (decoder.command surroundings.workingDirectory source region reduction)
  let outcome ← runDecoder surroundings decoder command
  note (outcome.checkRecords Tool.decoder decoder.toleratesSilence)
  let raster ← settle id
    (decoder.rasterOf source command reduction outcome surroundings.libraries)
  note [Decoder.decodedRecord source raster]
  return raster

end Serving

end Jp2Render
