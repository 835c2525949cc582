import Jp2Render.Failure
import Jp2Render.FileTree

/-!
Decoding with the decoder tool. A plan says which part of the source is decoded and how far it is
reduced natively; the reduction is planned against the extent of the region, so that the decoder
never shrinks the raster below what the requested size needs. The decoder chooses its output format
by the name of its destination, so it writes to a link that leads to its standard output.
-/

namespace Jp2Render

/-- Where a tool's standard output can be reached as a file. -/
def stdoutDevice : String := "/dev/stdout"

structure Decoder where
  binDirectory : Option String := none
  destination : String := stdoutDevice
  timeout : Option Binary64 := none
  outputLimit : Int := 1024 * 1024 * 1024
  toleratesSilence : Bool := true
  reductionBound : Int := Reduction.limit

structure DecodePlan where
  region : Option String
  reduction : Nat
  command : List String
deriving DecidableEq, Repr

def Decoder.record (severity : Severity) (message : String) : Record :=
  ⟨severity, .decode, message⟩

namespace FileTree

/-- Creates a link to the standard output, in a directory that is made if it is missing. -/
def linkStdout (tree : FileTree) (link : Path) : Change :=
  let above := tree.makeDirectories link.parent
  if above.error.isSome then above else above.tree.makeLink stdoutDevice link

/-- Makes sure that a path stands for something: a link to the standard output if nothing else. -/
def ensureStdoutLink (tree : FileTree) (link : Path) : Change :=
  if (tree.entry? link).isSome then { tree } else tree.linkStdout link

def linkRecords (tree : FileTree) (link : Path) : Journal :=
  if (tree.entry? link).isSome || (tree.linkStdout link).error.isSome then []
  else [Decoder.record .info ("Created stdout symlink " ++ link.text ++ " -> " ++ stdoutDevice)]

end FileTree

namespace Decoder

def command (decoder : Decoder) (workingDirectory : Path) (source : Source)
    (region : Option String) (reduction : Int) : Except CommandFault (List String) := do
  let draft :=
    (CommandDraft.inDirectory decoder.binDirectory).withInput workingDirectory source.path
  let draft ← (draft.withRegion region).withReduction reduction
  (draft.withOutput decoder.destination).arguments

def reductionFor (decoder : Decoder) (request : Request) (full : Dimensions) :
    Except ArithmeticFault Nat :=
  match request.size.scaling with
  | .full => .ok 0
  | scaling => do scaling.reduction (← request.region.extent full) decoder.reductionBound

def plan (decoder : Decoder) (workingDirectory : Path) (request : Request) (full : Dimensions)
    (source : Source) : Except Failure DecodePlan := do
  let region ← (request.region.argument full).mapError .arithmetic
  let reduction ← (decoder.reductionFor request full).mapError .arithmetic
  let command ← (decoder.command workingDirectory source region reduction).mapError .command
  return { region, reduction, command }

def planRecord (plan : DecodePlan) : Record :=
  record .debug ("Decode plan: region=" ++ plan.region.getD "None" ++ " reduce=" ++
    Nat.repr plan.reduction)

def invocation (decoder : Decoder) (executable : String) (arguments : List String) : Invocation :=
  { executable, arguments
    toolName := some Tool.decoder
    timeout := decoder.timeout
    stdoutLimit := decoder.outputLimit }

def decodedRecord (source : Source) (raster : Raster) : Record :=
  record .info ("Decoded " ++ source.path.name ++ ": " ++ raster.dimensions.text ++ " (reduce " ++
    toString raster.reduction ++ ")")

def rasterOf (decoder : Decoder) (source : Source) (command : List String) (reduction : Int)
    (outcome : Outcome) (libraries : Libraries := .willing) : Except Failure Raster :=
  match outcome.failure? Tool.decoder decoder.toleratesSilence with
  | some failure => .error (.tool failure)
  | none => do
    let raster ← (Raster.ofBytes outcome.stdout reduction libraries).mapError .raster
    return { raster with origin := some { source := source.path, command } }

end Decoder

end Jp2Render
