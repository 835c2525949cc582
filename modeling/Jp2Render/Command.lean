import Jp2Render.Path
import Jp2Render.Reduction
import Jp2Render.Request

/-!
The commands of the two tools. The header tool prints what a source's header says; the decoder
writes the decoded image to a destination. The decoder's command is drafted piece by piece, in any
order, and its arguments come out in a fixed order.
-/

namespace Jp2Render

namespace Tool

def header : String := "kdu_jp2info"
def decoder : String := "kdu_expand"

/-- A tool in a directory, without doubled slashes; with no directory the bare name is looked up by
the system. -/
def inDirectory (name : String) (directory : Option String) : String :=
  match directory with
  | none => name
  | some directory =>
    if directory.isEmpty then name
    else String.ofList (directory.toList.reverse.dropWhile (· = '/')).reverse ++ "/" ++ name

end Tool

def quotedPath (path : String) : String :=
  if ' ' ∈ path.toList then "\"" ++ path ++ "\"" else path

def headerCommand (binDirectory : Option String) (workingDirectory source : Path) : List String :=
  [Tool.inDirectory Tool.header binDirectory, "-i", (workingDirectory.within source).text]

/-- Why a draft is no command, or cannot be changed as asked. -/
inductive CommandFault where
  | reductionOutOfRange (reduction : Int)
  | noInput
  | noOutput
deriving DecidableEq, Repr

def CommandFault.message : CommandFault → String
  | .reductionOutOfRange reduction =>
    "Reduction factor must be between 0 and 5, got " ++ toString reduction
  | .noInput => "Input path must be set"
  | .noOutput => "Output destination must be set"

structure CommandDraft where
  binary : String
  input : Option Path := none
  region : Option String := none
  reduction : Nat := 0
  output : Option String := none
deriving DecidableEq, Repr

namespace CommandDraft

def inDirectory (binDirectory : Option String) : CommandDraft :=
  { binary := Tool.inDirectory Tool.decoder binDirectory }

def withInput (draft : CommandDraft) (workingDirectory source : Path) : CommandDraft :=
  { draft with input := some (workingDirectory.within source) }

def withRegion (draft : CommandDraft) (region : Option String) : CommandDraft :=
  { draft with region }

def withReduction (draft : CommandDraft) (reduction : Int) : Except CommandFault CommandDraft :=
  if 0 ≤ reduction ∧ reduction ≤ Reduction.limit then
    .ok { draft with reduction := reduction.toNat }
  else .error (.reductionOutOfRange reduction)

def withOutput (draft : CommandDraft) (destination : String) : CommandDraft :=
  { draft with output := some destination }

def destination? (draft : CommandDraft) : Option String :=
  draft.output.filter fun destination => !destination.isEmpty

def regionArguments : Option String → List String
  | some region => ["-region", region]
  | none => []

def reductionArguments (reduction : Nat) : List String :=
  if 0 < reduction then ["-reduce", Nat.repr reduction] else []

def arguments (draft : CommandDraft) : Except CommandFault (List String) :=
  match draft.input, draft.destination? with
  | none, _ => .error .noInput
  | some _, none => .error .noOutput
  | some input, some destination =>
    .ok ([draft.binary, "-quiet", "-no_alpha", "-i", input.text] ++ regionArguments draft.region ++
      reductionArguments draft.reduction ++ ["-o", quotedPath destination])

end CommandDraft

end Jp2Render
