import Jp2Render.Failure.Kind
import Jp2Render.FaultText
import Jp2Render.Journal
import Jp2Render.Process.Behaviour
import Jp2Render.Text.Numeral
import Jp2Render.Xml.Document

/-!
The full size of a source, as the header tool states it. The tool prints a document; the first width
and the first height inside a code stream count, rounded to integers. A width without a height, or
a number that is none, makes the header malformed.
-/

namespace Jp2Render

inductive HeaderTextFault where
  | refused (refusal : Xml.Refusal Xml.Place)
  | notANumber (side text : String)
  | missing (side : String)
  | notAnInteger (fault : ArithmeticFault)
deriving DecidableEq, Repr

namespace HeaderTextFault

def isMalformed : HeaderTextFault → Bool
  | .refused (.encoding _) => false
  | .notAnInteger _ => false
  | _ => true

def message : HeaderTextFault → String
  | .refused (.encoding fault) => fault.message
  | .refused refusal => "Failed to parse kdu_jp2info output: " ++ refusal.message
  | .notANumber side text => "codestream " ++ side ++ " is not a number: " ++ Text.quoted text
  | .missing side => "kdu_jp2info output has no codestream " ++ side
  | .notAnInteger fault => fault.message

def kind : HeaderTextFault → String
  | .refused (.encoding fault) => fault.kind
  | .notAnInteger fault => fault.kind
  | _ => FailureKind.malformedHeader.name

def shown (fault : HeaderTextFault) : FaultText := .ofMessage fault.kind fault.message

def cause? : HeaderTextFault → Option FaultText
  | .refused (.encoding _) => none
  | .refused (.entityDeclared name systemId publicId) =>
    let message := (Xml.Refusal.entityDeclared name systemId publicId).message
    some ⟨"EntitiesForbidden", message, message⟩
  | .refused refusal =>
    some ⟨"ParseError", refusal.message, "ParseError(" ++ Text.quoted refusal.message ++ ")"⟩
  | .notANumber _ text => some (.value (Text.RealFault.mk text).message)
  | _ => none

end HeaderTextFault

namespace Header

/-- The first number of the given name inside a code stream; a code stream without one is passed
over. -/
def firstNumber (side : String) : List Xml.Element → Except HeaderTextFault (Option Binary64)
  | [] => .ok none
  | codestream :: others =>
    match codestream.first? side with
    | none => firstNumber side others
    | some element =>
      let text := Text.trim element.text
      match Text.readReal text with
      | .ok number => .ok (some number)
      | .error _ => .error (.notANumber side text)

def nearest (x : Binary64) : Except HeaderTextFault Int :=
  (Arithmetic.nearest x).mapError .notAnInteger

def size (root : Xml.Element) : Except HeaderTextFault Dimensions := do
  let codestreams := root.all.filter (·.isNamed "codestream")
  let width ← firstNumber "width" codestreams
  let height ← firstNumber "height" codestreams
  match width, height with
  | none, _ => throw (.missing "width")
  | some _, none => throw (.missing "height")
  | some width, some height => return ⟨← nearest width, ← nearest height⟩

def sizeOfBytes (bytes : Bytes) : Except HeaderTextFault Dimensions := do
  size (← (Xml.readBytes true bytes).mapError .refused)

def sizeOfText (text : String) : Except HeaderTextFault Dimensions := do
  size (← (Xml.readText text).mapError .refused)

end Header

inductive OutputEnding where
  | ends
  | fails (error : SystemError)
  /-- Nothing more comes within the time that the tool is given. -/
  | hangs
deriving DecidableEq, Repr

/-- How the header tool behaves. Its two streams come as one, which is read until its end or until the
tool's time is over. -/
structure HeaderToolBehaviour where
  starting : Option ErrorCode := none
  waiting : Waiting := .ends
  exitCode : Int := 0
  output : Bytes := []
  ending : OutputEnding := .ends
  closing : Option SystemError := none
deriving DecidableEq, Repr

/-- How a tool that waits for a size can be asked: where it is, and how long it may take. -/
structure Probe where
  binDirectory : Option String := none
  timeout : Option Binary64 := some 30

/-- Why no size can be had from the tool. -/
inductive HeaderFault where
  | nullByte
  | timedOut (command : List String) (timeout : Option Binary64)
  | notStarted (error : SystemError)
  | silent (exitCode : Int)
  | text (fault : HeaderTextFault) (command : List String)
deriving DecidableEq, Repr

def secondsText : Option Binary64 → String
  | some limit => limit.text
  | none => "None"

namespace HeaderFault

def message : HeaderFault → String
  | .nullByte => FaultText.nullByte.message
  | .timedOut _ timeout => "kdu_jp2info timed out after " ++ secondsText timeout ++ "s"
  | .notStarted error => "kdu_jp2info could not be started: " ++ error.message
  | .silent exitCode =>
    "kdu_jp2info produced no output (exit code " ++ toString exitCode ++ ")"
  | .text fault command =>
    if fault.isMalformed then
      fault.message ++ ". Command: " ++ String.intercalate " " command
    else fault.message

def kind : HeaderFault → String
  | .nullByte => FaultText.nullByte.kind
  | .text fault _ => fault.kind
  | _ => FailureKind.headerTool.name

def shown (fault : HeaderFault) : FaultText := .ofMessage fault.kind fault.message

def commandText (command : List String) : String :=
  "[" ++ String.intercalate ", " (command.map Text.quoted) ++ "]"

def timeoutShown (command : List String) (timeout : Option Binary64) : FaultText :=
  let limit := secondsText timeout
  { kind := "TimeoutExpired"
    message := "Command '" ++ commandText command ++ "' timed out after " ++ limit ++ " seconds"
    display := "TimeoutExpired(" ++ commandText command ++ ", " ++ limit ++ ")" }

def cause? : HeaderFault → Option FaultText
  | .nullByte => none
  | .timedOut command timeout => some (timeoutShown command timeout)
  | .notStarted error => some error.shown
  | .silent _ => none
  | .text fault _ => if fault.isMalformed then some fault.shown else none

end HeaderFault

/-- What asking for a size leaves: the size, the records, and the command that was started. -/
structure ProbeReport where
  result : Except HeaderFault Dimensions
  journal : Journal
  command : List String

namespace Probe

def record (severity : Severity) (message : String) : Record := ⟨severity, .header, message⟩

/-- What a tool answers that has been started: its exit code and its output. The output is closed
whatever happened before, so an error in closing it hides any other. -/
def await (probe : Probe) (command : List String) (tool : HeaderToolBehaviour) :
    Except HeaderFault (Int × Bytes) :=
  match tool.closing, tool.ending, tool.waiting with
  | some error, _, _ => .error (.notStarted error)
  | none, .fails error, _ => .error (.notStarted error)
  | none, .hangs, _ => .error (.timedOut command probe.timeout)
  | none, .ends, .overruns => .error (.timedOut command probe.timeout)
  | none, .ends, .fails error => .error (.notStarted error)
  | none, .ends, .ends => .ok (tool.exitCode, tool.output)

def run (probe : Probe) (command : List String) (tool : HeaderToolBehaviour) :
    Except HeaderFault (Int × Bytes) :=
  if command.any Text.holdsNull then .error .nullByte
  else
    match tool.starting with
    | some code => .error (.notStarted { code, file := command.head? })
    | none => probe.await command tool

def runRecords (source : Source) : Except HeaderFault (Int × Bytes) → Journal
  | .error .nullByte => []
  | .error (.timedOut _ _) => [record .error ("kdu_jp2info timed out for " ++ source.path.name)]
  | .error fault => [record .error fault.message]
  | .ok (exitCode, _) =>
    if exitCode = 0 then []
    else [record .warning ("kdu_jp2info returned with code " ++ toString exitCode)]

def read (command : List String) (exitCode : Int) (output : Bytes) :
    Except HeaderFault Dimensions :=
  if output.isEmpty then .error (.silent exitCode)
  else (Header.sizeOfBytes output).mapError (.text · command)

def sizeRecords (source : Source) : Except HeaderFault Dimensions → Journal
  | .ok size => [record .debug (source.path.name ++ " is " ++ size.text)]
  | .error _ => []

def ask (probe : Probe) (workingDirectory : Path) (source : Source) (tool : HeaderToolBehaviour) :
    ProbeReport :=
  let command := headerCommand probe.binDirectory workingDirectory source.path
  let answered := run probe command tool
  let result := do
    let (exitCode, output) ← answered
    read command exitCode output
  { result
    journal := record .debug ("Running kdu_jp2info: " ++ String.intercalate " " command) ::
      (runRecords source answered ++ sizeRecords source result)
    command }

end Probe

end Jp2Render
