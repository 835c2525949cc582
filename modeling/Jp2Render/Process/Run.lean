import Jp2Render.Binary64.Decimal
import Jp2Render.Journal
import Jp2Render.Path
import Jp2Render.Process.Behaviour

/-!
One run of a tool with both of its output streams read to the end. The result is the exit code and
all bytes of both streams, or the first of the things that can go wrong: the tool does not start, it
overruns its time, waiting for it fails, a stream stays open after it, a stream cannot be read, or a
stream delivers more than its sink holds. However the run goes, the process is gone afterwards and
every stream is closed that nobody still reads from.
-/

namespace Jp2Render

structure Invocation where
  executable : String
  arguments : List String
  /-- The name of the tool in records and errors; by default the executable's. -/
  toolName : Option String := none
  timeout : Option Binary64 := none
  stdoutLimit : Int := 1024 * 1024 * 1024
  stderrLimit : Int := 1024 * 1024
  /-- Seconds to wait for a stream once the process is gone. -/
  joinTimeout : Binary64 := 5

namespace Invocation

def tool (inv : Invocation) : String :=
  match inv.toolName with
  | some name => if name.isEmpty then (Path.ofText inv.executable).name else name
  | none => (Path.ofText inv.executable).name

def command (inv : Invocation) : List String := inv.executable :: inv.arguments

def commandLine (inv : Invocation) : String := String.intercalate " " inv.command

def stdoutName (inv : Invocation) : String := inv.tool ++ "-stdout"
def stderrName (inv : Invocation) : String := inv.tool ++ "-stderr"

end Invocation

structure Outcome where
  exitCode : Int
  stdout : Bytes
  stderr : Bytes
deriving DecidableEq, Repr

inductive RunFault where
  | nullByte
  | notStarted (tool : String) (error : SystemError)
  | timedOut (tool : String) (command : List String) (limit : Binary64)
  | waitFailed (error : SystemError)
  | stillOpen (stream : String) (tool : String) (joinTimeout : Binary64)
  | unreadable (stream : String) (fault : ReadFault)
  | overflow (stream : String) (limit : Int)
deriving DecidableEq, Repr

inductive Pipe where
  | stdin
  | stdout
  | stderr
deriving DecidableEq, Repr

structure ProcessEnd where
  exitCode : Option Int := none
  kills : Nat := 0
  stdinClosed : Bool := false
  stdoutClosed : Bool := false
  stderrClosed : Bool := false
deriving DecidableEq, Repr

namespace ProcessEnd

def running (process : ProcessEnd) : Bool := process.exitCode.isNone

def killed (process : ProcessEnd) : Bool := decide (0 < process.kills)

def killedCode : Int := -9

def kill (process : ProcessEnd) : ProcessEnd :=
  { process with
    exitCode := some (process.exitCode.getD killedCode)
    kills := process.kills + 1 }

def isClosed (process : ProcessEnd) : Pipe → Bool
  | .stdin => process.stdinClosed
  | .stdout => process.stdoutClosed
  | .stderr => process.stderrClosed

def close (process : ProcessEnd) : Pipe → ProcessEnd
  | .stdin => { process with stdinClosed := true }
  | .stdout => { process with stdoutClosed := true }
  | .stderr => { process with stderrClosed := true }

end ProcessEnd

def ToolBehaviour.closing (behaviour : ToolBehaviour) : Pipe → Option SystemError
  | .stdin => none
  | .stdout => behaviour.stdout.closing
  | .stderr => behaviour.stderr.closing

/-- What empties one of the two output streams into a sink. -/
structure Reader where
  pipe : Pipe
  name : String
  limit : Int
  stream : StreamBehaviour

namespace Reader

def ofStdout (inv : Invocation) (behaviour : ToolBehaviour) : Reader :=
  ⟨.stdout, inv.stdoutName, inv.stdoutLimit, behaviour.stdout⟩

def ofStderr (inv : Invocation) (behaviour : ToolBehaviour) : Reader :=
  ⟨.stderr, inv.stderrName, inv.stderrLimit, behaviour.stderr⟩

def both (inv : Invocation) (behaviour : ToolBehaviour) : List Reader :=
  [ofStdout inv behaviour, ofStderr inv behaviour]

def isBusy (reader : Reader) : Bool := reader.stream.hangs

/-- Everything that the stream delivered, if it was read to its end and kept whole. -/
def contents (reader : Reader) : Except RunFault Bytes :=
  let drained := Drained.ofReads reader.limit reader.stream.reads
  match drained.fault with
  | some fault => .error (.unreadable reader.name fault)
  | none =>
    if drained.sink.overflowed then .error (.overflow reader.name reader.limit)
    else .ok drained.sink.data

end Reader

structure RunState where
  process : ProcessEnd := {}
  journal : Journal := []

/-- Everything that a run leaves: its result, its records, and the process it had if it started. -/
structure RunReport where
  result : Except RunFault Outcome
  journal : Journal
  process : Option ProcessEnd

def RunReport.record (severity : Severity) (message : String) : Record :=
  ⟨severity, .process, message⟩

inductive Waited where
  | exit (code : Int)
  | overrun (limit : Binary64)
  | failure (error : SystemError)
deriving DecidableEq, Repr

namespace RunState

open RunReport (record)

def note (state : RunState) (journal : Journal) : RunState :=
  { state with journal := state.journal ++ journal }

def act (state : RunState) (change : ProcessEnd → ProcessEnd) : RunState :=
  { state with process := change state.process }

/-- Waits for the end of the process, within a limit if there is one. A known end is not waited
for, and only a wait with a limit can run out of its time. -/
def wait (state : RunState) (behaviour : ToolBehaviour) (limit : Option Binary64) :
    Waited × RunState :=
  match state.process.exitCode, behaviour.waiting, limit with
  | some code, _, _ => (.exit code, state)
  | none, .fails error, _ => (.failure error, state)
  | none, .overruns, some limit => (.overrun limit, state)
  | none, _, _ =>
    (.exit behaviour.exitCode,
      state.act fun process => { process with exitCode := some behaviour.exitCode })

def killAndWait (state : RunState) (behaviour : ToolBehaviour) : RunState :=
  ((state.act .kill).wait behaviour none).2

def processNumber : String := "12345"

def killIfRunning (state : RunState) (behaviour : ToolBehaviour) : RunState :=
  if state.process.running then
    (state.note [record .warning ("Killing process " ++ processNumber)]).killAndWait behaviour
  else state

def close (state : RunState) (behaviour : ToolBehaviour) (pipe : Pipe) : RunState :=
  let closed := state.act (·.close pipe)
  match state.process.isClosed pipe, behaviour.closing pipe with
  | false, some error =>
    closed.note [record .debug ("Error closing process stream: " ++ error.message)]
  | _, _ => closed

def closeAll (behaviour : ToolBehaviour) (busy : List Reader) : List Pipe → RunState → RunState
  | [], state => state
  | pipe :: pipes, state =>
    closeAll behaviour busy pipes
      (if pipe ∈ busy.map Reader.pipe then state else state.close behaviour pipe)

/-- Makes sure that the process is gone, and closes whatever nobody reads from any more. -/
def release (state : RunState) (inv : Invocation) (behaviour : ToolBehaviour) : RunState :=
  let busy := (Reader.both inv behaviour).filter Reader.isBusy
  closeAll behaviour busy [.stdin, .stdout, .stderr]
    ((state.killIfRunning behaviour).note (busy.map fun reader =>
      record .warning ("Drain thread " ++ reader.name ++ " still running after process exit")))

def awaitExit (state : RunState) (inv : Invocation) (behaviour : ToolBehaviour) :
    Except RunFault Int × RunState :=
  match state.wait behaviour inv.timeout with
  | (.exit code, state) => (.ok code, state)
  | (.failure error, state) => (.error (.waitFailed error), state)
  | (.overrun limit, state) =>
    (.error (.timedOut inv.tool (inv.executable :: inv.arguments) limit),
      (state.note [record .error
        (inv.tool ++ " timed out after " ++ limit.text ++ "s, killing it")]).killAndWait behaviour)

def join (inv : Invocation) : List Reader → RunState → Except RunFault Unit × RunState
  | [], state => (.ok (), state)
  | reader :: readers, state =>
    if reader.isBusy then
      (.error (.stillOpen reader.name inv.tool inv.joinTimeout),
        state.note [record .error
          (reader.name ++ " stayed open after " ++ inv.tool ++ " exited")])
    else join inv readers state

def attend (state : RunState) (inv : Invocation) (behaviour : ToolBehaviour) :
    Except RunFault Int × RunState :=
  match state.awaitExit inv behaviour with
  | (.error fault, state) => (.error fault, state)
  | (.ok exitCode, state) =>
    let (joined, state) := join inv (Reader.both inv behaviour) state
    (joined.map fun _ => exitCode, state)

/-- What both streams delivered, unless one of them was not kept whole. -/
def collect (inv : Invocation) (behaviour : ToolBehaviour) (exitCode : Int) :
    Except RunFault Outcome := do
  let stdout ← (Reader.ofStdout inv behaviour).contents
  let stderr ← (Reader.ofStderr inv behaviour).contents
  return { exitCode, stdout, stderr }

def finishedRecords (inv : Invocation) : Except RunFault Outcome → Journal
  | .ok outcome =>
    [record .debug (inv.tool ++ " exited with code " ++ toString outcome.exitCode ++ " (" ++
      Nat.repr outcome.stdout.length ++ " bytes stdout, " ++ Nat.repr outcome.stderr.length ++
      " bytes stderr)")]
  | .error _ => []

/-- A started process from its start to its end. The tools take no input, and the process is
released however attending to it went. -/
def supervise (state : RunState) (inv : Invocation) (behaviour : ToolBehaviour) :
    Except RunFault Outcome × RunState :=
  let (attended, state) := (state.close behaviour .stdin).attend inv behaviour
  let result := attended.bind (collect inv behaviour)
  (result, (state.release inv behaviour).note (finishedRecords inv result))

end RunState

namespace RunReport

def ofStarted (inv : Invocation) (behaviour : ToolBehaviour) : RunReport :=
  let (result, state) := RunState.supervise {} inv behaviour
  { result, journal := state.journal, process := some state.process }

def ofNotStarted (inv : Invocation) (error : SystemError) : RunReport :=
  { result := .error (.notStarted inv.tool error)
    journal := [record .error (inv.tool ++ " could not be started: " ++ error.message)]
    process := none }

/-- A command that holds a null is refused before anything is started. -/
def ofUnusable : RunReport := { result := .error .nullByte, journal := [], process := none }

def ofInvocation (inv : Invocation) (behaviour : ToolBehaviour) : RunReport :=
  let report :=
    if inv.command.any Text.holdsNull then ofUnusable
    else match behaviour.starting with
      | some code => ofNotStarted inv { code, file := some inv.executable }
      | none => ofStarted inv behaviour
  { report with
    journal := record .info ("Running " ++ inv.tool ++ ": " ++ inv.commandLine) :: report.journal }

end RunReport

end Jp2Render
