import Jp2Render.Process.Stream

/-!
How a tool behaves when it is run: whether it starts, how its end is awaited, and what its streams
deliver. A run of a tool is a function of this behaviour.
-/

namespace Jp2Render

inductive StreamEnding where
  | ends
  | fails (fault : ReadFault)
  | hangs
deriving DecidableEq, Repr

/-- One of a tool's streams: its bytes, how they are cut into reads, and how it goes on after them.
Closing it may fail once. -/
structure StreamBehaviour where
  bytes : Bytes := []
  ending : StreamEnding := .ends
  closing : Option SystemError := none
  /-- How many bytes the first reads deliver; the read after them delivers all that is left. -/
  cuts : List Nat := []
deriving DecidableEq, Repr

namespace StreamBehaviour

def chunks (stream : StreamBehaviour) : List Read := (stream.bytes.cutAt stream.cuts).map .chunk

def reads (stream : StreamBehaviour) : List Read :=
  match stream.ending with
  | .fails fault => stream.chunks ++ [.fault fault]
  | _ => stream.chunks

def hangs (stream : StreamBehaviour) : Bool := stream.ending = .hangs

end StreamBehaviour

inductive Waiting where
  | ends
  | overruns
  | fails (error : SystemError)
deriving DecidableEq, Repr

/-- A tool whose two output streams are read one beside the other. -/
structure ToolBehaviour where
  starting : Option ErrorCode := none
  waiting : Waiting := .ends
  exitCode : Int := 0
  stdout : StreamBehaviour := {}
  stderr : StreamBehaviour := {}
deriving DecidableEq, Repr

end Jp2Render
