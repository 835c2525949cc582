import Jp2Render.Bytes
import Jp2Render.SystemError

/-!
Reading a process's stream to its end. A stream is a sequence of reads; what they deliver goes into
a sink of limited capacity. Bytes past the capacity are read and thrown away, so that the process
never blocks on a full pipe, and the sink remembers that this happened.
-/

namespace Jp2Render

inductive ReadFault where
  | system (error : SystemError)
  | closed
deriving DecidableEq, Repr

namespace ReadFault

def kind : ReadFault → String
  | .system error => error.kind
  | .closed => "ValueError"

def message : ReadFault → String
  | .system error => error.message
  | .closed => "I/O operation on closed file."

def display : ReadFault → String
  | .system error => error.display
  | .closed => "ValueError('I/O operation on closed file.')"

end ReadFault

inductive Read where
  | chunk (bytes : Bytes)
  | fault (fault : ReadFault)
deriving DecidableEq, Repr

structure Sink where
  data : Bytes
  overflowed : Bool
deriving DecidableEq, Repr

namespace Sink

def empty : Sink := ⟨[], false⟩

def room (sink : Sink) (limit : Int) : Int := limit - sink.data.length

def take (sink : Sink) (limit : Int) (chunk : Bytes) : Sink :=
  { data := sink.data ++ chunk.take (sink.room limit).toNat
    overflowed := sink.overflowed || decide (sink.room limit < chunk.length) }

end Sink

/-- A stream that has been read: the sink, the fault that ended the reading if it was one, and the
reads that were not needed. -/
structure Drained where
  sink : Sink
  fault : Option ReadFault
  unread : List Read
deriving DecidableEq, Repr

namespace Drained

def onto (limit : Int) (sink : Sink) : List Read → Drained
  | [] => ⟨sink, none, []⟩
  | .fault fault :: rest => ⟨sink, some fault, rest⟩
  | .chunk [] :: rest => ⟨sink, none, rest⟩
  | .chunk (b :: bytes) :: rest => onto limit (sink.take limit (b :: bytes)) rest

def ofReads (limit : Int) (reads : List Read) : Drained := onto limit .empty reads

end Drained

end Jp2Render
