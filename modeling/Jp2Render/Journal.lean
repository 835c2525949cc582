/-!
Records of what happens while a request is served. Each record has a severity, the name of the part
that writes it, and a message.
-/

namespace Jp2Render

inductive Severity where
  | debug
  | info
  | warning
  | error
  | critical
deriving DecidableEq, Repr

namespace Severity

def name : Severity → String
  | .debug => "DEBUG"
  | .info => "INFO"
  | .warning => "WARNING"
  | .error => "ERROR"
  | .critical => "CRITICAL"

def rank : Severity → Int
  | .debug => 10
  | .info => 20
  | .warning => 30
  | .error => 40
  | .critical => 50

def all : List Severity := [.debug, .info, .warning, .error, .critical]

def ofName? (name : String) : Option Severity := all.find? (·.name = name)

end Severity

inductive Channel where
  | commandLine
  | processor
  | header
  | process
  | decode
  | encode
  | graph
  | backend
  | backends
  | memory
deriving DecidableEq, Repr

def Channel.name : Channel → String
  | .commandLine => "kduproc.cli"
  | .processor => "kduproc.processor"
  | .header => "kduproc.pipeline.probe"
  | .process => "kduproc.pipeline.run_process"
  | .decode => "kduproc.pipeline.decode"
  | .encode => "kduproc.pipeline.encode"
  | .graph => "kduproc.pipeline.graph_processor"
  | .backend => "kduproc.pipeline.image_processing_interfaces"
  | .backends => "kduproc.pipeline.post_processing"
  | .memory => "kduproc.utils.memory_manager"

structure Record where
  severity : Severity
  channel : Channel
  message : String
deriving DecidableEq, Repr

abbrev Journal := List Record

namespace Journal

def atLeast (threshold : Severity) (journal : Journal) : Journal :=
  journal.filter fun record => threshold.rank ≤ record.severity.rank

end Journal

end Jp2Render
