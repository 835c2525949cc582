import Jp2Render.Configuration.Settings
import Jp2Render.Logging.Hierarchy

/-!
The state of logging: the level of the package, which its loggers and the handler they share have,
and what is written for a record that a logger is given.
-/

namespace Jp2Render.Logging

def levelName (level : Int) : String :=
  match Severity.all.find? (·.rank = level) with
  | some severity => severity.name
  | none => if level = 0 then "NOTSET" else "Level " ++ toString level

/-- The level that a configuration asks for, in any case; where it names none, or where there is no
configuration to speak of, that of plain information. A document that cannot be read at all is
nobody's to handle. -/
def configuredLevel (loaded : Except ConfigurationFault Configuration) :
    Except ConfigurationFault Severity :=
  match loaded with
  | .ok configuration =>
    .ok ((Severity.ofName? (Text.upper configuration.loggingLevel)).getD .info)
  | .error fault => if fault.isReported then .ok .info else .error fault

def colour (level : Int) : String :=
  match Severity.all.find? (·.rank = level) with
  | some .debug => "\x1b[36m"
  | some .info => "\x1b[37m"
  | some .warning => "\x1b[33m"
  | some .error => "\x1b[31m"
  | some .critical => "\x1b[31m\x1b[1m"
  | none => ""

def plain : String := "\x1b[0m"

def line (name : String) (level : Int) (message : String) : String :=
  let text := colour level ++ "[" ++ String.ofList ((levelName level).toList.take 1) ++ "] " ++
    name ++ ": " ++ message
  (if text.endsWith plain then text else text ++ plain) ++ "\n"

def shownName (name : String) : String := if Hierarchy.isRoot name then rootName else name

structure State where
  level : Int
  handlerLevel : Option Int := none
  hierarchy : Hierarchy := { root := { level := Severity.warning.rank } }
deriving DecidableEq, Repr

namespace State

def initial (severity : Severity) : State := { level := severity.rank }

def withShared (logger : Logger) : Logger :=
  if .shared ∈ logger.handlers then logger
  else { logger with handlers := logger.handlers ++ [.shared] }

def getLogger (state : State) (name : String) : State :=
  { state with
    handlerLevel := some (state.handlerLevel.getD state.level)
    hierarchy := (state.hierarchy.ensure name).modify name fun logger =>
      withShared { logger with level := state.level } }

def isPackageName (name : String) : Bool := name = "kduproc" || name.startsWith "kduproc."

def setLoggerLevel (level : Int) (hierarchy : Hierarchy) (name : String) : Hierarchy :=
  (hierarchy.ensure name).modify name fun logger => { logger with level }

def setLevel (state : State) (debugging : Bool) : State :=
  let level := if debugging then Severity.debug.rank else Severity.info.rank
  { level
    handlerLevel := state.handlerLevel.map fun _ => level
    hierarchy := (state.hierarchy.names.filter isPackageName).foldl (setLoggerLevel level)
      state.hierarchy }

def levelOf (state : State) : Handler → Int
  | .shared => state.handlerLevel.getD 0
  | .rootOnly => 0

def isEnabled (state : State) (name : String) (level : Int) : Bool :=
  0 < level && state.hierarchy.effectiveLevel name ≤ level

/-- What is written for a record. Where no handler sees the records of a logger, the bare message is
written from warnings on. -/
def written (state : State) (name : String) (level : Int) (message : String) : String :=
  if !state.isEnabled name level then ""
  else
    match state.hierarchy.handlers name with
    | [] => if Severity.warning.rank ≤ level then message ++ "\n" else ""
    | handlers =>
      String.join (handlers.map fun handler =>
        if state.levelOf handler ≤ level then line (shownName name) level message else "")

def emit (state : State) (name : String) (level : Int) (message : String) : State × String :=
  let state := { state with hierarchy := state.hierarchy.ensure name }
  (state, state.written name level message)

/-- Sets the level of the root, which gets a single handler of its own and says so. -/
def setGlobalLevel (state : State) (level : Int) : State × String :=
  let root : Logger := { state.hierarchy.root with level, handlers := [.rootOnly] }
  let state := { state with hierarchy := { state.hierarchy with root } }
  state.emit rootName Severity.info.rank ("Log level set to " ++ levelName level)

end State

end Jp2Render.Logging
