import Jp2Render.Configuration.Rules
import Jp2Render.Path
import Jp2Render.Text.Utf8
import Jp2Render.Toml.Document

/-!
The configuration: defaults, with the entries of a document laid over them. What comes of this has
to keep all rules.
-/

namespace Jp2Render

structure Configuration where
  table : Toml.Table
  accepted : Configuration.problems table = []

inductive ConfigurationFault where
  | undecodable (fault : Text.Utf8.Fault)
  | tooManyDigits (count : Nat)
  | malformed (path : String) (message : String)
  | rejected (problems : List Configuration.Problem)
deriving DecidableEq, Repr

namespace ConfigurationFault

def isReported : ConfigurationFault → Bool
  | .malformed _ _ | .rejected _ => true
  | .undecodable _ | .tooManyDigits _ => false

def shown : ConfigurationFault → FaultText
  | .undecodable fault => .ofMessage "UnicodeDecodeError" fault.message
  | .tooManyDigits count => .value (Text.IntegerFault.tooManyDigits count).message
  | .malformed path message =>
    .ofMessage FailureKind.configuration.name ("Invalid TOML in " ++ path ++ ": " ++ message)
  | .rejected problems =>
    .ofMessage FailureKind.configuration.name
      ("Invalid configuration: " ++
        String.intercalate "; " (problems.map Configuration.Problem.text))

def cause? : ConfigurationFault → Option FaultText
  | .malformed _ message => some (.ofMessage "TOMLDecodeError" message)
  | _ => none

end ConfigurationFault

namespace Configuration

open Toml

structure Environment where
  file : Option String := none
  directory : Option String := none
deriving DecidableEq, Repr

structure UnknownHome where
deriving DecidableEq, Repr

def UnknownHome.shown (_ : UnknownHome) : FaultText :=
  .ofMessage "RuntimeError" "Could not determine home directory."

def expanded (homes : Path.Homes) (text : String) : Except UnknownHome Path :=
  match Path.expandHome homes (.ofText text) with
  | some path => .ok path
  | none => .error {}

def defaultDirectory (homes : Path.Homes) : Path :=
  (Path.ofText homes.own).within (.ofText ".config/kduproc")

def given (setting : Option String) : Option String := setting.filter (!·.isEmpty)

def fileName : Path := .ofText "config.toml"

def path (homes : Path.Homes) (environment : Environment) : Except UnknownHome Path :=
  match given environment.file, given environment.directory with
  | some file, _ => expanded homes file
  | none, some directory => do return (← expanded homes directory).within fileName
  | none, none => .ok ((defaultDirectory homes).within fileName)

def defaults (directory : Path) : Table :=
  [(Area.decoding.name, .table
     [("path_to_binaries", .text ""),
      ("path_to_stdout_symlink", .text (directory.within (.ofText "stdout.ppm")).text),
      ("post_processor", .text BackendKind.raster.name),
      ("decode_timeout", .real (Binary64.ofInt 120)),
      ("max_output_mb", .integer 1024),
      ("tolerate_silent_exit", .truth true),
      ("max_reduction_factor", .integer 5)]),
   (Area.encoding.name, .table [("jpg_quality", .integer 80)]),
   (Area.logging.name, .table [("level", .text "INFO")])]

def overlayEntry (table : Table) (entry : String × Value) : Table :=
  match table.lookup entry.1, entry.2 with
  | some (.table below), .table above => table.put entry.1 (.table (Table.overlay below above))
  | _, value => table.put entry.1 value

def merged (defaults document : Table) : Table := document.foldl overlayEntry defaults

def ofTable (table : Table) : Except ConfigurationFault Configuration :=
  if accepted : problems table = [] then .ok ⟨table, accepted⟩
  else .error (.rejected (problems table))

def readDocument (path : Path) (bytes : Bytes) : Except ConfigurationFault Table :=
  match Text.Utf8.strict bytes with
  | .error fault => .error (.undecodable fault)
  | .ok text =>
    match Toml.ofText text with
    | .ok table => .ok table
    | .error (.malformed message) => .error (.malformed path.text message)
    | .error (.tooManyDigits count) => .error (.tooManyDigits count)

def load (defaults : Table) (path : Path) (document : Option Bytes) :
    Except ConfigurationFault Configuration := do
  let table ← match document with
    | none => .ok []
    | some bytes => readDocument path bytes
  ofTable (merged defaults table)

end Configuration

end Jp2Render
