import Jp2Render.CommandLine.Run
import Jp2Render.Logging.Basic

/-!
The program. Nothing here starts other programs: both tools behave as on a machine that does not
have them, so a request ends where the first of them would be run.
-/

namespace Jp2Render.Program

def readDocument (path : Path) : IO (Option Bytes) := do
  try
    return some (← IO.FS.readBinFile path.text).toList
  catch _ => return none

def setting (homes : Path.Homes) (path : Path) (document : Option Bytes) (working : Path) :
    CommandLine.Setting :=
  { homes
    configuration := Configuration.load
      (Configuration.defaults (Configuration.defaultDirectory homes)) path document
    surroundings :=
      { workingDirectory := working
        headerTool := { starting := some .noEntry }
        decoderTool := { starting := some .noEntry } } }

def reportLines (report : CommandLine.RunReport) : List String :=
  (report.activity.journal.atLeast report.threshold).map fun record =>
    Logging.line record.channel.name record.severity.rank record.message

def outcome (report : CommandLine.RunReport) : String × UInt32 :=
  let logged := String.join (reportLines report)
  match report.ending with
  | .usage text code => (text, UInt32.ofNat code.toNat)
  | .exit code => (logged, UInt32.ofNat code.toNat)
  | .fault fault => (logged ++ fault.kind ++ ": " ++ fault.message ++ "\n", 1)

def run (arguments : List String) : IO UInt32 := do
  let homes : Path.Homes := { own := (← IO.getEnv "HOME").getD "/", ofUser := fun _ => none }
  let environment : Configuration.Environment :=
    { file := ← IO.getEnv "KDUPROC_CONFIG_FILE", directory := ← IO.getEnv "KDUPROC_CONFIG_DIR" }
  let path := (Configuration.path homes environment).toOption.getD Configuration.fileName
  let document ← readDocument path
  let working := Path.ofText (← IO.currentDir).toString
  let report := CommandLine.run (setting homes path document working)
    (.ofWorking working.names) arguments
  let (text, code) := outcome report
  IO.eprint text
  return code

end Jp2Render.Program

def main (arguments : List String) : IO UInt32 := Jp2Render.Program.run arguments
