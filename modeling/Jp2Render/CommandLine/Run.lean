import Jp2Render.CommandLine.Parse
import Jp2Render.Configuration.Settings

/-!
The whole program: a command line is read, the service is set up as the configuration says, and the
picture that is asked for is written to the output. It ends with 0 if that is done, with 1 if the
request or the writing failed, and with 2 if the command line or the configuration is wrong.
-/

namespace Jp2Render.CommandLine

inductive Ending where
  /-- What was written to the user about the use of the program, and the exit code. -/
  | usage (text : String) (exitCode : Int)
  | exit (exitCode : Int)
  | fault (fault : FaultText)
deriving DecidableEq, Repr

structure RunReport where
  ending : Ending
  activity : Activity
  written : Option EncodedPicture := none
  threshold : Severity := .info

def programName : String := "kduproc"

def usageText (fault : UsageFault) : String :=
  programName ++ ": error: " ++ fault.message ++ "\n"

def Stop.ending : Stop → Ending
  | .help => .usage "" 0
  | .usage fault => .usage (usageText fault) 2
  | .noOutput =>
    .fault (.ofMessage "AttributeError" "'list' object has no attribute 'suffix'")

structure Setting where
  homes : Path.Homes
  configuration : Except ConfigurationFault Configuration
  surroundings : Surroundings
  /-- Why the output cannot be written where its path would allow it, as on a full disk. -/
  outputFault : Option SystemError := none

def record (severity : Severity) (message : String) : Record := ⟨severity, .commandLine, message⟩

inductive SetupFault where
  | configuration (fault : ConfigurationFault)
  | settings (fault : Configuration.SettingsFault)
  | backend (fault : UnknownBackend)
deriving DecidableEq, Repr

namespace SetupFault

def shown : SetupFault → FaultText
  | .configuration fault => fault.shown
  | .settings fault => fault.shown
  | .backend fault => .ofMessage FailureKind.configuration.name fault.message

def isReported : SetupFault → Bool
  | .configuration fault => fault.isReported
  | .settings _ => false
  | .backend _ => true

end SetupFault

def serviceOf (setting : Setting) (line : CommandLine) : Except SetupFault Service := do
  let configuration ← setting.configuration.mapError .configuration
  let settings ← (configuration.settings setting.homes).mapError .settings
  (Service.ofSettings { settings with
    backend := line.postProcessor.getD settings.backend }).mapError .backend

def configurationReport (activity : Activity) (message : String) : RunReport :=
  let told := record .error ("Configuration error: " ++ message)
  { ending := .exit 2, activity := { activity with journal := activity.journal ++ [told] } }

def setupReport (activity : Activity) (fault : SetupFault) : RunReport :=
  if fault.isReported then configurationReport activity fault.shown.message
  else { ending := .fault fault.shown, activity }

def causeText (failure : Failure) : String := (failure.cause?.map FaultText.display).getD "None"

/-- The report where rendering failed; there too, a fault of the configuration would be told as one. -/
def failureReport (activity : Activity) (failure : Failure) : RunReport :=
  if failure.kind? = some .configuration then configurationReport activity failure.message
  else if failure.isRequestFailure then
    let told := [record .error failure.message, record .debug ("Cause: " ++ causeText failure)]
    { ending := .exit 1, activity := { activity with journal := activity.journal ++ told } }
  else { ending := .fault failure.shown, activity }

def writeOutput (setting : Setting) (tree : FileTree) (output : Path) (picture : EncodedPicture) :
    FileTree.Change :=
  let change := tree.writeFile output (.picture picture)
  match change.error, setting.outputFault with
  | none, some error => { tree, error := some (.system error) }
  | _, _ => change

def writeReport (setting : Setting) (activity : Activity) (line : CommandLine)
    (picture : EncodedPicture) : RunReport :=
  let change := writeOutput setting activity.tree line.output picture
  let after (journal : Journal) : Activity :=
    { activity with tree := change.tree, journal := activity.journal ++ journal }
  match change.error with
  | none =>
    { ending := .exit 0
      activity := after [record .info ("Wrote " ++ line.output.text)]
      written := some picture }
  | some (.system error) =>
    { ending := .exit 1
      activity := after [record .error
        ("Could not write " ++ line.output.text ++ ": " ++ error.message)] }
  | some .nullByte => { ending := .fault .nullByte, activity := after [] }

def perform (setting : Setting) (tree : FileTree) (line : CommandLine) : RunReport :=
  match serviceOf setting line with
  | .error fault => setupReport { tree } fault
  | .ok service =>
    let start : Activity := { tree, journal := [service.postProcessor.chosenRecord] }
    let rendering := service.render setting.surroundings line.request
      (.ofPath line.source none)
    match rendering.run.run start with
    | (.error failure, activity) => failureReport activity failure
    | (.ok picture, activity) => writeReport setting activity line picture

def run (setting : Setting) (tree : FileTree) (arguments : List String) : RunReport :=
  match parse arguments with
  | .error stop => { ending := stop.ending, activity := { tree } }
  | .ok line =>
    { perform setting tree line with threshold := if line.debug then .debug else .info }

end Jp2Render.CommandLine
