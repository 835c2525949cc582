import Jp2Render.Configuration.Basic
import Jp2Render.Service

/-!
What a configuration sets. Its rules have been checked, so every entry is there and of its type; the
values that stand in for others are never used.
-/

namespace Jp2Render.Configuration

open Toml

def entry? (configuration : Configuration) (area : Area) (name : String) : Option Value :=
  (areaTable? configuration.table area).bind fun w => w.lookup name

def textEntry (configuration : Configuration) (area : Area) (name : String) : String :=
  match configuration.entry? area name with
  | some (.text text) => text
  | _ => ""

def wholeEntry (configuration : Configuration) (area : Area) (name : String) : Int :=
  match configuration.entry? area name with
  | some (.integer n) => n
  | _ => 0

def truthEntry (configuration : Configuration) (area : Area) (name : String) : Bool :=
  match configuration.entry? area name with
  | some (.truth b) => b
  | _ => false

def realEntry (configuration : Configuration) (area : Area) (name : String) :
    Except ArithmeticFault Binary64 :=
  match configuration.entry? area name with
  | some (.real x) => .ok x
  | some (.integer n) => Arithmetic.toReal n
  | _ => .ok 0

def binDirectory (homes : Path.Homes) (configuration : Configuration) :
    Except UnknownHome (Option String) :=
  let text := configuration.textEntry .decoding "path_to_binaries"
  if text.isEmpty then .ok none
  else do return some (← expanded homes text).text

/-- Where the decoder writes: the path without slashes at its end, unless it is nothing else. -/
def stdoutDestination (homes : Path.Homes) (configuration : Configuration) :
    Except UnknownHome String := do
  let path ← expanded homes (configuration.textEntry .decoding "path_to_stdout_symlink")
  let trimmed := String.ofList (path.text.toList.reverse.dropWhile (· = '/')).reverse
  return if trimmed.isEmpty then "/" else trimmed

def backendName (configuration : Configuration) : String :=
  configuration.textEntry .decoding "post_processor"

/-- The time that decoding may take in seconds, if there is a limit; only positive limits are. -/
def decodeTimeout (configuration : Configuration) : Except ArithmeticFault (Option Binary64) := do
  let limit ← configuration.realEntry .decoding "decode_timeout"
  return if Binary64.lt 0 limit then some limit else none

def outputLimit (configuration : Configuration) : Int :=
  configuration.wholeEntry .decoding "max_output_mb" * 1024 * 1024

def toleratesSilence (configuration : Configuration) : Bool :=
  configuration.truthEntry .decoding "tolerate_silent_exit"

def reductionBound (configuration : Configuration) : Int :=
  configuration.wholeEntry .decoding "max_reduction_factor"

def quality (configuration : Configuration) : Int :=
  configuration.wholeEntry .encoding "jpg_quality"

def loggingLevel (configuration : Configuration) : String :=
  configuration.textEntry .logging "level"

/-- Why a configuration that keeps the rules still makes no settings. -/
inductive SettingsFault where
  | home (fault : UnknownHome)
  | arithmetic (fault : ArithmeticFault)
deriving DecidableEq, Repr

def SettingsFault.shown : SettingsFault → FaultText
  | .home fault => fault.shown
  | .arithmetic fault => fault.shown

def settings (homes : Path.Homes) (configuration : Configuration) :
    Except SettingsFault ServiceSettings := do
  return {
    binDirectory := ← (configuration.binDirectory homes).mapError .home
    stdoutDestination := ← (configuration.stdoutDestination homes).mapError .home
    backend := configuration.backendName
    decodeTimeout := ← configuration.decodeTimeout.mapError .arithmetic
    outputLimit := configuration.outputLimit
    toleratesSilence := configuration.toleratesSilence
    reductionBound := configuration.reductionBound
    quality := configuration.quality }

end Jp2Render.Configuration
