import Jp2Render.Binary64.Decimal
import Jp2Render.Journal
import Jp2Render.Text.Numeral

/-!
Reports on memory. Figures come in bytes and are shown in whole megabytes. The memory of the process
itself may be unknown, which counts as none.
-/

namespace Jp2Render

structure MemoryFigures where
  total : Int
  available : Int
  used : Int
  percentUsed : Binary64
  process : Option Int
deriving DecidableEq, Repr

structure MemoryStats where
  total : Int
  available : Int
  used : Int
  percentUsed : Binary64
  process : Int
deriving DecidableEq, Repr

namespace MemoryStats

def megabytes (bytes : Int) : Int := bytes / (1024 * 1024)

def ofFigures (figures : MemoryFigures) : MemoryStats :=
  { total := megabytes figures.total
    available := megabytes figures.available
    used := megabytes figures.used
    percentUsed := figures.percentUsed
    process := (figures.process.map megabytes).getD 0 }

def isLow (stats : MemoryStats) : Bool :=
  stats.available < 500 || (85 : Binary64).lt stats.percentUsed

end MemoryStats

namespace Memory

def record (severity : Severity) (message : String) : Record := ⟨severity, .memory, message⟩

def queryRecords (figures : MemoryFigures) : Journal :=
  if figures.process.isNone then [record .debug "Process memory unavailable"] else []

def percentText (percent : Binary64) : String :=
  if percent.isFinite then
    match Text.readReal (percent.fixedText 1) with
    | .ok rounded => rounded.text
    | .error _ => percent.text
  else percent.text

def contextText (context : String) : String := if context.isEmpty then "" else context ++ " - "

def usageRecords (figures : MemoryFigures) (context : String) : Journal :=
  let stats := MemoryStats.ofFigures figures
  let lead := contextText context
  queryRecords figures ++
    [record .debug (lead ++ "Memory: " ++ toString stats.used ++ "MB used (" ++
      percentText stats.percentUsed ++ "%), " ++ toString stats.available ++
      "MB available, process " ++ toString stats.process ++ "MB")] ++
    (if stats.isLow then
      [record .warning (lead ++ "Low memory: " ++ toString stats.available ++ "MB available")]
    else [])

end Memory

end Jp2Render
