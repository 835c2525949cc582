import Jp2Render.Process.Run
import Jp2Render.Text.Utf8

/-!
Whether a finished tool has failed. An exit code other than zero is a failure if the tool wrote
anything to its error stream; a tool that failed silently may be tolerated.
-/

namespace Jp2Render

/-- A tool's own report of failure: its exit code, and what it wrote to its error stream. -/
structure ToolFailure where
  tool : String
  exitCode : Int
  errorText : Option String
deriving DecidableEq, Repr

namespace ToolFailure

def summary (failure : ToolFailure) : String :=
  failure.tool ++ " failed (exit code " ++ toString failure.exitCode ++ ")"

def message (failure : ToolFailure) : String :=
  match failure.errorText with
  | some text => if text.isEmpty then failure.summary else failure.summary ++ ": " ++ text
  | none => failure.summary

end ToolFailure

namespace Outcome

/-- The error stream as text; invalid parts show as replacement characters. -/
def errorText (outcome : Outcome) : String := Text.Utf8.replacing outcome.stderr

def failure? (outcome : Outcome) (tool : String) (tolerateSilence : Bool) : Option ToolFailure :=
  if outcome.exitCode = 0 then none
  else if !outcome.errorText.isEmpty then
    some ⟨tool, outcome.exitCode, some outcome.errorText⟩
  else if tolerateSilence then none
  else some ⟨tool, outcome.exitCode, none⟩

def checkRecords (outcome : Outcome) (tool : String) (tolerateSilence : Bool) : Journal :=
  if outcome.exitCode = 0 then []
  else
    RunReport.record .warning (tool ++ " returned with code " ++ toString outcome.exitCode) ::
      (if !outcome.errorText.isEmpty then
        [RunReport.record .error ("--> " ++ tool ++ " stderr:\n" ++ outcome.errorText)]
      else if tolerateSilence then
        [RunReport.record .warning
          (tool ++ " wrote nothing to stderr; treating its output as valid")]
      else [])

end Outcome

end Jp2Render
