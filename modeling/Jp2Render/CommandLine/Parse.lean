import Jp2Render.Backend.Processing
import Jp2Render.CommandLine.Argument
import Jp2Render.Path
import Jp2Render.RequestText

/-!
Reading the command line. It names a source and an output, in this order, with options anywhere
around them; of an option that is given twice the last value counts. The output's suffix says which
format is wanted.
-/

namespace Jp2Render

namespace CommandLine

inductive UsageFault where
  | ambiguous (fault : Ambiguity)
  | valueExpected (flag : Flag)
  | valueIgnored (flag : Flag) (value : String)
  | invalidChoice (flag : Flag) (value : String) (choices : List String)
  | missing (names : List String)
  | unrecognized (texts : List String)
  | format (fault : UnknownOutputFormat)
  | request (fault : RequestTextFault)
deriving DecidableEq, Repr

namespace UsageFault

def ofFlag (flag : Flag) (message : String) : String := "argument " ++ flag.label ++ ": " ++ message

def message : UsageFault → String
  | .ambiguous fault => fault.message
  | .valueExpected flag => ofFlag flag "expected one argument"
  | .valueIgnored flag value => ofFlag flag ("ignored explicit argument " ++ Text.quoted value)
  | .invalidChoice flag value choices =>
    ofFlag flag ("invalid choice: " ++ Text.quoted value ++ " (choose from " ++
      String.intercalate ", " (choices.map Text.quoted) ++ ")")
  | .missing names => "the following arguments are required: " ++ String.intercalate ", " names
  | .unrecognized texts => "unrecognized arguments: " ++ String.intercalate " " texts
  | .format fault => fault.message
  | .request fault => fault.message

end UsageFault

inductive Stop where
  | help
  | usage (fault : UsageFault)
  | noOutput
deriving DecidableEq, Repr

structure Answers where
  /-- Source and output. Two dashes in such a place do not count once. -/
  places : List (Option String) := []
  unrecognized : List String := []
  region : String := "full"
  size : String := "full"
  rotation : String := "0"
  quality : String := Quality.default.name
  postProcessor : Option String := none
  debug : Bool := false
deriving DecidableEq, Repr

def placeNames : List String := ["source", "output"]

def takePlace (arguments : List Argument) : Option (Option String × List Argument) :=
  let before := arguments.takeWhile (· = .separator)
  match arguments.drop before.length with
  | .plain text :: rest =>
    let after := rest.takeWhile (· = .separator)
    let texts := before.map Argument.text ++ text :: after.map Argument.text
    some ((texts.erase "--").head?, rest.drop after.length)
  | _ => none

/-- Takes plain texts for as many places as are left, if that many stand here. -/
def takePlaces : (left : Nat) → List Argument → List (Option String) × List Argument
  | 0, arguments => ([], arguments)
  | left + 1, arguments =>
    match takePlace arguments with
    | none => ([], arguments)
    | some (place, rest) =>
      let (places, rest) := takePlaces left rest
      (place :: places, rest)

def choose (flag : Flag) (choices : List String) (value : String) : Except Stop String :=
  if value ∈ choices then .ok value else .error (.usage (.invalidChoice flag value choices))

def postProcessorChoices : List String := [BackendKind.graph.name, BackendKind.raster.name]

def Answers.set (answers : Answers) (flag : Flag) (value : String) : Except Stop Answers :=
  match flag with
  | .region => .ok { answers with region := value }
  | .size => .ok { answers with size := value }
  | .rotation => .ok { answers with rotation := value }
  | .quality => do
    return { answers with quality := ← choose flag (Quality.all.map Quality.name) value }
  | .postProcessor => do
    return { answers with postProcessor := some (← choose flag postProcessorChoices value) }
  | .help | .debug => .ok answers

def Answers.raise (answers : Answers) (flag : Flag) : Except Stop Answers :=
  if flag = .help then .error .help else .ok { answers with debug := true }

/-- What comes of letters attached to the short option for help: further ones of the same kind are
fine, and what is none ends the search, but neither a value nor a dash can follow. -/
def helpLetters (afterEquals : Bool) : List Char → Stop
  | [] => .usage (.valueIgnored .help "")
  | c :: rest =>
    if afterEquals || c = '-' then .usage (.valueIgnored .help (String.ofList (c :: rest)))
    else if c = 'h' then
      match rest with
      | [] => .help
      | '=' :: value => helpLetters true value
      | more => helpLetters false more
    else .help

def refuseValue (flag : Flag) (isShort : Bool) (attached : Attached) : Stop :=
  if isShort then helpLetters attached.afterEquals attached.text.toList
  else .usage (.valueIgnored flag attached.text)

def Answers.take (answers : Answers) (flag : Flag) (isShort : Bool) (attached : Option Attached)
    (rest : List Argument) : Except Stop (Answers × List Argument) :=
  match flag.takesValue, attached, rest with
  | true, some attached, _ => do return (← answers.set flag attached.text, rest)
  | true, none, .plain value :: rest => do return (← answers.set flag value, rest)
  | true, none, _ => .error (.usage (.valueExpected flag))
  | false, some attached, _ => .error (refuseValue flag isShort attached)
  | false, none, _ => do return (← answers.raise flag, rest)

def collect : (rounds : Nat) → Answers → List Argument → Except Stop Answers
  | 0, answers, _ => .ok answers
  | _ + 1, answers, [] => .ok answers
  | rounds + 1, answers, .option flag isShort attached :: rest => do
    let (answers, rest) ← answers.take flag isShort attached rest
    collect rounds answers rest
  | rounds + 1, answers, .unknown text :: rest =>
    collect rounds { answers with unrecognized := answers.unrecognized ++ [text] } rest
  | rounds + 1, answers, arguments =>
    match takePlaces (placeNames.length - answers.places.length) arguments with
    | ([], _) =>
      let extra := arguments.takeWhile (!·.isOption)
      collect rounds
        { answers with unrecognized := answers.unrecognized ++ extra.map Argument.text }
        (arguments.drop extra.length)
    | (places, rest) => collect rounds { answers with places := answers.places ++ places } rest

/-- Goes through all arguments; none may be missing, and none left over. -/
def answersOf (texts : List String) : Except Stop Answers := do
  let arguments ← (classifyAll texts).mapError fun fault => .usage (.ambiguous fault)
  let answers ← collect arguments.length {} arguments
  let missing := placeNames.drop answers.places.length
  if !missing.isEmpty then throw (.usage (.missing missing))
  if !answers.unrecognized.isEmpty then throw (.usage (.unrecognized answers.unrecognized))
  return answers

end CommandLine

structure CommandLine where
  source : Path
  output : Path
  request : Request
  /-- The backend to use in place of the configured one. -/
  postProcessor : Option String
  debug : Bool

namespace CommandLine

def requestOf (answers : Answers) (output : Path) : Except UsageFault Request := do
  let format ← (OutputFormat.ofExtension output.suffix).mapError .format
  let region ← (RequestText.region answers.region).mapError .request
  let size ← (RequestText.size answers.size).mapError .request
  let rotation ← (RequestText.rotation answers.rotation).mapError .request
  return { format, region, size, rotation
           quality := (Quality.ofName? answers.quality).getD .default }

def parse (texts : List String) : Except Stop CommandLine := do
  let answers ← answersOf texts
  match answers.places with
  | [some source, some output] =>
    let output := Path.ofText output
    let request ← (requestOf answers output).mapError .usage
    return { source := .ofText source, output, request
             postProcessor := answers.postProcessor, debug := answers.debug }
  | _ => throw .noOutput

end CommandLine

end Jp2Render
