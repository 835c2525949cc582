import Jp2Render.Text.Fields
import Jp2Render.Text.Numeral

/-!
Arguments of the command line, taken one by one: options, which begin with a dash, and plain texts.
Options with two dashes may be shortened as long as only one is meant, and may have a value attached
after an equals sign. What looks like a negative number or has a space in it is no option.
-/

namespace Jp2Render.CommandLine

inductive Flag where
  | help
  | region
  | size
  | rotation
  | quality
  | postProcessor
  | debug
deriving DecidableEq, Repr

namespace Flag

def spellings : List (String × Flag) :=
  [("-h", .help), ("--help", .help), ("--region", .region), ("--size", .size),
   ("--rotation", .rotation), ("--quality", .quality), ("--post-processor", .postProcessor),
   ("--debug", .debug)]

def label (flag : Flag) : String :=
  String.intercalate "/" ((spellings.filter (·.2 = flag)).map Prod.fst)

def takesValue : Flag → Bool
  | .help | .debug => false
  | _ => true

end Flag

/-- A value attached to an option: after an equals sign, or right after the letter of a short
one. -/
structure Attached where
  text : String
  afterEquals : Bool
deriving DecidableEq, Repr

inductive Argument where
  | plain (text : String)
  | separator
  | option (flag : Flag) (isShort : Bool) (attached : Option Attached)
  /-- It looks like an option, but there is none of the kind. -/
  | unknown (text : String)
deriving DecidableEq, Repr

namespace Argument

def isOption : Argument → Bool
  | .option _ _ _ | .unknown _ => true
  | _ => false

def text : Argument → String
  | .plain text | .unknown text => text
  | .separator => "--"
  | .option flag _ _ => flag.label

end Argument

/-- The option is not clear: several could be meant. -/
structure Ambiguity where
  text : String
  candidates : List String
deriving DecidableEq, Repr

def Ambiguity.message (fault : Ambiguity) : String :=
  "ambiguous option: " ++ fault.text ++ " could match " ++
    String.intercalate ", " fault.candidates

def cutAtEquals (text : String) : String × Option String :=
  let cs := text.toList
  let after := cs.dropWhile (· ≠ '=')
  (String.ofList (cs.takeWhile (· ≠ '=')),
    if after.isEmpty then none else some (String.ofList (after.drop 1)))

def isDigit (c : Char) : Bool := (Text.digitValue? c).isSome

/-- Whether a text is a dash with digits, with or without a point in front of the last of them. A
single end of line after it does not matter. -/
def isNegativeNumber (text : String) : Bool :=
  let cs := text.toList
  let cs := if cs.getLast? = some '\n' then cs.dropLast else cs
  match cs with
  | '-' :: rest =>
    match rest.dropWhile isDigit with
    | [] => !rest.isEmpty
    | '.' :: fraction => !fraction.isEmpty && fraction.all isDigit
    | _ => false
  | _ => false

def longCandidates (text : String) : List (String × Argument) :=
  let (name, value) := cutAtEquals text
  (Flag.spellings.filter fun entry => entry.1.startsWith name).map fun (spelling, flag) =>
    (spelling, .option flag false (value.map fun text => ⟨text, true⟩))

/-- Options of one letter that a text with one dash could mean, with the rest of it as their
value. -/
def shortCandidates (text : String) : List (String × Argument) :=
  let letter := text.toList.take 2
  (Flag.spellings.filter fun entry => entry.1.toList = letter).map fun (spelling, flag) =>
    (spelling, .option flag true (some ⟨String.ofList (text.toList.drop 2), false⟩))

def spelledOut? (text : String) : Option Argument :=
  let isShort (spelling : String) : Bool := spelling.length = 2
  match Flag.spellings.lookup text, cutAtEquals text with
  | some flag, _ => some (.option flag (isShort text) none)
  | none, (spelling, some value) =>
    (Flag.spellings.lookup spelling).map fun flag =>
      .option flag (isShort spelling) (some ⟨value, true⟩)
  | none, (_, none) => none

def classify (text : String) : Except Ambiguity Argument :=
  match text.toList with
  | '-' :: next :: _ =>
    match spelledOut? text with
    | some argument => .ok argument
    | none =>
      match if next = '-' then longCandidates text else shortCandidates text with
      | [] =>
        .ok (if isNegativeNumber text || ' ' ∈ text.toList then .plain text else .unknown text)
      | [(_, argument)] => .ok argument
      | candidates => .error ⟨text, candidates.map Prod.fst⟩
  | _ => .ok (.plain text)

def classifyAll : List String → Except Ambiguity (List Argument)
  | [] => .ok []
  | text :: rest =>
    if text = "--" then .ok (.separator :: rest.map .plain)
    else do return (← classify text) :: (← classifyAll rest)

end Jp2Render.CommandLine
