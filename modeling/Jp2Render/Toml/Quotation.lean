import Jp2Render.Toml.Blank

/-!
Texts in quotes. Between single quotes every character stands for itself; between double quotes a
back slash begins an escape. Between three quotes of a kind a text may take several lines, and up to
two quotes may stand right before the closing ones.
-/

namespace Jp2Render.Toml

/-- Whether a character may not stand in a text of one line, or of several. -/
def isForbidden (lines : Bool) (c : Char) : Bool := isControl c && !(lines && c = '\n')

/-- Cuts a text in front of the first place where the given characters stand. -/
def cutBefore? (expected : List Char) : List Char → Option (List Char × List Char)
  | [] => none
  | c :: rest =>
    if startsWith expected (c :: rest) then some ([], c :: rest)
    else (cutBefore? expected rest).map fun (passed, left) => (c :: passed, left)

def literal (quotes : String) (cs : List Char) : Except Fault (List Char × List Char) := do
  match cutBefore? quotes.toList cs with
  | none => .error (.malformed (.unclosedLiteral quotes) 0)
  | some (passed, left) =>
    checkBefore (isForbidden (quotes.length = 3)) passed left
    return (passed, left.drop quotes.length)

def hexValue? (c : Char) : Option Nat :=
  if c.isDigit then some (c.toNat - '0'.toNat)
  else if 'a' ≤ c && c ≤ 'f' then some (c.toNat - 'a'.toNat + 10)
  else if 'A' ≤ c && c ≤ 'F' then some (c.toNat - 'A'.toNat + 10)
  else none

def hexCharacter (count : Nat) (cs : List Char) : Except Fault (Option Char × List Char) :=
  let digits := (cs.take count).map hexValue?
  if digits.length = count && digits.all Option.isSome then
    let n := (digits.filterMap id).foldl (fun value digit => 16 * value + digit) 0
    let left := cs.drop count
    if n.isValidChar then .ok (some (Char.ofNat n), left) else .error (Problem.notScalar.here left)
  else .error (Problem.hexDigits.here cs)

def escapes : List (Char × Char) :=
  [('b', '\x08'), ('t', '\t'), ('n', '\n'), ('f', '\x0c'), ('r', '\r'), ('"', '"'), ('\\', '\\')]

/-- Reads what follows a back slash. One before the end of a line stands for nothing, together with
the blanks and ends of lines after it. -/
def escape (lines : Bool) (cs : List Char) : Except Fault (Option Char × List Char) :=
  match cs with
  | [] => .error (Problem.escape.here cs)
  | c :: rest =>
    if lines && isBlankOrLineEnd c then
      match dropBlanks cs with
      | [] => .ok (none, [])
      | '\n' :: left => .ok (none, left.dropWhile isBlankOrLineEnd)
      | left => .error (Problem.escape.here left)
    else if c = 'u' then hexCharacter 4 rest
    else if c = 'U' then hexCharacter 8 rest
    else
      match escapes.lookup c with
      | some meant => .ok (some meant, rest)
      | none => .error (Problem.escape.here rest)

/-- Reads up to closing double quotes, and past them, after what has been read already, which comes
in reverse. -/
def escapedOnto (lines : Bool) (before cs : List Char) : Except Fault (List Char × List Char) :=
  match cs with
  | [] => .error (Problem.unterminatedText.here cs)
  | '"' :: rest =>
    if !lines then .ok (before.reverse, rest)
    else if startsWith ['"', '"'] rest then .ok (before.reverse, rest.drop 2)
    else escapedOnto lines ('"' :: before) rest
  | '\\' :: rest =>
    match escape lines rest with
    | .error fault => .error fault
    | .ok (meant, left) =>
      if _shorter : left.length < rest.length + 1 then
        escapedOnto lines (meant.toList ++ before) left
      else .error (Problem.escape.here rest)
  | c :: rest =>
    if isForbidden lines c then .error ((Problem.forbiddenInText c).here cs)
    else escapedOnto lines (c :: before) rest
termination_by cs.length

def withQuotesBefore (quote : Char) (passed rest : List Char) : List Char × List Char :=
  let more := (rest.take 2).takeWhile (· = quote)
  (passed ++ more, rest.drop more.length)

/-- Reads a text of several lines. An end of a line right after the opening quotes says nothing. -/
def linesText (quote : Char) (cs : List Char) : Except Fault (String × List Char) := do
  let cs := match cs with
    | '\n' :: rest => rest
    | _ => cs
  let (passed, left) ←
    if quote = '"' then escapedOnto true [] cs else literal "'''" cs
  let (passed, left) := withQuotesBefore quote passed left
  return (String.ofList passed, left)

def lineText (quote : Char) (cs : List Char) : Except Fault (String × List Char) := do
  let (passed, left) ← if quote = '"' then escapedOnto false [] cs else literal "'" cs
  return (String.ofList passed, left)

def quotation (quote : Char) (rest : List Char) : Except Fault (String × List Char) :=
  if startsWith [quote, quote] rest then linesText quote (rest.drop 2) else lineText quote rest

end Jp2Render.Toml
