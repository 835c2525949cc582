import Jp2Render.Xml.Encoding
import Jp2Render.Xml.NameCharacter
import Jp2Render.Xml.Refusal

/-!
Reading symbols from left to right. A reader takes what it reads from the front of its input and
answers it with the rest. Places are given by the number of symbols that are left there, so that a
reader need not know what came before.
-/

namespace Jp2Render.Xml

/-- Why a token cannot be read: a symbol cannot stand where it stands, or the input ends inside the
token or inside a character. -/
inductive ScanFault where
  | invalid (left : Nat)
  | unclosed
  | partialCharacter
deriving DecidableEq, Repr

namespace Scan

def refuse : Input → ScanFault
  | [] => .unclosed
  | .truncated :: _ => .partialCharacter
  | rest => .invalid rest.length

/-- The fault at a place where only some fixed characters can stand. -/
def refuseSymbol : Input → ScanFault
  | [] => .unclosed
  | rest => .invalid rest.length

def dropBlanks : Input → Input
  | .character c :: rest => if isSpace c then dropBlanks rest else .character c :: rest
  | rest => rest

def fixed (expected : Char) (input : Input) : Except ScanFault Input :=
  match input with
  | .character c :: rest => if c = expected then .ok rest else .error (refuseSymbol input)
  | _ => .error (refuseSymbol input)

def spanName (latin : Bool) : Input → List Char × Input
  | .character c :: rest =>
    if isNameCharacter latin c then
      let (name, rest) := spanName latin rest
      (c :: name, rest)
    else ([], .character c :: rest)
  | rest => ([], rest)

def name (latin : Bool) (input : Input) : Except ScanFault (List Char × Input) :=
  match input with
  | .character c :: rest =>
    if isNameStart latin c then
      let (more, rest) := spanName latin rest
      .ok (c :: more, rest)
    else .error (refuse input)
  | _ => .error (refuse input)

def qualifiedName (latin : Bool) (input : Input) : Except ScanFault (List Char × Input) := do
  let (first, rest) ← name latin input
  match rest with
  | .character ':' :: rest =>
    let (second, rest) ← name latin rest
    return (first ++ ':' :: second, rest)
  | rest => return (first, rest)

def spanTagName (latin : Bool) : Input → List Char × Input
  | .character c :: rest =>
    if isNameCharacter latin c || c = ':' then
      let (name, rest) := spanTagName latin rest
      (c :: name, rest)
    else ([], .character c :: rest)
  | rest => ([], rest)

inductive Reference where
  | number (digits : List Char) (base : Nat)
  | entity (name : List Char)
deriving DecidableEq, Repr

def isHexDigit (c : Char) : Bool :=
  c.isDigit || ('a' ≤ c && c ≤ 'f') || ('A' ≤ c && c ≤ 'F')

def spanDigits (isDigit : Char → Bool) : Input → List Char × Input
  | .character c :: rest =>
    if isDigit c then
      let (digits, rest) := spanDigits isDigit rest
      (c :: digits, rest)
    else ([], .character c :: rest)
  | rest => ([], rest)

def digits (isDigit : Char → Bool) (input : Input) : Except ScanFault (List Char × Input) :=
  match spanDigits isDigit input with
  | ([], rest) => .error (refuseSymbol rest)
  | (digits, rest) => do
    let rest ← fixed ';' rest
    return (digits, rest)

def reference (latin : Bool) (input : Input) : Except ScanFault (Reference × Input) :=
  match input with
  | .character '#' :: .character 'x' :: rest => do
    let (digits, rest) ← digits isHexDigit rest
    return (.number digits 16, rest)
  | .character '#' :: rest => do
    let (digits, rest) ← digits Char.isDigit rest
    return (.number digits 10, rest)
  | _ => do
    let (name, rest) ← name latin input
    match rest with
    | .character ';' :: rest => return (.entity name, rest)
    | rest => throw (refuse rest)

def commentBody : Input → Except ScanFault (Unit × Input)
  | .character '-' :: .character '-' :: rest => do
    let rest ← fixed '>' rest
    return ((), rest)
  | .character c :: rest =>
    if isForbidden c then .error (.invalid (rest.length + 1)) else commentBody rest
  | rest => .error (refuse rest)

def comment (input : Input) : Except ScanFault (Unit × Input) := do
  let rest ← fixed '-' input
  commentBody rest

def instructionBody : Input → Except ScanFault (List Char × Input)
  | .character '?' :: .character '>' :: rest => .ok ([], rest)
  | .character c :: rest =>
    if isForbidden c then .error (.invalid (rest.length + 1))
    else do
      let (body, rest) ← instructionBody rest
      return (c :: body, rest)
  | rest => .error (refuse rest)

inductive Instruction where
  | instruction
  | declaration (body : List Char)
deriving DecidableEq, Repr

def ofTarget (target body : List Char) : Option Instruction :=
  if target = ['x', 'm', 'l'] then some (.declaration body)
  else if target.map Char.toLower = ['x', 'm', 'l'] then none
  else some .instruction

def instruction (latin : Bool) (input : Input) : Except ScanFault (Instruction × Input) := do
  let (target, rest) ← name latin input
  match rest with
  | .character c :: after =>
    if isSpace c then
      match ofTarget target [] with
      | none => throw (.invalid rest.length)
      | some _ =>
        let (body, end_) ← instructionBody rest
        return ((ofTarget target body).getD .instruction, end_)
    else if c = '?' then
      match ofTarget target [] with
      | none => throw (.invalid rest.length)
      | some found =>
        let after ← fixed '>' after
        return (found, after)
    else throw (refuse rest)
  | _ => throw (refuse rest)

end Scan

end Jp2Render.Xml
