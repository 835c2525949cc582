import Jp2Render.Xml.Scan

/-!
The markup of an element's content: tags with their attributes, references, comments, instructions
and the beginnings of literal sections.
-/

namespace Jp2Render.Xml

structure WrittenAttribute where
  name : List Char
  place : Nat
  value : List Char
  afterValue : Nat
deriving DecidableEq, Repr

structure WrittenTag where
  name : List Char
  attributes : List WrittenAttribute
  isEmpty : Bool
deriving DecidableEq, Repr

inductive Markup where
  | start (tag : WrittenTag)
  | finish (name : List Char) (place : Nat)
  | reference (reference : Scan.Reference)
  | cdata
  | aside
  | declaration
  | character (c : Char)
deriving Repr

namespace Markup

open Scan

def valueBody (latin : Bool) (quote : Char) : Input → Except ScanFault (List Char × Input)
  | .character c :: rest =>
    if c = quote then .ok ([], rest)
    else if c = '<' || isForbidden c then .error (.invalid (rest.length + 1))
    else do
      if c = '&' then
        let _ ← Scan.reference latin rest
      let (value, rest) ← valueBody latin quote rest
      return (c :: value, rest)
  | rest => .error (refuse rest)

/-- Reads the equals sign and the value of an attribute, blanks around the sign. -/
def value (latin : Bool) (input : Input) : Except ScanFault (List Char × Input) := do
  let rest ← fixed '=' (dropBlanks input)
  let rest := dropBlanks rest
  match rest with
  | .character quote :: body =>
    if quote = '"' || quote = '\'' then valueBody latin quote body else throw (refuseSymbol rest)
  | _ => throw (refuseSymbol rest)

/-- Where a name without a value stops, anything but an equals sign or a blank is refused as part
of the name. -/
def writtenAttribute (latin : Bool) (input : Input) :
    Except ScanFault (WrittenAttribute × Input) := do
  let (name, rest) ← qualifiedName latin input
  match rest with
  | .character c :: _ => if c ≠ '=' && !isSpace c then throw (refuse rest)
  | _ => throw (refuse rest)
  let (value, rest) ← value latin rest
  return (⟨name, input.length, value, rest.length + 1⟩, rest)

/-- The end of a start tag, if it stands here: whether it closes the element too. -/
def tagEnd (input : Input) : Except ScanFault (Option (Bool × Input)) :=
  match input with
  | .character '>' :: rest => .ok (some (false, rest))
  | .character '/' :: rest => do
    let rest ← fixed '>' rest
    return some (true, rest)
  | _ => .ok none

def attributes (latin : Bool) :
    Nat → Input → Except ScanFault ((List WrittenAttribute × Bool) × Input)
  | 0, input => .error (refuse input)
  | fuel + 1, input => do
    match ← tagEnd input with
    | some (isEmpty, rest) => return (([], isEmpty), rest)
    | none =>
      match input with
      | .character c :: _ =>
        if !isSpace c then throw (refuseSymbol input)
        let rest := dropBlanks input
        match ← tagEnd rest with
        | some (isEmpty, rest) => return (([], isEmpty), rest)
        | none =>
          let (first, rest) ← writtenAttribute latin rest
          let ((others, isEmpty), rest) ← attributes latin fuel rest
          return ((first :: others, isEmpty), rest)
      | _ => throw (refuseSymbol input)

/-- Reads a start tag after its bracket. A symbol after the name that is neither a blank nor the
end of the tag is refused as part of the name. -/
def startTag (latin : Bool) (input : Input) : Except ScanFault (Markup × Input) := do
  let (name, rest) ← qualifiedName latin input
  match rest with
  | .character c :: _ => if !isSpace c && c ≠ '>' && c ≠ '/' then throw (refuse rest)
  | _ => throw (refuse rest)
  let ((attributes, isEmpty), rest) ← attributes latin (rest.length + 1) rest
  return (.start ⟨name, attributes, isEmpty⟩, rest)

def endTag (latin : Bool) (input : Input) : Except ScanFault (Markup × Input) := do
  let (_, _) ← name latin input
  let (name, rest) := spanTagName latin input
  match rest with
  | .character '>' :: rest => return (.finish name input.length, rest)
  | .character c :: _ =>
    if !isSpace c then throw (refuse rest)
    let rest ← fixed '>' (dropBlanks rest)
    return (.finish name input.length, rest)
  | _ => throw (refuse rest)

def fixedAll : List Char → Input → Except ScanFault Input
  | [], input => .ok input
  | c :: cs, input => do
    let rest ← fixed c input
    fixedAll cs rest

def cdataOpening (input : Input) : Except ScanFault (Markup × Input) :=
  if input.length < 6 then .error .unclosed
  else do
    let rest ← fixedAll "CDATA[".toList input
    return (.cdata, rest)

def ofInstruction : Instruction → Markup
  | .instruction => .aside
  | .declaration _ => .declaration

def afterBracket (latin : Bool) (input : Input) : Except ScanFault (Markup × Input) :=
  match input with
  | .character '/' :: rest => endTag latin rest
  | .character '?' :: rest => do
    let (found, rest) ← instruction latin rest
    return (ofInstruction found, rest)
  | .character '!' :: .character '-' :: rest => do
    let ((), rest) ← comment rest
    return (.aside, rest)
  | .character '!' :: .character '[' :: rest => cdataOpening rest
  | .character '!' :: rest => .error (refuseSymbol rest)
  | _ => startTag latin input

/-- Reads the next piece of content. The end of a literal section must not stand in text; a line
ends with a return, a line feed, or both. -/
def next (latin : Bool) (input : Input) : Except ScanFault (Markup × Input) :=
  match input with
  | .character '<' :: rest => afterBracket latin rest
  | .character '&' :: rest => do
    let (found, rest) ← Scan.reference latin rest
    return (.reference found, rest)
  | .character '\r' :: .character '\n' :: rest => .ok (.character '\n', rest)
  | .character '\r' :: rest => .ok (.character '\n', rest)
  | .character ']' :: .character ']' :: .character '>' :: rest =>
    .error (.invalid (rest.length + 1))
  | .character c :: rest =>
    if isForbidden c then .error (.invalid input.length) else .ok (.character c, rest)
  | rest => .error (refuse rest)

def cdataBody : Input → Except (Malformation × Nat) (List Char × Input)
  | .character ']' :: .character ']' :: .character '>' :: rest => .ok ([], rest)
  | [.character ']', .character ']'] => .error (.unclosedCdata, 2)
  | [.character ']'] => .error (.unclosedCdata, 1)
  | [.character '\r'] => .error (.unclosedCdata, 1)
  | .character '\r' :: .character '\n' :: rest => do
    let (body, rest) ← cdataBody rest
    return ('\n' :: body, rest)
  | .character c :: rest =>
    if isForbidden c then .error (.invalidToken, rest.length + 1)
    else do
      let (body, rest) ← cdataBody rest
      return ((if c = '\r' then '\n' else c) :: body, rest)
  | [] => .error (.unclosedCdata, 0)
  | .truncated :: rest => .error (.partialCharacter, rest.length + 1)
  | .malformed _ :: rest => .error (.invalidToken, rest.length + 1)

end Markup

end Jp2Render.Xml
