import Jp2Render.Xml.Scan

/-!
What references stand for, in text and in values. A character can be given by its number. Five
entities are known to every document; a document that declares others is refused, so a reference to
another one is to an entity that is undefined, or that is defined in a part that is not read.
-/

namespace Jp2Render.Xml

def characterOfNumber? (n : Nat) : Option Char :=
  if n < 32 && n ≠ 9 && n ≠ 10 && n ≠ 13 then none
  else if n = 0xFFFE || n = 0xFFFF then none
  else if h : n.isValidChar then some (Char.ofNatAux n h)
  else none

def digitValue (c : Char) : Nat :=
  if c.isDigit then c.toNat - 48 else c.toLower.toNat - 87

def number (base : Nat) (digits : List Char) : Nat :=
  digits.foldl (fun n c => n * base + digitValue c) 0

def knownEntities : List (String × Char) :=
  [("lt", '<'), ("gt", '>'), ("amp", '&'), ("quot", '"'), ("apos", '\'')]

inductive Resolved where
  | character (c : Char)
  | invalidNumber
  | unknown (name : String)
deriving DecidableEq, Repr

def resolve : Scan.Reference → Resolved
  | .number digits base =>
    match characterOfNumber? (number base digits) with
    | some c => .character c
    | none => .invalidNumber
  | .entity name =>
    match knownEntities.lookup (String.ofList name) with
    | some c => .character c
    | none => .unknown (String.ofList name)

/-- A value with its references resolved and its blanks made spaces. All places are counted from
the end of the document: `after` symbols follow the value, `start` are left at the start of the
token that it belongs to. Unknown entities are left out unless they have to be defined. -/
def expandValue (latin mustBeDefined : Bool) (start after : Nat) :
    Nat → Input → Except (Refusal Nat) (List Char)
  | 0, _ => .ok []
  | fuel + 1, input =>
    match input with
    | .character '&' :: rest =>
      match Scan.reference latin rest with
      | .error (.invalid left) => .error (.malformed .invalidToken (left + after))
      | .error _ => .error (.malformed .invalidToken (input.length + after))
      | .ok (found, rest) =>
        match resolve found with
        | .character c => (expandValue latin mustBeDefined start after fuel rest).map (c :: ·)
        | .invalidNumber =>
          .error (.malformed .invalidCharacterNumber (input.length + after))
        | .unknown _ =>
          if mustBeDefined then .error (.malformed .undefinedEntity start)
          else expandValue latin mustBeDefined start after fuel rest
    | .character '\r' :: .character '\n' :: rest =>
      (expandValue latin mustBeDefined start after fuel rest).map (' ' :: ·)
    | .character c :: rest =>
      if c = '<' then .error (.malformed .invalidToken (input.length + after))
      else
        (expandValue latin mustBeDefined start after fuel rest).map ((if isSpace c then ' ' else c) :: ·)
    | _ => .ok []

def valueText (latin mustBeDefined : Bool) (start after : Nat) (value : List Char) :
    Except (Refusal Nat) String :=
  (expandValue latin mustBeDefined start after (value.length + 1) (value.map Symbol.character)).map
    String.ofList

end Jp2Render.Xml
