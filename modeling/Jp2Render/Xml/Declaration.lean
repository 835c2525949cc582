import Jp2Render.Xml.NameCharacter

/-!
The declaration at the start of a document: a version, then perhaps an encoding, then perhaps
whether the document stands alone, each written like an attribute.
-/

namespace Jp2Render.Xml

/-- A value and the number of characters that are left of the declaration where it starts. -/
structure PlacedText where
  text : List Char
  left : Nat
deriving DecidableEq, Repr

structure Declaration where
  encoding : Option PlacedText
  standalone : Bool
deriving DecidableEq, Repr

namespace Declaration

structure Item where
  name : PlacedText
  value : PlacedText

def isValueCharacter (c : Char) : Bool := c.isAlphanum || c = '.' || c = '-' || c = '_'

def itemValue (input : List Char) : Except Nat (PlacedText × List Char) :=
  let input := input.dropWhile isSpace
  match input with
  | quote :: rest =>
    if quote = '"' || quote = '\'' then
      let value := rest.takeWhile isValueCharacter
      match rest.dropWhile isValueCharacter with
      | last :: after =>
        if last = quote then .ok (⟨value, rest.length⟩, after) else .error (after.length + 1)
      | [] => .error 0
    else .error input.length
  | [] => .error 0

def isAscii (c : Char) : Bool := c.toNat < 128

def item (input : List Char) : Except Nat (Option Item × List Char) :=
  match input with
  | [] => .ok (none, [])
  | c :: _ =>
    if !isSpace c then .error input.length
    else
      let start := input.dropWhile isSpace
      if start.isEmpty then .ok (none, input)
      else
        let inName := fun c => isAscii c && !isSpace c && c ≠ '='
        let name := start.takeWhile inName
        let rest := start.dropWhile inName
        match rest.dropWhile isSpace with
        | '=' :: after =>
          if name.isEmpty then .error start.length
          else do
            let (value, rest) ← itemValue after
            return (some ⟨⟨name, start.length⟩, value⟩, rest)
        | other => .error other.length

def standaloneItem (encoding : Option PlacedText) (found : Item) (rest : List Char) :
    Except Nat Declaration :=
  if found.name.text ≠ "standalone".toList then .error found.name.left
  else if found.value.text ≠ "yes".toList && found.value.text ≠ "no".toList then
    .error found.value.left
  else
    let rest := rest.dropWhile isSpace
    if rest.isEmpty then .ok ⟨encoding, found.value.text = "yes".toList⟩ else .error rest.length

/-- Reads what follows the version. An encoding's name starts with a letter. -/
def afterVersion (input : List Char) : Except Nat Declaration := do
  match ← item input with
  | (none, _) => return ⟨none, false⟩
  | (some found, rest) =>
    if found.name.text = "encoding".toList then
      if !(found.value.text.head?.any Char.isAlpha) then throw found.value.left
      match ← item rest with
      | (none, _) => return ⟨some found.value, false⟩
      | (some last, rest) => standaloneItem (some found.value) last rest
    else standaloneItem none found rest

def ofBody (input : List Char) : Except Nat Declaration := do
  match ← item input with
  | (none, rest) => throw rest.length
  | (some found, rest) =>
    if found.name.text ≠ "version".toList then throw found.name.left
    afterVersion rest

end Declaration

end Jp2Render.Xml
