import Jp2Render.Xml.Doctype
import Jp2Render.Xml.Element
import Jp2Render.Xml.Markup

/-!
The content of elements. Reading keeps the elements that are open, the innermost first; a start tag
opens one, and an end tag of the same name closes it.
-/

namespace Jp2Render.Xml

def ScanFault.refusal (fault : ScanFault) (start : Nat) : Refusal Nat :=
  match fault with
  | .invalid left => .malformed .invalidToken left
  | .unclosed => .malformed .unclosedToken start
  | .partialCharacter => .malformed .partialCharacter start

/-- What is known of a start tag while its attributes are read. -/
structure TagReading where
  names : List (List Char)
  bindings : Bindings
  withPrefix : List (List Char)

namespace TagReading

def withAttribute (reading : TagReading) (start : Nat) (name : List Char) (value : String) :
    Except (Refusal Nat) TagReading :=
  let names := name :: reading.names
  match boundPrefix? name with
  | some label =>
    match reading.bindings.bind label value with
    | .ok bindings => .ok { reading with names, bindings }
    | .error how => .error (.malformed how start)
  | none =>
    if (splitName name).1.isSome then
      .ok { reading with names, withPrefix := reading.withPrefix ++ [name] }
    else .ok { reading with names }

def written (d : Declarations) (start : Nat) (reading : TagReading) (a : WrittenAttribute) :
    Except (Refusal Nat) TagReading :=
  if a.name ∈ reading.names then .error (.malformed .duplicateAttribute a.place)
  else do
    let value ← valueText d.countsLatin d.mustBeDefined start a.afterValue a.value
    reading.withAttribute start a.name value

def byDefault (start : Nat) (reading : TagReading) (a : DefaultAttribute) :
    Except (Refusal Nat) TagReading :=
  match a.value with
  | some value =>
    if a.key ∈ reading.names then .ok reading else reading.withAttribute start a.key value
  | none => .ok reading

def expandNames (bindings : Bindings) (start : Nat) :
    List Tag → List (List Char) → Except (Refusal Nat) Unit
  | _, [] => .ok ()
  | seen, name :: names =>
    match Tag.ofWritten bindings name with
    | .error how => .error (.malformed how start)
    | .ok tag =>
      if tag ∈ seen then .error (.malformed .duplicateAttribute start)
      else expandNames bindings start (tag :: seen) names

def ofTag (d : Declarations) (outer : Bindings) (tag : WrittenTag) (start : Nat) :
    Except (Refusal Nat) (Tag × Bindings) := do
  let reading ← tag.attributes.foldlM (written d start) ⟨[], outer, []⟩
  let reading ← (d.defaults.filter (·.element = tag.name)).foldlM (byDefault start) reading
  expandNames reading.bindings start [] reading.withPrefix
  match Tag.ofWritten reading.bindings tag.name with
  | .ok name => return (name, reading.bindings)
  | .error how => throw (.malformed how start)

end TagReading

/-- An element whose end tag is still to come. Text and children are kept in reverse. -/
structure OpenElement where
  written : List Char
  tag : Tag
  bindings : Bindings
  text : List Char := []
  children : List Element := []

namespace OpenElement

def withCharacter (e : OpenElement) (c : Char) : OpenElement :=
  if e.children.isEmpty then { e with text := c :: e.text } else e

def withText (e : OpenElement) (text : List Char) : OpenElement := text.foldl withCharacter e

def withChild (e : OpenElement) (child : Element) : OpenElement :=
  { e with children := child :: e.children }

def element (e : OpenElement) : Element :=
  ⟨e.tag, String.ofList e.text.reverse, e.children.reverse⟩

end OpenElement

def referenceText (d : Declarations) (start : Nat) (reference : Scan.Reference) :
    Except (Refusal Nat) Char :=
  match resolve reference with
  | .character c => .ok c
  | .invalidNumber => .error (.malformed .invalidCharacterNumber start)
  | .unknown name =>
    if d.mustBeDefined then .error (.malformed .undefinedEntity start)
    else .error (.unresolved name start)

def openElement (d : Declarations) (outer : Bindings) (tag : WrittenTag) (start : Nat) :
    Except (Refusal Nat) OpenElement := do
  let (name, bindings) ← TagReading.ofTag d outer tag start
  return { written := tag.name, tag := name, bindings }

def content (d : Declarations) :
    Nat → Input → OpenElement → List OpenElement → Except (Refusal Nat) (Element × Input)
  | 0, input, _, _ => .error (.malformed .noElement input.length)
  | fuel + 1, input, inner, outer =>
    match input with
    | [] => .error (.malformed .noElement 0)
    | [.character '\r'] => .error (.malformed .noElement 1)
    | _ => do
      let start := input.length
      let (found, rest) ← (Markup.next d.countsLatin input).mapError (·.refusal start)
      match found with
      | .character c => content d fuel rest (inner.withCharacter c) outer
      | .aside => content d fuel rest inner outer
      | .declaration => throw (.malformed .misplacedDeclaration start)
      | .reference reference =>
        let c ← referenceText d start reference
        content d fuel rest (inner.withCharacter c) outer
      | .cdata =>
        let (text, rest) ← (Markup.cdataBody rest).mapError fun (how, left) => .malformed how left
        content d fuel rest (inner.withText text) outer
      | .start tag =>
        let opened ← openElement d inner.bindings tag start
        if tag.isEmpty then content d fuel rest (inner.withChild opened.element) outer
        else content d fuel rest opened (inner :: outer)
      | .finish name place =>
        if name ≠ inner.written then throw (.malformed .mismatchedTag place)
        match outer with
        | [] => return (inner.element, rest)
        | next :: outer => content d fuel rest (next.withChild inner.element) outer

def rootElement (d : Declarations) (input : Input) : Except (Refusal Nat) (Element × Input) := do
  let start := input.length
  let (found, rest) ← (Markup.next d.countsLatin input).mapError (·.refusal start)
  match found with
  | .start tag =>
    let opened ← openElement d Bindings.initial tag start
    if tag.isEmpty then return (opened.element, rest)
    content d (rest.length + 1) rest opened []
  | _ => throw (.malformed .unexpected start)

end Jp2Render.Xml
