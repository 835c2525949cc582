import Jp2Render.Xml.Content
import Jp2Render.Xml.Declaration

/-!
Whole documents: a declaration, a document type, one element, and nothing but blanks, comments and
instructions besides. A document that comes as text is read as it is; one that comes as bytes is
read in the encoding that it declares.
-/

namespace Jp2Render.Xml

/-- The place after some symbols. Lines end with a return, a line feed, or both. -/
def placeAfter : Input → Place → Place
  | [], place => place
  | .character '\r' :: .character '\n' :: rest, place => placeAfter rest ⟨place.line + 1, 0⟩
  | .character c :: rest, place =>
    if c = '\r' || c = '\n' then placeAfter rest ⟨place.line + 1, 0⟩
    else placeAfter rest ⟨place.line, place.column + 1⟩
  | _ :: rest, place => placeAfter rest ⟨place.line, place.column + 1⟩

def placeAt (whole : Input) (left : Nat) : Place :=
  placeAfter (whole.take (whole.length - left)) ⟨1, 0⟩

def upperName (name : String) : String := String.ofList (name.toList.map Char.toUpper)

def declaredEncoding (current : Encoding) (declared : PlacedText) (left : Nat) :
    Except (Refusal Nat) Encoding :=
  let incorrect : Except (Refusal Nat) Encoding := .error (.malformed .incorrectEncoding left)
  let name := String.ofList declared.text
  match upperName name, current with
  | "UTF-16", .utf16 bigEndian => .ok (.utf16 bigEndian)
  | "UTF-16BE", .utf16 true => .ok current
  | "UTF-16LE", .utf16 false => .ok current
  | "UTF-16", _ | "UTF-16BE", _ | "UTF-16LE", _ => incorrect
  | "UTF-8", .utf16 _ | "ISO-8859-1", .utf16 _ | "US-ASCII", .utf16 _ => incorrect
  | "UTF-8", _ => .ok .utf8
  | "ISO-8859-1", _ => .ok (.charset { Charset.latin1 with countsLatin := true })
  | "US-ASCII", _ => .ok (.charset Charset.ascii)
  | _, _ =>
    match Codec.ofName? name with
    | some (.charset set) => .ok (.charset set)
    | some .foreign => .error (.malformed .unknownEncoding left)
    | some .wide => .error (.encoding .wide)
    | some .notText => .error (.encoding (.notText name))
    | some (.undecodable reason) => .error (.encoding (.undecodable name reason))
    | some .punycode => .error (.encoding .punycode)
    | none => .error (.encoding (.unknown name))

def unitSize : Encoding → Nat
  | .utf16 _ => 2
  | _ => 1

/-- A document that has been opened: its encoding, the symbols from its start, those that are still
to be read, and what has been declared. -/
structure Opened where
  encoding : Encoding
  halfUnit : Bool
  whole : Input
  rest : Input
  declarations : Declarations

/-- Reads the declaration if the document starts with one, after a byte order mark of the given
length. A declared encoding holds for the places in the document from its very start. -/
def openDocument (heeds : Bool) (encoding : Encoding) (markLength : Nat) (bytes : Bytes) :
    Except (Refusal Place) Opened :=
  let symbols := encoding.symbols (bytes.drop markLength)
  let plain : Opened :=
    ⟨encoding, encoding.leavesHalfUnit bytes, encoding.symbols bytes, symbols,
      { countsLatin := encoding.countsLatin }⟩
  match PrologToken.next encoding symbols with
  | .ok (.declaration body, rest) =>
    let place (left : Nat) := placeAt plain.whole (left + 2 + rest.length)
    match Declaration.ofBody body with
    | .error left => .error (.malformed .malformedDeclaration (place left))
    | .ok declaration =>
      let declarations (encoding : Encoding) : Declarations :=
        { countsLatin := encoding.countsLatin, standalone := declaration.standalone }
      match declaration.encoding, heeds with
      | some declared, true =>
        match declaredEncoding encoding declared declared.left with
        | .error refusal => .error (refusal.map place)
        | .ok next =>
          let headLength := markLength + (symbols.length - rest.length) * unitSize encoding
          let head := next.symbols (bytes.take headLength)
          let rest := next.symbols (bytes.drop headLength)
          .ok ⟨next, next.leavesHalfUnit bytes, head ++ rest, rest, declarations next⟩
      | _, _ => .ok { plain with rest, declarations := declarations encoding }
  | _ => .ok plain

inductive PrologState where
  | beforeDoctype
  | doctype (expected : Expected)
  | afterDoctype

def prologStep (d : Declarations) (state : PrologState) (place : Doctype.TokenPlace)
    (token : PrologToken) : Except (Refusal Nat) (Declarations × PrologState) :=
  match state, token with
  | .beforeDoctype, .blank | .beforeDoctype, .aside => .ok (d, .beforeDoctype)
  | .beforeDoctype, .opening keyword =>
    if keyword = "DOCTYPE".toList then .ok (d, .doctype .name)
    else .error (.malformed .unexpected place.start)
  | .afterDoctype, .blank | .afterDoctype, .aside => .ok (d, .afterDoctype)
  | .doctype expected, token => do
    let (d, next) ← Doctype.step d expected place token
    return (d, if next = .finished then .afterDoctype else .doctype next)
  | _, token => .error (Doctype.unexpected token place)

/-- Reads up to the first element. A half unit at the end is an unfinished token, or belongs to a
token that might have gone on. -/
def prolog (encoding : Encoding) (halfUnit : Bool) :
    Nat → Declarations → PrologState → Input → Except (Refusal Nat) (Declarations × Input)
  | 0, _, _, input => .error (.malformed .noElement input.length)
  | fuel + 1, d, state, input =>
    if input.isEmpty then .error (.malformed (if halfUnit then .unclosedToken else .noElement) 0)
    else do
      let start := input.length
      let (token, rest) ← (PrologToken.next encoding input).mapError (·.refusal start)
      match state, token with
      | .doctype _, .element => throw (Doctype.unexpected token ⟨start, 0⟩)
      | _, .element => return (d, input)
      | _, _ =>
        let (d, state) ← prologStep d state ⟨start, rest.length + 1⟩ token
        if rest.isEmpty && (token.isOpenEnded || input = [.character '\r']) then
          throw (.malformed .noElement 0)
        prolog encoding halfUnit fuel d state rest

def epilog (encoding : Encoding) : Nat → Input → Except (Refusal Nat) Unit
  | 0, _ => .ok ()
  | fuel + 1, input =>
    if input.isEmpty then .ok ()
    else do
      let start := input.length
      let (token, rest) ← (PrologToken.next encoding input).mapError (·.refusal start)
      match token with
      | .blank | .aside => epilog encoding fuel rest
      | _ => throw (.malformed .junkAfterElement start)

/-- Reads a document that has been opened. Neither in the element nor after it must half a unit be
left. -/
def Opened.read (opened : Opened) : Except (Refusal Nat) Element := do
  let (d, rest) ←
    prolog opened.encoding opened.halfUnit (opened.rest.length + 1) opened.declarations
      .beforeDoctype opened.rest
  let (element, rest) ← (rootElement d rest).mapError fun refusal =>
    if opened.halfUnit && refusal = .malformed .noElement 0 then .malformed .unclosedToken 0
    else refusal
  epilog opened.encoding (rest.length + 1) rest
  if opened.halfUnit then throw (.malformed .unclosedToken 0)
  return element

def readBytes (heeds : Bool) (bytes : Bytes) : Except (Refusal Place) Element :=
  if Encoding.isUnfinishedStart bytes then .error (.malformed .unclosedToken ⟨1, 0⟩)
  else do
    let (encoding, markLength) := Encoding.detect bytes
    let opened ← openDocument heeds encoding markLength bytes
    opened.read.mapError (·.map (placeAt opened.whole))

def readText (text : String) : Except (Refusal Place) Element := readBytes false (Bytes.ofText text)

end Jp2Render.Xml
