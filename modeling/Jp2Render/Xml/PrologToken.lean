import Jp2Render.Xml.Scan

/-!
The tokens before the first element and of a document type: names, literals, brackets, marks, and
the openings of declarations. At the end of the input an unfinished name or literal counts as
finished, since then the document has no element anyway.
-/

namespace Jp2Render.Xml

inductive NameShape where
  | plain
  | prefixed
  | token
deriving DecidableEq, Repr

inductive PrologToken where
  | blank
  | aside
  | declaration (body : List Char)
  | opening (keyword : List Char)
  | element
  | literal (text : List Char)
  | name (shape : NameShape) (text : List Char)
  | repeated
  | hashName (text : List Char)
  | parameterReference
  | percent
  | openBracket
  | closeBracket
  | openParen
  | closeParen (star : Bool) (marked : Bool)
  | comma
  | bar
  | close
  | conditional
deriving DecidableEq, Repr

namespace PrologToken

def isOpenEnded : PrologToken → Bool
  | .literal _ | .name _ _ | .hashName _ | .closeBracket => true
  | .closeParen _ marked => !marked
  | _ => false

open Scan

def endsLiteral (c : Char) : Bool := isSpace c || c = '>' || c = '%' || c = '['

def literalBody (quote : Char) : Input → Except ScanFault (List Char × Input)
  | .character c :: rest =>
    if c = quote then
      match rest with
      | .character next :: _ =>
        if endsLiteral next then .ok ([], rest) else .error (.invalid rest.length)
      | [] => .ok ([], [])
      | _ => .error (.invalid rest.length)
    else if isForbidden c then .error (.invalid (rest.length + 1))
    else do
      let (text, rest) ← literalBody quote rest
      return (c :: text, rest)
  | rest => .error (refuse rest)

def spanLetters (encoding : Encoding) : Input → List Char × Input
  | .character c :: rest =>
    if encoding.isLetter c then
      let (letters, rest) := spanLetters encoding rest
      (c :: letters, rest)
    else ([], .character c :: rest)
  | rest => ([], rest)

/-- Reads the keyword of a declaration. A percent sign must not follow it as if it were a word of
its own. -/
def openingKeyword (encoding : Encoding) (input : Input) : Except ScanFault (PrologToken × Input) :=
  match spanLetters encoding input with
  | ([], rest) => .error (refuseSymbol rest)
  | (_, []) => .error .unclosed
  | (keyword, .character c :: rest) =>
    if isSpace c then .ok (.opening keyword, .character c :: rest)
    else if c = '%' then
      match rest with
      | [] => .error .unclosed
      | .character next :: _ =>
        if isSpace next || next = '%' then .error (.invalid (rest.length + 1))
        else .ok (.opening keyword, .character c :: rest)
      | _ => .ok (.opening keyword, .character c :: rest)
    else .error (.invalid (rest.length + 1))
  | (_, rest) => .error (.invalid rest.length)

def afterExclamation (encoding : Encoding) (input : Input) :
    Except ScanFault (PrologToken × Input) :=
  match input with
  | .character '-' :: rest => do
    let ((), rest) ← comment rest
    return (.aside, rest)
  | .character '[' :: rest => .ok (.conditional, rest)
  | _ => openingKeyword encoding input

def ofInstruction : Instruction → PrologToken
  | .instruction => .aside
  | .declaration body => .declaration body

def afterBracket (encoding : Encoding) (input : Input) : Except ScanFault (PrologToken × Input) :=
  match input with
  | .character '!' :: rest => afterExclamation encoding rest
  | .character '?' :: rest => do
    let (found, rest) ← instruction encoding.countsLatin rest
    return (ofInstruction found, rest)
  | .character c :: _ =>
    if encoding.startsElement c then .ok (.element, .character '<' :: input)
    else .error (.invalid input.length)
  | [] => .error .unclosed
  | .truncated :: _ => .ok (.element, .character '<' :: input)
  | .malformed leads :: _ =>
    if leads then .ok (.element, .character '<' :: input) else .error (.invalid input.length)

/-- Reads what follows a percent sign: a parameter entity's name, or nothing. -/
def afterPercent (latin : Bool) (input : Input) : Except ScanFault (PrologToken × Input) :=
  match input with
  | .character c :: _ =>
    if isSpace c || c = '%' then .ok (.percent, input)
    else do
      let (_, rest) ← Scan.name latin input
      match rest with
      | .character ';' :: rest => return (.parameterReference, rest)
      | rest => throw (refuse rest)
  | _ => .error (refuse input)

def endsName (c : Char) : Bool :=
  isSpace c || c = '>' || c = ')' || c = ',' || c = '|' || c = '[' || c = '%'

def endsHashName (c : Char) : Bool := isSpace c || c = '>' || c = ')' || c = '|' || c = '%'

def hashNameBody (latin : Bool) (input : Input) : Except ScanFault (PrologToken × Input) := do
  let (text, rest) ← Scan.name latin input
  match rest with
  | [] => return (.hashName text, [])
  | .character c :: _ =>
    if endsHashName c then return (.hashName text, rest) else throw (refuse rest)
  | _ => throw (refuse rest)

def endsParen (c : Char) : Bool := isSpace c || c = '>' || c = ',' || c = '|' || c = ')'

def afterParen (input : Input) : Except ScanFault (PrologToken × Input) :=
  match input with
  | [] => .ok (.closeParen false false, [])
  | .character '*' :: rest => .ok (.closeParen true true, rest)
  | .character '?' :: rest => .ok (.closeParen false true, rest)
  | .character '+' :: rest => .ok (.closeParen false true, rest)
  | .character c :: _ =>
    if endsParen c then .ok (.closeParen false false, input) else .error (.invalid input.length)
  | _ => .error (.invalid input.length)

def shapeAfterColon (latin : Bool) (shape : NameShape) (input : Input) : Except ScanFault NameShape :=
  match shape with
  | .plain =>
    match input with
    | [] => .error .unclosed
    | .truncated :: _ => .error .partialCharacter
    | .character c :: _ => .ok (if isNameCharacter latin c then .prefixed else .token)
    | .malformed _ :: _ => .error (.invalid input.length)
  | _ => .ok .token

def nameBody (latin : Bool) (shape : NameShape) : Input → Except ScanFault (PrologToken × Input)
  | [] => .ok (.name shape [], [])
  | .character c :: rest =>
    if isNameCharacter latin c then do
      let (token, rest) ← nameBody latin shape rest
      match token with
      | .name shape text => return (.name shape (c :: text), rest)
      | token => return (token, rest)
    else if c = ':' then do
      let shape ← shapeAfterColon latin shape rest
      let (token, rest) ← nameBody latin shape rest
      match token with
      | .name shape text => return (.name shape (':' :: text), rest)
      | token => return (token, rest)
    else if c = '+' || c = '*' || c = '?' then
      if shape = .token then .error (.invalid (rest.length + 1)) else .ok (.repeated, rest)
    else if endsName c then .ok (.name shape [], .character c :: rest)
    else .error (.invalid (rest.length + 1))
  | rest => .error (refuse rest)

def next (encoding : Encoding) (input : Input) : Except ScanFault (PrologToken × Input) :=
  let latin := encoding.countsLatin
  match input with
  | .character '"' :: rest => do
    let (text, rest) ← literalBody '"' rest
    return (.literal text, rest)
  | .character '\'' :: rest => do
    let (text, rest) ← literalBody '\'' rest
    return (.literal text, rest)
  | .character '<' :: rest => afterBracket encoding rest
  | .character '%' :: rest => afterPercent latin rest
  | .character ',' :: rest => .ok (.comma, rest)
  | .character '[' :: rest => .ok (.openBracket, rest)
  | .character ']' :: .character ']' :: .character '>' :: rest => .ok (.conditional, rest)
  | [.character ']', .character ']'] => .error .unclosed
  | .character ']' :: rest => .ok (.closeBracket, rest)
  | .character '(' :: rest => .ok (.openParen, rest)
  | .character ')' :: rest => afterParen rest
  | .character '|' :: rest => .ok (.bar, rest)
  | .character '>' :: rest => .ok (.close, rest)
  | .character '#' :: rest => hashNameBody latin rest
  | .character c :: rest =>
    if isSpace c then .ok (.blank, dropBlanks rest)
    else if isNameStart latin c then nameBody latin .plain input
    else if isNameCharacter latin c then nameBody latin .token input
    else if c = ':' then do
      let (token, rest) ← nameBody latin .token rest
      match token with
      | .name shape text => return (.name shape (':' :: text), rest)
      | token => return (token, rest)
    else .error (.invalid input.length)
  | rest => .error (refuse rest)

end PrologToken

end Jp2Render.Xml
