import Jp2Render.Xml.PrologToken
import Jp2Render.Xml.Value

/-!
The document type. Its declarations are read token by token: at each point it is known what may come
next. Two things that it says matter later: default attributes, since they may bind prefixes, and
whether there are declarations that are not read, since an undefined entity might be defined there.
An entity's declaration ends the reading.
-/

namespace Jp2Render.Xml

structure EntityDraft where
  name : String
  isParameter : Bool
  systemId : Option String
  publicId : Option String
deriving DecidableEq, Repr

/-- How the parts of a group of elements are joined, once that is settled. -/
inductive Joint where
  | sequence
  | choice
deriving DecidableEq, Repr

inductive Expected where
  | name
  | externalIdOrBody
  | publicId
  | systemId
  | bodyOrEnd
  | declaration
  | finish
  | finished
  | entityName
  | parameterName
  | entityValue (draft : EntityDraft)
  | entityPublicId (draft : EntityDraft)
  | entitySystemId (draft : EntityDraft)
  | entityEnd (draft : EntityDraft)
  | notationOfEntity (draft : EntityDraft)
  | notationName
  | notationId
  | notationPublicId
  | notationSystemId
  | notationSystemIdOrEnd
  | attributeElement
  | attributeName (element : List Char)
  | attributeType (element key : List Char)
  | enumeration (element key : List Char)
  | enumerationNext (element key : List Char)
  | notationList (element key : List Char)
  | notationGroup (element key : List Char)
  | notationGroupNext (element key : List Char)
  | attributeDefault (element key : List Char)
  | fixedValue (element key : List Char)
  | elementName
  | contentModel
  | modelStart
  | mixedStart
  | mixedName
  | mixedNext
  | groupItem (groups : List (Option Joint))
  | groupNext (groups : List (Option Joint))
  | declarationEnd
deriving DecidableEq, Repr

structure DefaultAttribute where
  element : List Char
  key : List Char
  value : Option String
deriving DecidableEq, Repr

structure Declarations where
  countsLatin : Bool := false
  standalone : Bool := false
  hasUnread : Bool := false
  counts : Bool := true
  defaults : List DefaultAttribute := []
deriving DecidableEq, Repr

def Declarations.mustBeDefined (d : Declarations) : Bool := !d.hasUnread || d.standalone

def Declarations.withDefault (d : Declarations) (element key : List Char)
    (value : Option String) : Declarations :=
  let known := d.defaults.any fun a => a.element = element && a.key = key
  if !d.counts || (value.isSome && known) then d
  else { d with defaults := d.defaults ++ [⟨element, key, value⟩] }

namespace Doctype

def isPublicIdCharacter (c : Char) : Bool :=
  c.isAlphanum || c ∈ [' ', '\r', '\n', '-', '\'', '(', ')', '+', ',', '.', '/', ':', '=', '?', ';',
    '!', '*', '#', '@', '$', '_', '%']

/-- A public identifier has only some characters. `left` symbols follow the literal's text. -/
def checkPublicId (text : List Char) (left : Nat) : Except (Refusal Nat) Unit :=
  match text.dropWhile isPublicIdCharacter with
  | [] => .ok ()
  | rest => .error (.malformed .publicIdentifier (rest.length + left))

def publicIdText (text : List Char) : String :=
  let blankless := text.map fun c => if c = '\r' || c = '\n' then ' ' else c
  String.intercalate " " (((String.ofList blankless).splitOn " ").filter (!·.isEmpty))

def draftOf (name : List Char) (isParameter : Bool) : EntityDraft :=
  ⟨String.ofList name, isParameter, none, none⟩

def declares (d : Declarations) (draft : EntityDraft) : Bool :=
  d.counts && (draft.isParameter || (knownEntities.lookup draft.name).isNone)

def refuseEntity (d : Declarations) (draft : EntityDraft) : Except (Refusal Nat) Unit :=
  if declares d draft then .error (.entityDeclared draft.name draft.systemId draft.publicId)
  else .ok ()

def checkEntityValue (latin : Bool) (left : Nat) : Nat → Input → Except (Refusal Nat) Unit
  | 0, _ => .ok ()
  | fuel + 1, input =>
    match input with
    | .character '&' :: rest =>
      match Scan.reference latin rest with
      | .error (.invalid inside) => .error (.malformed .invalidToken (inside + left))
      | .error _ => .error (.malformed .invalidToken (input.length + left))
      | .ok (found, rest) =>
        match resolve found with
        | .invalidNumber => .error (.malformed .invalidCharacterNumber (input.length + left))
        | _ => checkEntityValue latin left fuel rest
    | .character '%' :: rest =>
      match PrologToken.afterPercent latin rest with
      | .error (.invalid inside) => .error (.malformed .invalidToken (inside + left))
      | .error _ => .error (.malformed .invalidToken (input.length + left))
      | .ok (.percent, rest) => .error (.malformed .invalidToken (rest.length + left))
      | .ok _ => .error (.malformed .parameterReference (input.length + left))
    | _ :: rest => checkEntityValue latin left fuel rest
    | [] => .ok ()

structure TokenPlace where
  start : Nat
  afterText : Nat

def unexpected (token : PrologToken) (place : TokenPlace) : Refusal Nat :=
  match token with
  | .parameterReference => .malformed .parameterReference place.start
  | .declaration _ => .malformed .misplacedDeclaration place.start
  | _ => .malformed .unexpected place.start

def joined (joint : Joint) (place : TokenPlace) :
    List (Option Joint) → Except (Refusal Nat) (List (Option Joint))
  | [] => .ok []
  | some other :: groups =>
    if other = joint then .ok (some other :: groups)
    else .error (.malformed .unexpected place.start)
  | none :: groups => .ok (some joint :: groups)

def attributeTypes : List String :=
  ["CDATA", "ID", "IDREF", "IDREFS", "ENTITY", "ENTITIES", "NMTOKEN", "NMTOKENS"]

def afterGroup : List (Option Joint) → Expected
  | _ :: outer :: groups => .groupNext (outer :: groups)
  | _ => .declarationEnd

def afterKeyword (keyword : List Char) : Option Expected :=
  match String.ofList keyword with
  | "ENTITY" => some .entityName
  | "ATTLIST" => some .attributeElement
  | "ELEMENT" => some .elementName
  | "NOTATION" => some .notationName
  | _ => none

abbrev Step := Except (Refusal Nat) (Declarations × Expected)

def stepHead (d : Declarations) (place : TokenPlace) (token : PrologToken) :
    Expected → Option Step
  | .name =>
    match token with
    | .name .token _ => none
    | .name _ _ => some (.ok (d, .externalIdOrBody))
    | _ => none
  | .externalIdOrBody =>
    match token with
    | .openBracket => some (.ok (d, .declaration))
    | .close => some (.ok (d, .finished))
    | .name .plain text =>
      if text = "SYSTEM".toList then some (.ok (d, .systemId))
      else if text = "PUBLIC".toList then some (.ok (d, .publicId))
      else none
    | _ => none
  | .publicId =>
    match token with
    | .literal text =>
      some ((checkPublicId text place.afterText).map fun _ =>
        ({ d with hasUnread := true }, .systemId))
    | _ => none
  | .systemId =>
    match token with
    | .literal _ => some (.ok ({ d with hasUnread := true }, .bodyOrEnd))
    | _ => none
  | .bodyOrEnd =>
    match token with
    | .openBracket => some (.ok (d, .declaration))
    | .close => some (.ok (d, .finished))
    | _ => none
  | .declaration =>
    match token with
    | .opening keyword => (afterKeyword keyword).map fun expected => .ok (d, expected)
    | .aside => some (.ok (d, .declaration))
    | .parameterReference =>
      some (.ok ({ d with hasUnread := true, counts := d.standalone }, .declaration))
    | .closeBracket => some (.ok (d, .finish))
    | _ => none
  | .declarationEnd =>
    match token with
    | .close => some (.ok (d, .declaration))
    | _ => none
  | .finish =>
    match token with
    | .close => some (.ok (d, .finished))
    | _ => none
  | _ => none

def stepEntity (d : Declarations) (place : TokenPlace) (token : PrologToken) :
    Expected → Option Step
  | .entityName =>
    match token with
    | .percent => some (.ok (d, .parameterName))
    | .name .plain text => some (.ok (d, .entityValue (draftOf text false)))
    | _ => none
  | .parameterName =>
    match token with
    | .name .plain text => some (.ok (d, .entityValue (draftOf text true)))
    | _ => none
  | .entityValue draft =>
    match token with
    | .literal text => some do
      if d.counts then
        refuseEntity d draft
        checkEntityValue d.countsLatin place.afterText (text.length + 1) (text.map Symbol.character)
      return (d, .declarationEnd)
    | .name .plain text =>
      if text = "SYSTEM".toList then some (.ok (d, .entitySystemId draft))
      else if text = "PUBLIC".toList then some (.ok (d, .entityPublicId draft))
      else none
    | _ => none
  | .entityPublicId draft =>
    match token with
    | .literal text => some do
      checkPublicId text place.afterText
      return (d, .entitySystemId { draft with publicId := some (publicIdText text) })
    | _ => none
  | .entitySystemId draft =>
    match token with
    | .literal text =>
      some (.ok (d, .entityEnd { draft with systemId := some (String.ofList text) }))
    | _ => none
  | .entityEnd draft =>
    match token with
    | .close => some ((refuseEntity d draft).map fun _ => (d, .declaration))
    | .name .plain text =>
      if text = "NDATA".toList && !draft.isParameter then some (.ok (d, .notationOfEntity draft))
      else none
    | _ => none
  | .notationOfEntity draft =>
    match token with
    | .name .plain _ => some ((refuseEntity d draft).map fun _ => (d, .declarationEnd))
    | _ => none
  | _ => none

def stepNotation (d : Declarations) (place : TokenPlace) (token : PrologToken) :
    Expected → Option Step
  | .notationName =>
    match token with
    | .name .plain _ => some (.ok (d, .notationId))
    | _ => none
  | .notationId =>
    match token with
    | .name .plain text =>
      if text = "SYSTEM".toList then some (.ok (d, .notationSystemId))
      else if text = "PUBLIC".toList then some (.ok (d, .notationPublicId))
      else none
    | _ => none
  | .notationPublicId =>
    match token with
    | .literal text =>
      some ((checkPublicId text place.afterText).map fun _ => (d, .notationSystemIdOrEnd))
    | _ => none
  | .notationSystemId =>
    match token with
    | .literal _ => some (.ok (d, .declarationEnd))
    | _ => none
  | .notationSystemIdOrEnd =>
    match token with
    | .literal _ => some (.ok (d, .declarationEnd))
    | .close => some (.ok (d, .declaration))
    | _ => none
  | _ => none

def defaultValue (d : Declarations) (place : TokenPlace) (element key text : List Char) :
    Step :=
  if !d.counts then .ok (d, .attributeName element)
  else do
    let value ← valueText d.countsLatin d.mustBeDefined place.start place.afterText text
    return (d.withDefault element key (some value), .attributeName element)

def stepAttribute (d : Declarations) (place : TokenPlace) (token : PrologToken) :
    Expected → Option Step
  | .attributeElement =>
    match token with
    | .name .token _ => none
    | .name _ text => some (.ok (d, .attributeName text))
    | _ => none
  | .attributeName element =>
    match token with
    | .close => some (.ok (d, .declaration))
    | .name .token _ => none
    | .name _ text => some (.ok (d, .attributeType element text))
    | _ => none
  | .attributeType element key =>
    match token with
    | .name .plain text =>
      if String.ofList text ∈ attributeTypes then some (.ok (d, .attributeDefault element key))
      else if text = "NOTATION".toList then some (.ok (d, .notationList element key))
      else none
    | .openParen => some (.ok (d, .enumeration element key))
    | _ => none
  | .enumeration element key =>
    match token with
    | .name _ _ => some (.ok (d, .enumerationNext element key))
    | _ => none
  | .enumerationNext element key =>
    match token with
    | .closeParen _ false => some (.ok (d, .attributeDefault element key))
    | .bar => some (.ok (d, .enumeration element key))
    | _ => none
  | .notationList element key =>
    match token with
    | .openParen => some (.ok (d, .notationGroup element key))
    | _ => none
  | .notationGroup element key =>
    match token with
    | .name .plain _ => some (.ok (d, .notationGroupNext element key))
    | _ => none
  | .notationGroupNext element key =>
    match token with
    | .closeParen _ false => some (.ok (d, .attributeDefault element key))
    | .bar => some (.ok (d, .notationGroup element key))
    | _ => none
  | .attributeDefault element key =>
    match token with
    | .hashName text =>
      match String.ofList text with
      | "IMPLIED" | "REQUIRED" =>
        some (.ok (d.withDefault element key none, .attributeName element))
      | "FIXED" => some (.ok (d, .fixedValue element key))
      | _ => none
    | .literal text => some (defaultValue d place element key text)
    | _ => none
  | .fixedValue element key =>
    match token with
    | .literal text => some (defaultValue d place element key text)
    | _ => none
  | _ => none

def stepElement (d : Declarations) (place : TokenPlace) (token : PrologToken) :
    Expected → Option Step
  | .elementName =>
    match token with
    | .name .token _ => none
    | .name _ _ => some (.ok (d, .contentModel))
    | _ => none
  | .contentModel =>
    match token with
    | .name .plain text =>
      if text = "EMPTY".toList || text = "ANY".toList then some (.ok (d, .declarationEnd)) else none
    | .openParen => some (.ok (d, .modelStart))
    | _ => none
  | .modelStart =>
    match token with
    | .hashName text => if text = "PCDATA".toList then some (.ok (d, .mixedStart)) else none
    | .openParen => some (.ok (d, .groupItem [none, none]))
    | .name .token _ => none
    | .name _ _ => some (.ok (d, .groupNext [none]))
    | .repeated => some (.ok (d, .groupNext [none]))
    | _ => none
  | .mixedStart =>
    match token with
    | .closeParen star marked => if star || !marked then some (.ok (d, .declarationEnd)) else none
    | .bar => some (.ok (d, .mixedName))
    | _ => none
  | .mixedName =>
    match token with
    | .name .token _ => none
    | .name _ _ => some (.ok (d, .mixedNext))
    | _ => none
  | .mixedNext =>
    match token with
    | .closeParen true _ => some (.ok (d, .declarationEnd))
    | .bar => some (.ok (d, .mixedName))
    | _ => none
  | .groupItem groups =>
    match token with
    | .openParen => some (.ok (d, .groupItem (none :: groups)))
    | .name .token _ => none
    | .name _ _ => some (.ok (d, .groupNext groups))
    | .repeated => some (.ok (d, .groupNext groups))
    | _ => none
  | .groupNext groups =>
    match token with
    | .closeParen _ _ => some (.ok (d, afterGroup groups))
    | .comma => some ((joined .sequence place groups).map fun groups => (d, .groupItem groups))
    | .bar => some ((joined .choice place groups).map fun groups => (d, .groupItem groups))
    | _ => none
  | _ => none

def step (d : Declarations) (expected : Expected) (place : TokenPlace) (token : PrologToken) :
    Step :=
  if token = .blank then .ok (d, expected)
  else
    let next :=
      stepHead d place token expected <|> stepEntity d place token expected <|>
        stepNotation d place token expected <|> stepAttribute d place token expected <|>
        stepElement d place token expected
    next.getD (.error (unexpected token place))

end Doctype

end Jp2Render.Xml
