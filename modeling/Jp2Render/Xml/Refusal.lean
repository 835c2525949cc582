import Jp2Render.Text.Quoted

/-!
Why a document is refused. A malformed document is refused at a place in it; a document that
declares an entity is refused whatever the entity is for; and a document may be in an encoding that
cannot be read.
-/

namespace Jp2Render.Xml

inductive Malformation where
  | unexpected
  | noElement
  | invalidToken
  | unclosedToken
  | partialCharacter
  | mismatchedTag
  | duplicateAttribute
  | junkAfterElement
  | parameterReference
  | undefinedEntity
  | invalidCharacterNumber
  | misplacedDeclaration
  | unknownEncoding
  | incorrectEncoding
  | unclosedCdata
  | unboundPrefix
  | undeclaredPrefix
  | malformedDeclaration
  | publicIdentifier
  | reservedXmlPrefix
  | reservedXmlnsPrefix
  | reservedNamespace
deriving DecidableEq, Repr

def Malformation.text : Malformation → String
  | .unexpected => "syntax error"
  | .noElement => "no element found"
  | .invalidToken => "not well-formed (invalid token)"
  | .unclosedToken => "unclosed token"
  | .partialCharacter => "partial character"
  | .mismatchedTag => "mismatched tag"
  | .duplicateAttribute => "duplicate attribute"
  | .junkAfterElement => "junk after document element"
  | .parameterReference => "illegal parameter entity reference"
  | .undefinedEntity => "undefined entity"
  | .invalidCharacterNumber => "reference to invalid character number"
  | .misplacedDeclaration => "XML or text declaration not at start of entity"
  | .unknownEncoding => "unknown encoding"
  | .incorrectEncoding => "encoding specified in XML declaration is incorrect"
  | .unclosedCdata => "unclosed CDATA section"
  | .unboundPrefix => "unbound prefix"
  | .undeclaredPrefix => "must not undeclare prefix"
  | .malformedDeclaration => "XML declaration not well-formed"
  | .publicIdentifier => "illegal character(s) in public id"
  | .reservedXmlPrefix =>
    "reserved prefix (xml) must not be undeclared or bound to another namespace name"
  | .reservedXmlnsPrefix => "reserved prefix (xmlns) must not be declared or undeclared"
  | .reservedNamespace => "prefix must not be bound to one of the reserved namespace names"

/-- A place in a document: lines count from one, columns from zero. -/
structure Place where
  line : Nat
  column : Nat
deriving DecidableEq, Repr

def Place.text (p : Place) : String :=
  "line " ++ Nat.repr p.line ++ ", column " ++ Nat.repr p.column

/-- Why a document cannot be read in the encoding of the name that it declares. -/
inductive EncodingFault where
  | unknown (name : String)
  | notText (name : String)
  | wide
  | undecodable (name reason : String)
  | punycode
deriving DecidableEq, Repr

namespace EncodingFault

def kind : EncodingFault → String
  | .unknown _ | .notText _ => "LookupError"
  | .wide => "ValueError"
  | .undecodable _ _ => "UnicodeError"
  | .punycode => "UnicodeDecodeError"

def message : EncodingFault → String
  | .unknown name => "unknown encoding: " ++ name
  | .notText name =>
    "'" ++ String.ofList (name.toList.take 400) ++
      "' is not a text encoding; use codecs.decode() to handle arbitrary codecs"
  | .wide => "multi-byte encodings are not supported"
  | .undecodable name reason =>
    "decoding with '" ++ name ++ "' codec failed (UnicodeError: " ++ reason ++ ")"
  | .punycode => "'ascii' codec can't decode byte 0x80 in position 82: ordinal not in range(128)"

end EncodingFault

inductive Refusal (P : Type) where
  | malformed (how : Malformation) (place : P)
  /-- A reference that might have been defined in a part of the document that is not read. -/
  | unresolved (entity : String) (place : P)
  | entityDeclared (name : String) (systemId publicId : Option String)
  | encoding (fault : EncodingFault)
deriving DecidableEq, Repr

namespace Refusal

def map {P Q : Type} (f : P → Q) : Refusal P → Refusal Q
  | .malformed how place => .malformed how (f place)
  | .unresolved entity place => .unresolved entity (f place)
  | .entityDeclared name systemId publicId => .entityDeclared name systemId publicId
  | .encoding fault => .encoding fault

def identifierText : Option String → String
  | some identifier => Text.quoted identifier
  | none => "None"

def message : Refusal Place → String
  | .malformed how place => how.text ++ ": " ++ place.text
  | .unresolved entity place => "undefined entity &" ++ entity ++ ";: " ++ place.text
  | .entityDeclared name systemId publicId =>
    "EntitiesForbidden(name='" ++ name ++ "', system_id=" ++ identifierText systemId ++
      ", public_id=" ++ identifierText publicId ++ ")"
  | .encoding fault => fault.message

end Refusal

end Jp2Render.Xml
