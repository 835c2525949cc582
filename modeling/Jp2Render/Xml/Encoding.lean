import Jp2Render.Bytes
import Jp2Render.Text.Utf8
import Jp2Render.Xml.Charset
import Jp2Render.Xml.NameCharacter

/-!
From bytes to symbols. A symbol is a character, or a place where the bytes are none: malformed, or
cut off by the end. The encoding of a document shows in its first bytes; a declaration may then
name another one.
-/

namespace Jp2Render.Xml

inductive Symbol where
  | character (c : Char)
  /-- No character, and whether its first byte is one that characters of several bytes start
  with. -/
  | malformed (leads : Bool)
  | truncated
deriving DecidableEq, Repr

abbrev Input := List Symbol

inductive Encoding where
  | utf8
  | utf16 (bigEndian : Bool)
  | charset (set : Charset)

namespace Encoding

/-- How many bytes a character takes that starts with the given byte; one if none does. -/
def lengthAt (first : UInt8) : Nat :=
  if first < 0xC0 then 1
  else if first < 0xE0 then 2
  else if first < 0xF0 then 3
  else if first < 0xF5 then 4
  else 1

def ofCharacter (leads : Bool) (c : Char) : Symbol :=
  if c.toNat = 0xFFFE || c.toNat = 0xFFFF then .malformed leads else .character c

def symbolAt (first : UInt8) (rest : Bytes) : Symbol × Nat :=
  if rest.length < lengthAt first - 1 then (.truncated, rest.length)
  else
    match Text.Utf8.pieceAt first rest with
    | .character c n => (ofCharacter true c, n - 1)
    | .invalid _ _ => (.malformed (1 < lengthAt first), 0)

def utf8Symbols : Bytes → Input
  | [] => []
  | first :: rest =>
    let (symbol, more) := symbolAt first rest
    symbol :: utf8Symbols (rest.drop more)
termination_by bytes => bytes.length
decreasing_by simp only [List.length_drop, List.length_cons]; omega

def unit (bigEndian : Bool) (a b : UInt8) : Nat :=
  if bigEndian then a.toNat * 256 + b.toNat else b.toNat * 256 + a.toNat

def isHighSurrogate (unit : Nat) : Bool := 0xD800 ≤ unit && unit < 0xDC00
def isLowSurrogate (unit : Nat) : Bool := 0xDC00 ≤ unit && unit < 0xE000

def paired (high low : Nat) : Symbol :=
  if isLowSurrogate low then
    .character (Char.ofNat (0x10000 + (high - 0xD800) * 1024 + (low - 0xDC00)))
  else .character '\ufffd'

def utf16Symbols (bigEndian : Bool) : Bytes → Input
  | a :: b :: rest =>
    let high := unit bigEndian a b
    if isHighSurrogate high then
      match rest with
      | c :: d :: rest => paired high (unit bigEndian c d) :: utf16Symbols bigEndian rest
      | _ => [.truncated]
    else if isLowSurrogate high then .malformed false :: utf16Symbols bigEndian rest
    else ofCharacter false (Char.ofNat high) :: utf16Symbols bigEndian rest
  | _ => []

def charsetSymbol (set : Charset) (b : UInt8) : Symbol :=
  if b < 0x80 then
    if b = 0x7E && !set.hasTilde then .malformed false else .character (Char.ofNat b.toNat)
  else
    match set.upper.toList[b.toNat - 128]? with
    | some c => if c = '\ufffd' then .malformed false else .character c
    | none => .malformed false

def symbols : Encoding → Bytes → Input
  | .utf8, bytes => utf8Symbols bytes
  | .utf16 bigEndian, bytes => utf16Symbols bigEndian bytes
  | .charset set, bytes => bytes.map (charsetSymbol set)

def countsLatin : Encoding → Bool
  | .utf8 => false
  | .utf16 _ => true
  | .charset set => set.countsLatin

/-- Whether a character may be part of a declaration's keyword. Above ASCII, only characters that
are one byte, or one unit whose high byte is zero, count as letters there. -/
def isLetter (encoding : Encoding) (c : Char) : Bool :=
  isNameStart encoding.countsLatin c &&
    match encoding with
    | .utf8 => c.toNat < 128
    | .utf16 _ => c.toNat < 256
    | .charset _ => true

def startsElement (encoding : Encoding) (c : Char) : Bool :=
  isNameStart encoding.countsLatin c ||
    match encoding with
    | .utf8 => 128 ≤ c.toNat
    | .utf16 _ => 256 ≤ c.toNat
    | .charset _ => false

def leavesHalfUnit : Encoding → Bytes → Bool
  | .utf16 _, bytes => bytes.length % 2 = 1
  | _, _ => false

def detect : Bytes → Encoding × Nat
  | 0xFE :: 0xFF :: _ => (.utf16 true, 2)
  | 0xFF :: 0xFE :: _ => (.utf16 false, 2)
  | 0xEF :: 0xBB :: 0xBF :: _ => (.utf8, 3)
  | 0x00 :: _ :: _ => (.utf16 true, 0)
  | _ :: 0x00 :: _ => (.utf16 false, 0)
  | _ => (.utf8, 0)

/-- Bytes that could still become a byte order mark or a first unit. -/
def isUnfinishedStart (bytes : Bytes) : Bool :=
  bytes = [0x00] || bytes = [0xFE] || bytes = [0xFF] || bytes = [0xEF] || bytes = [0xEF, 0xBB]

end Encoding

end Jp2Render.Xml
