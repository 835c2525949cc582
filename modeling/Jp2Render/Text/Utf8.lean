import Jp2Render.Bytes
import Jp2Render.Text.Quoted

/-!
UTF-8. At each position of a byte string there is either a character, or an invalid part: the
longest prefix that could still have become a character, at least one byte. Text is read strictly,
so that the first invalid part is an error, or with a replacement character for each invalid part.
-/

namespace Jp2Render.Text.Utf8

inductive Invalidity where
  | startByte
  | continuationByte
  | endOfData
deriving DecidableEq, Repr

def Invalidity.text : Invalidity → String
  | .startByte => "invalid start byte"
  | .continuationByte => "invalid continuation byte"
  | .endOfData => "unexpected end of data"

/-- What stands at the start of some bytes, and how many of them it takes. -/
inductive Piece where
  | character (c : Char) (length : Nat)
  | invalid (reason : Invalidity) (length : Nat)
deriving Repr

def Piece.length : Piece → Nat
  | .character _ n => n
  | .invalid _ n => n

def isContinuation (b : UInt8) : Bool := 0x80 ≤ b && b < 0xC0

/-- Whether a byte may follow a first byte of three or four: neither overlong forms, nor
surrogates, nor values past the last character are allowed. -/
def isSecond (first b : UInt8) : Bool :=
  isContinuation b &&
    (first != 0xE0 || 0xA0 ≤ b) && (first != 0xED || b < 0xA0) &&
    (first != 0xF0 || 0x90 ≤ b) && (first != 0xF4 || b < 0x90)

def payload (b : UInt8) : Nat := b.toNat % 64

def two (a b : UInt8) : Piece :=
  .character (Char.ofNat (a.toNat % 32 * 64 + payload b)) 2

def three (a b c : UInt8) : Piece :=
  .character (Char.ofNat (a.toNat % 16 * 4096 + payload b * 64 + payload c)) 3

def four (a b c d : UInt8) : Piece :=
  .character (Char.ofNat (a.toNat % 8 * 262144 + payload b * 4096 + payload c * 64 + payload d)) 4

def afterFirstOfTwo (a : UInt8) : Bytes → Piece
  | [] => .invalid .endOfData 1
  | b :: _ => if isContinuation b then two a b else .invalid .continuationByte 1

def afterFirstOfThree (a : UInt8) : Bytes → Piece
  | [] => .invalid .endOfData 1
  | b :: rest =>
    if !isSecond a b then .invalid .continuationByte 1
    else
      match rest with
      | [] => .invalid .endOfData 2
      | c :: _ => if isContinuation c then three a b c else .invalid .continuationByte 2

def afterFirstOfFour (a : UInt8) : Bytes → Piece
  | [] => .invalid .endOfData 1
  | b :: rest =>
    if !isSecond a b then .invalid .continuationByte 1
    else
      match rest with
      | [] => .invalid .endOfData 2
      | c :: rest =>
        if !isContinuation c then .invalid .continuationByte 2
        else
          match rest with
          | [] => .invalid .endOfData 3
          | d :: _ => if isContinuation d then four a b c d else .invalid .continuationByte 3

def pieceAt (first : UInt8) (rest : Bytes) : Piece :=
  if first < 0x80 then .character (Char.ofNat first.toNat) 1
  else if first < 0xC2 then .invalid .startByte 1
  else if first < 0xE0 then afterFirstOfTwo first rest
  else if first < 0xF0 then afterFirstOfThree first rest
  else if first < 0xF5 then afterFirstOfFour first rest
  else .invalid .startByte 1

def piecesOnto (before : List Piece) : Bytes → List Piece
  | [] => before
  | first :: rest =>
    let piece := pieceAt first rest
    piecesOnto (piece :: before) (rest.drop (piece.length - 1))
termination_by bytes => bytes.length
decreasing_by simp only [List.length_drop, List.length_cons]; omega

def pieces (bytes : Bytes) : List Piece := (piecesOnto [] bytes).reverse

def replacement : Char := '\ufffd'

def Piece.shown : Piece → Char
  | .character c _ => c
  | .invalid _ _ => replacement

def replacing (bytes : Bytes) : String := String.ofList ((pieces bytes).map Piece.shown)

/-- An invalid part: where it stands, how long it is, and its first byte. -/
structure Fault where
  reason : Invalidity
  position : Nat
  length : Nat
  first : UInt8
deriving DecidableEq, Repr

def Fault.message (fault : Fault) : String :=
  let place :=
    if fault.length = 1 then
      "byte 0x" ++ hexText 2 fault.first.toNat ++ " in position " ++ Nat.repr fault.position
    else
      "bytes in position " ++ Nat.repr fault.position ++ "-" ++
        Nat.repr (fault.position + fault.length - 1)
  "'utf-8' codec can't decode " ++ place ++ ": " ++ fault.reason.text

def charactersOf (bytes : Bytes) : (position : Nat) → List Piece → Except Fault (List Char)
  | _, [] => .ok []
  | position, .character c n :: rest => do return c :: (← charactersOf bytes (position + n) rest)
  | position, .invalid reason n :: _ =>
    .error ⟨reason, position, n, (bytes[position]?).getD 0⟩

def strict (bytes : Bytes) : Except Fault String :=
  (charactersOf bytes 0 (pieces bytes)).map String.ofList

end Jp2Render.Text.Utf8
