import Jp2Render.Text.Printable

/-!
Text in quotes, as messages show it. Single quotes are used unless the text has single quotes and
no double ones. Back slashes, the quote itself and unseen characters are escaped.
-/

namespace Jp2Render.Text

/-- A number in lower-case hexadecimal, padded with zeros to the given width. -/
def hexText (width n : Nat) : String :=
  let digits := Nat.toDigits 16 n
  String.ofList (List.replicate (width - digits.length) '0' ++ digits)

def hexEscape (n : Nat) : String :=
  if n < 0x100 then "\\x" ++ hexText 2 n
  else if n < 0x10000 then "\\u" ++ hexText 4 n
  else "\\U" ++ hexText 8 n

def escaped (quote c : Char) : String :=
  if c = quote || c = '\\' then String.ofList ['\\', c]
  else if c = '\n' then "\\n"
  else if c = '\r' then "\\r"
  else if c = '\t' then "\\t"
  else if isPrintable c then String.singleton c
  else hexEscape c.toNat

def quoteFor (cs : List Char) : Char :=
  if '\''  ∈ cs && !('"' ∈ cs) then '"' else '\''

def quoted (s : String) : String :=
  let quote := quoteFor s.toList
  String.singleton quote ++ String.join (s.toList.map (escaped quote)) ++ String.singleton quote

/-- How a byte stands inside quotes: only the visible part of ASCII is written as it is. -/
def escapedByte (quote : Char) (byte : UInt8) : String :=
  if 127 ≤ byte.toNat then "\\x" ++ hexText 2 byte.toNat
  else
    let c := Char.ofNat byte.toNat
    if isPrintable c then escaped quote c
    else if c = '\n' || c = '\r' || c = '\t' then escaped quote c
    else "\\x" ++ hexText 2 byte.toNat

def quotedBytes (bytes : List UInt8) : String :=
  let quote := quoteFor (bytes.map fun byte => Char.ofNat byte.toNat)
  "b" ++ String.singleton quote ++ String.join (bytes.map (escapedByte quote)) ++
    String.singleton quote

def quotedUpTo (limit : Nat) (s : String) : String :=
  String.ofList ((quoted s).toList.take limit)

end Jp2Render.Text
