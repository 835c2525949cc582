import Jp2Render.Picture.Fault
import Jp2Render.Text.Quoted

/-!
Why bytes are no picture in one of the Netpbm formats.
-/

namespace Jp2Render

inductive NetpbmFault where
  | unidentified
  | headerEnds
  | headerTokenTooLong (token : Bytes)
  | notAnInteger (token : Bytes)
  | notAReal (token : Bytes)
  | maxvalOutOfRange
  | scaleOutOfRange
  | truncated (unprocessed : Nat)
  | tooLittleData
  | dataTokenTooLong (token : Bytes)
  | invalidBit (byte : UInt8)
  | negativeSample (value : Int)
  | sampleTooLarge (value : Int)
  | sideTooLong
  | outOfMemory
deriving DecidableEq, Repr

namespace NetpbmFault

def faultClass : NetpbmFault → FaultClass
  | .unidentified | .truncated _ => .system
  | .sideTooLong => .other
  | .outOfMemory => .memory
  | _ => .value

def shownBytes (message : String) (bytes : Bytes) : FaultText :=
  let text := Text.quotedBytes (Bytes.ofText message ++ bytes)
  ⟨"ValueError", text, "ValueError(" ++ text ++ ")"⟩

def shown : NetpbmFault → FaultText
  | .unidentified =>
    .ofMessage "UnidentifiedImageError" "cannot identify image file <_io.BytesIO>"
  | .headerEnds => .value "Reached EOF while reading header"
  | .headerTokenTooLong token => shownBytes "Token too long in file header: " token
  | .notAnInteger token =>
    .value ("invalid literal for int() with base 10: " ++ Text.quotedBytes token)
  | .notAReal token => .value ("could not convert string to float: " ++ Text.quotedBytes token)
  | .maxvalOutOfRange => .value "maxval must be greater than 0 and less than 65536"
  | .scaleOutOfRange => .value "scale must be finite and non-zero"
  | .truncated unprocessed =>
    .ofMessage "OSError"
      ("image file is truncated (" ++ Nat.repr unprocessed ++ " bytes not processed)")
  | .tooLittleData => .value "not enough image data"
  | .dataTokenTooLong token => shownBytes "Token too long found in data: " token
  | .invalidBit byte => shownBytes "Invalid token for this mode: " [byte]
  | .negativeSample value => .value ("Channel value is negative: " ++ toString value)
  | .sampleTooLarge value => .value ("Channel value too large for this mode: " ++ toString value)
  | .sideTooLong => .ofMessage "OverflowError" "signed integer is greater than maximum"
  | .outOfMemory => .ofBareMessage "MemoryError" ""

def toLibrary (fault : NetpbmFault) : LibraryFault where
  faultClass := fault.faultClass
  text := fault.shown
  foreign := by cases fault <;> rfl

end NetpbmFault

end Jp2Render
