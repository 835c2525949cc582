import Jp2Render.Arithmetic
import Jp2Render.Command
import Jp2Render.Process.Stream

/-!
How faults are shown. Every fault has a kind with a name and a message; records of what caused a
failure show both in one line.
-/

namespace Jp2Render

structure FaultText where
  kind : String
  message : String
  display : String
deriving DecidableEq, Repr

namespace FaultText

def ofMessage (kind message : String) : FaultText :=
  ⟨kind, message, kind ++ "(" ++ Text.quoted message ++ ")"⟩

def ofBareMessage (kind message : String) : FaultText :=
  if message.isEmpty then ⟨kind, message, kind ++ "()"⟩ else ofMessage kind message

def value (message : String) : FaultText := ofMessage "ValueError" message

def nullByte : FaultText := value "embedded null byte"

end FaultText

/-- Faults that can be shown, together with the fault beneath if there is one. -/
class Fault (ε : Type) where
  shown : ε → FaultText
  cause? : ε → Option FaultText := fun _ => none

def SystemError.shown (e : SystemError) : FaultText := ⟨e.kind, e.message, e.display⟩

def ReadFault.shown (fault : ReadFault) : FaultText := ⟨fault.kind, fault.message, fault.display⟩

def CommandFault.shown (fault : CommandFault) : FaultText := .value fault.message

def ArithmeticFault.kind : ArithmeticFault → String
  | .divisionByZero | .realDivisionByZero => "ZeroDivisionError"
  | .integerTooLarge | .quotientTooLarge | .infinityHasNoInteger => "OverflowError"
  | .notANumberHasNoInteger => "ValueError"

def ArithmeticFault.shown (fault : ArithmeticFault) : FaultText :=
  .ofMessage fault.kind fault.message

instance : Fault SystemError where shown := SystemError.shown
instance : Fault ReadFault where shown := ReadFault.shown
instance : Fault CommandFault where shown := CommandFault.shown
instance : Fault ArithmeticFault where shown := ArithmeticFault.shown

end Jp2Render
