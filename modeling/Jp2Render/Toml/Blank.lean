import Jp2Render.Toml.Fault

/-!
Blanks, ends of lines and comments between the parts of a configuration document.
-/

namespace Jp2Render.Toml

def isControl (c : Char) : Bool := (c.toNat < 32 && c ≠ '\t') || c.toNat = 127

def isBlank (c : Char) : Bool := c = ' ' || c = '\t'

def isBlankOrLineEnd (c : Char) : Bool := isBlank c || c = '\n'

def dropBlanks (cs : List Char) : List Char := cs.dropWhile isBlank

def startsWith (expected cs : List Char) : Bool := expected.isPrefixOf cs

def checkBefore (forbidden : Char → Bool) (passed rest : List Char) : Except Fault Unit :=
  match passed.dropWhile (!forbidden ·) with
  | [] => .ok ()
  | c :: after => .error (Problem.forbidden c |>.here (c :: after ++ rest))

def dropComment (cs : List Char) : Except Fault (List Char) :=
  match cs with
  | '#' :: rest => do
    let left := rest.dropWhile (· ≠ '\n')
    checkBefore isControl (rest.takeWhile (· ≠ '\n')) left
    return left
  | _ => .ok cs

def dropGaps (cs : List Char) : Except Fault (List Char) :=
  match dropComment (cs.dropWhile isBlankOrLineEnd) with
  | .error fault => .error fault
  | .ok rest => if _shorter : rest.length < cs.length then dropGaps rest else .ok rest
termination_by cs.length

end Jp2Render.Toml
