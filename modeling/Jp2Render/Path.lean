import Jp2Render.Text.Fields

/-!
Paths of files. A path is a root and the names below it. Empty names and single dots say nothing
and are dropped; two dots are kept, since what they mean depends on links. Exactly two leading
slashes are a root of their own.
-/

namespace Jp2Render

inductive PathRoot where
  | relative
  | slash
  | twoSlashes
deriving DecidableEq, Repr

def PathRoot.text : PathRoot → String
  | .relative => ""
  | .slash => "/"
  | .twoSlashes => "//"

structure Path where
  root : PathRoot
  names : List String
deriving DecidableEq, Repr

namespace Path

def rootOf : (leadingSlashes : Nat) → PathRoot
  | 0 => .relative
  | 2 => .twoSlashes
  | _ => .slash

def isName (cs : List Char) : Bool := !(cs.isEmpty || cs = ['.'])

def namesOf (cs : List Char) : List String :=
  ((Text.fields '/' cs).filter isName).map String.ofList

def ofText (text : String) : Path :=
  { root := rootOf (text.toList.takeWhile (· = '/')).length
    names := namesOf text.toList }

def text (p : Path) : String :=
  if p.root = .relative && p.names.isEmpty then "."
  else p.root.text ++ String.intercalate "/" p.names

def name (p : Path) : String := p.names.getLastD ""

def parent (p : Path) : Path := { p with names := p.names.dropLast }

def suffix (p : Path) : String :=
  match Text.cutLast? '.' p.name.toList with
  | some (_ :: _, c :: rest) => String.ofList ('.' :: c :: rest)
  | _ => ""

def isAbsolute (p : Path) : Bool := p.root ≠ .relative

def within (directory p : Path) : Path :=
  if p.isAbsolute then p else { directory with names := directory.names ++ p.names }

/-- Where users live: the directory of whoever runs the program, and those of users by name. -/
structure Homes where
  own : String
  ofUser : String → Option String

def homeOf? (homes : Homes) (name : String) : Option String :=
  match name.toList with
  | ['~'] => some homes.own
  | _ :: user => homes.ofUser (String.ofList user)
  | [] => none

/-- The path with a leading tilde replaced by a home directory; none if the user is not known. -/
def expandHome (homes : Homes) (p : Path) : Option Path :=
  match p.root, p.names with
  | .relative, first :: rest =>
    if first.toList.head? = some '~' then
      (homeOf? homes first).map fun home => (ofText home).within ⟨.relative, rest⟩
    else some p
  | _, _ => some p

theorem within_absolute (directory p : Path) (absolute : directory.isAbsolute = true) :
    (within directory p).isAbsolute = true := by
  unfold within
  split
  · assumption
  · exact absolute

end Path

end Jp2Render
