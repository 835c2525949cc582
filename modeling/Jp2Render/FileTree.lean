import Jp2Render.Bytes
import Jp2Render.FaultText
import Jp2Render.Path
import Jp2Render.Picture.Encoded

/-!
Trees of files, as far as a name can stand for something: a directory, a file, or a link to a path.
A path is walked name by name; links on the way are followed, the last one only if that is wanted.
-/

namespace Jp2Render

namespace ErrorCode

def noEntry : ErrorCode := ⟨2, "ENOENT", "No such file or directory"⟩
def entryExists : ErrorCode := ⟨17, "EEXIST", "File exists"⟩
def notDirectory : ErrorCode := ⟨20, "ENOTDIR", "Not a directory"⟩
def isDirectory : ErrorCode := ⟨21, "EISDIR", "Is a directory"⟩
def nameTooLong : ErrorCode := ⟨36, "ENAMETOOLONG", "File name too long"⟩
def tooManyLinks : ErrorCode := ⟨40, "ELOOP", "Too many levels of symbolic links"⟩

example : ∀ code ∈ [noEntry, entryExists, notDirectory, isDirectory, nameTooLong, tooManyLinks],
    code ∈ table := by decide

end ErrorCode

inductive FileContent where
  | bytes (bytes : Bytes)
  | picture (picture : EncodedPicture)
deriving DecidableEq, Repr

inductive Entry where
  | directory
  | file (content : FileContent := .bytes [])
  | link (target : String)
deriving DecidableEq, Repr

abbrev Location := List String

def Entry.text : Entry → String
  | .directory => "dir"
  | .file _ => "file"
  | .link target => "-> " ++ target

structure FileTree where
  working : Location
  entries : List (Location × Entry)
deriving DecidableEq, Repr

namespace FileTree

def lookup (tree : FileTree) (place : Location) : Option Entry :=
  if place.isEmpty then some .directory else tree.entries.lookup place

def nameLimit : Nat := 255

def linkLimit : Nat := 40

def start (here : Location) (path : Path) : Location :=
  if path.isAbsolute then [] else here

def walk (tree : FileTree) (followLast : Bool) (links : Nat) (here : Location) :
    List String → Except ErrorCode Location
  | [] => .ok here
  | ".." :: rest => walk tree followLast links here.dropLast rest
  | name :: rest =>
    let place := here ++ [name]
    if nameLimit < name.utf8ByteSize then .error .nameTooLong
    else
      match tree.lookup place with
      | none => if rest.isEmpty then .ok place else .error .noEntry
      | some .directory => walk tree followLast links place rest
      | some (.file _) => if rest.isEmpty then .ok place else .error .notDirectory
      | some (.link target) =>
        if rest.isEmpty && !followLast then .ok place
        else
          match links with
          | 0 => .error .tooManyLinks
          | links + 1 =>
            let path := Path.ofText target
            walk tree followLast links (start here path) (path.names ++ rest)
termination_by names => (links, names.length)

def locate (tree : FileTree) (followLast : Bool) (path : Path) : Except ErrorCode Location :=
  tree.walk followLast linkLimit (start tree.working path) path.names

def entry? (tree : FileTree) (path : Path) : Option Entry :=
  match tree.locate false path with
  | .ok place => tree.lookup place
  | .error _ => none

def hasDirectory (tree : FileTree) (path : Path) : Bool :=
  match tree.locate true path with
  | .ok place => tree.lookup place = some .directory
  | .error _ => false

inductive TreeFault where
  | system (error : SystemError)
  /-- The path cannot be handed to the system. -/
  | nullByte
deriving DecidableEq, Repr

def TreeFault.shown : TreeFault → FaultText
  | .system error => error.shown
  | .nullByte => .nullByte

structure Change where
  tree : FileTree
  error : Option TreeFault := none
deriving DecidableEq, Repr

def insert (tree : FileTree) (place : Location) (entry : Entry) : FileTree :=
  { tree with entries := tree.entries ++ [(place, entry)] }

def replace (tree : FileTree) (place : Location) (entry : Entry) : FileTree :=
  { tree with entries := tree.entries.map fun e => if e.1 = place then (place, entry) else e }

def create (tree : FileTree) (path : Path) (entry : Entry) : Except ErrorCode FileTree := do
  let place ← tree.locate false path
  if (tree.lookup place).isSome then throw .entryExists
  return tree.insert place entry

def makeDirectory (tree : FileTree) (path : Path) : Change :=
  if Text.holdsNull path.text then { tree, error := some .nullByte }
  else
    match tree.create path .directory with
    | .ok changed => { tree := changed }
    | .error code => { tree, error := some (.system { code, file := some path.text }) }

def makeLink (tree : FileTree) (target : String) (path : Path) : Change :=
  if Text.holdsNull path.text then { tree, error := some .nullByte }
  else
    match tree.create path (.link target) with
    | .ok changed => { tree := changed }
    | .error code =>
      { tree, error := some (.system { code, file := some target, target := some path.text }) }

def acceptExisting (path : Path) (change : Change) : Change :=
  if change.tree.hasDirectory path then { change with error := none } else change

def makeDirectories (tree : FileTree) (path : Path) : Change :=
  let change := tree.makeDirectory path
  match change.error with
  | none | some .nullByte => change
  | some (.system error) =>
    if error.code = .noEntry then
      if _shorter : path.parent.names.length < path.names.length then
        let above := tree.makeDirectories path.parent
        if above.error.isSome then above
        else
          let change := above.tree.makeDirectory path
          if change.error.isSome then acceptExisting path change else change
      else change
    else acceptExisting path change
termination_by path.names.length

def writeFile (tree : FileTree) (path : Path) (content : FileContent := .bytes []) : Change :=
  let fail (code : ErrorCode) : Change :=
    { tree, error := some (.system { code, file := some path.text }) }
  if Text.holdsNull path.text then { tree, error := some .nullByte }
  else
    match tree.locate true path with
    | .error code => fail code
    | .ok place =>
      match tree.lookup place with
      | some .directory => fail .isDirectory
      | some _ => { tree := tree.replace place (.file content) }
      | none => { tree := tree.insert place (.file content) }

def ofWorking (working : Location) : FileTree :=
  { working
    entries := (List.range working.length).map fun i => (working.take (i + 1), .directory) }

def listing (tree : FileTree) : List (String × Entry) :=
  let below := tree.entries.filterMap fun (place, entry) =>
    if tree.working.isPrefixOf place && tree.working ≠ place then
      some (String.intercalate "/" (place.drop tree.working.length), entry)
    else none
  below.mergeSort fun a b => decide (a.1 ≤ b.1)

end FileTree

end Jp2Render
