import Jp2Render.Toml.Reading

/-!
Configuration documents: one statement a line. A statement opens a table, opens the next table of a
list, or gives a key of the table that is open a value. Tables are opened once only; what a value
holds cannot be changed by later statements.
-/

namespace Jp2Render.Toml

structure Draft where
  table : Table := []
  header : Key := []
  /-- Tables that cannot be opened by a header, nor by a dotted key. -/
  declared : List Key := []
  /-- Tables made by dotted keys since the last header, which count as declared after the next. -/
  pending : List Key := []
  /-- Lists and tables that stand as values. -/
  frozen : List Key := []

namespace Draft

def settle (draft : Draft) : Draft :=
  { draft with declared := draft.declared ++ draft.pending, pending := [] }

def openTable (draft : Draft) (key : Key) : Except Problem Draft :=
  if key ∈ draft.declared || isBelow draft.frozen key then .error (.declaredTwice key)
  else do
    return { draft with
      table := ← draft.table.update true .ok key
      header := key
      declared := key :: draft.declared }

/-- Opens a new table at the end of a list. What has been said of the key is forgotten. -/
def openItem (draft : Draft) (key : Key) : Except Problem Draft :=
  if isBelow draft.frozen key then .error (.immutable key)
  else do
    let name := key.getLastD ""
    let append (table : Table) : Except Problem Table :=
      match table.lookup name with
      | none => .ok (table.put name (.list [.table []]))
      | some (.list items) => .ok (table.put name (.list (items ++ [.table []])))
      | some _ => .error .overwritten
    let elsewhere (other : Key) : Bool := !key.isPrefixOf other
    return { draft with
      table := ← draft.table.update true append key.dropLast
      header := key
      declared := key :: draft.declared.filter elsewhere
      frozen := draft.frozen.filter elsewhere }

def leading (header key : Key) : List Key :=
  (List.range (key.length - 1)).map fun i => header ++ key.take (i + 1)

def assign (draft : Draft) (key : Key) (value : Value) : Except Problem Draft := do
  let above := leading draft.header key
  match above.find? (· ∈ draft.declared) with
  | some declared => throw (.redefined declared)
  | none => pure ()
  let parent := draft.header ++ key.dropLast
  if isBelow draft.frozen parent then throw (.immutable parent)
  let table ← draft.table.add true (fun _ => .overwritten) draft.header key value
  return { draft with
    table
    pending := draft.pending ++ above
    frozen := if value.isContainer then (draft.header ++ key) :: draft.frozen else draft.frozen }

end Draft

def header (closing : List Char) (unclosed : Problem) (open? : Key → Except Problem Draft)
    (cs : List Char) : Except Fault (Draft × List Char) := do
  let (key, left) ← key (dropBlanks cs)
  let draft ← locate left (open? key)
  if startsWith closing left then return (draft, left.drop closing.length)
  else .error (unclosed.here left)

def statement (draft : Draft) (cs : List Char) : Except Fault (Draft × List Char) :=
  match cs with
  | '[' :: '[' :: rest => header [']', ']'] .unclosedListHeader draft.settle.openItem rest
  | '[' :: rest => header [']'] .unclosedHeader draft.settle.openTable rest
  | c :: _ =>
    if isKeyStart c then do
      let ((key, value), left) ← pair (2 * cs.length + 2) cs
      return (← locate left (draft.assign key value), left)
    else if c = '#' || c = '\n' then .ok (draft, cs)
    else .error (Problem.statement.here cs)
  | [] => .ok (draft, cs)

def lines (draft : Draft) (cs : List Char) : Except Fault Table := do
  let (draft, left) ← statement draft (dropBlanks cs)
  match ← dropComment (dropBlanks left) with
  | [] => return draft.table
  | '\n' :: rest =>
    if _shorter : rest.length < cs.length then lines draft rest
    else .error (Problem.statement.here rest)
  | rest => .error (Problem.afterStatement.here rest)
termination_by cs.length

/-- A line may also end with two characters, of which the first then says nothing. -/
def plainLineEnds : List Char → List Char
  | '\r' :: '\n' :: rest => '\n' :: plainLineEnds rest
  | c :: rest => c :: plainLineEnds rest
  | [] => []

def document (cs : List Char) : Except Fault Table := lines {} cs

/-- Why a text describes no table, in words. -/
inductive Refusal where
  | malformed (message : String)
  | tooManyDigits (count : Nat)
deriving DecidableEq, Repr

def ofText (text : String) : Except Refusal Table :=
  let cs := plainLineEnds text.toList
  match document cs with
  | .ok table => .ok table
  | .error (.malformed problem left) => .error (.malformed (problemMessage cs problem left))
  | .error (.tooManyDigits count) => .error (.tooManyDigits count)

end Jp2Render.Toml
