import Jp2Render.Toml.Number

/-!
Reading keys and values. Tables in braces are made as their keys come up; a table or a list inside
one can no longer be opened once the next key is read.
-/

namespace Jp2Render.Toml

def isBareKeyCharacter (c : Char) : Bool := c.isAlphanum || c = '-' || c = '_'

def isKeyStart (c : Char) : Bool := isBareKeyCharacter c || c = '"' || c = '\''

def keyPart (cs : List Char) : Except Fault (String × List Char) :=
  match cs with
  | [] => .error (Problem.keyPart.here cs)
  | c :: rest =>
    if isBareKeyCharacter c then
      .ok (String.ofList (cs.takeWhile isBareKeyCharacter), cs.dropWhile isBareKeyCharacter)
    else if c = '"' || c = '\'' then lineText c rest
    else .error (Problem.keyPart.here cs)

/-- Reads a key and the blanks after it, after the parts of it that have been read already. -/
def keyOnto (before : Key) (cs : List Char) : Except Fault (Key × List Char) :=
  match keyPart cs with
  | .error fault => .error fault
  | .ok (part, left) =>
    let key := before ++ [part]
    match dropBlanks left with
    | '.' :: rest =>
      let next := dropBlanks rest
      if _shorter : next.length < cs.length then keyOnto key next
      else .error (Problem.keyPart.here next)
    | rest => .ok (key, rest)
termination_by cs.length

def key (cs : List Char) : Except Fault (Key × List Char) := keyOnto [] cs

def Table.update (throughLists : Bool) (change : Table → Except Problem Table) :
    Key → Table → Except Problem Table
  | [], table => change table
  | name :: names, table =>
    match table.lookup name with
    | none => return table.put name (.table (← update throughLists change names []))
    | some (.table inner) =>
      return table.put name (.table (← update throughLists change names inner))
    | some (.list items) =>
      match throughLists, items.getLast? with
      | true, some (.table inner) => do
        let changed ← update throughLists change names inner
        return table.put name (.list (items.dropLast ++ [.table changed]))
      | _, _ => .error .overwritten
    | some _ => .error .overwritten

def Table.add (throughLists : Bool) (taken : String → Problem) (header key : Key) (value : Value)
    (table : Table) : Except Problem Table :=
  let name := key.getLastD ""
  table.update throughLists (fun inner =>
    if (inner.lookup name).isSome then .error (taken name) else .ok (inner.put name value))
    (header ++ key.dropLast)

def isBelow (keys : List Key) (key : Key) : Bool := keys.any fun above => above.isPrefixOf key

def locate {α : Type} (rest : List Char) (result : Except Problem α) : Except Fault α :=
  match result with
  | .ok x => .ok x
  | .error problem => .error (problem.here rest)

def scalar (cs : List Char) : Except Fault (Value × List Char) :=
  match Moment.take? cs with
  | some (moment, left) =>
    if moment.isReal then .ok (.moment moment, left) else .error (Problem.moment.here cs)
  | none =>
    match number? cs with
    | some reading => reading
    | none => .error (Problem.value.here cs)

mutual

/-- Reads a value. The fuel is used up by the values, items and entries that are begun; twice the
length of the text is enough for all of them. -/
def value (fuel : Nat) (cs : List Char) : Except Fault (Value × List Char) :=
  match fuel, cs with
  | 0, _ => .error (Problem.value.here cs)
  | fuel + 1, '[' :: rest => do
    let left ← dropGaps rest
    items fuel [] left
  | fuel + 1, '{' :: rest =>
    match dropBlanks rest with
    | '}' :: left => .ok (.table [], left)
    | left => entries fuel [] [] left
  | _ + 1, c :: rest =>
    if c = '"' || c = '\'' then do
      let (text, left) ← quotation c rest
      return (.text text, left)
    else if startsWith "true".toList cs then .ok (.truth true, cs.drop 4)
    else if startsWith "false".toList cs then .ok (.truth false, cs.drop 5)
    else scalar cs
  | _ + 1, [] => .error (Problem.value.here cs)

def items (fuel : Nat) (before : List Value) (cs : List Char) : Except Fault (Value × List Char) :=
  match fuel, cs with
  | 0, _ => .error (Problem.value.here cs)
  | _ + 1, ']' :: rest => .ok (.list before, rest)
  | fuel + 1, _ => do
    let (item, left) ← value fuel cs
    let read := before ++ [item]
    match ← dropGaps left with
    | ']' :: rest => return (.list read, rest)
    | ',' :: rest =>
      let next ← dropGaps rest
      items fuel read next
    | rest => .error (Problem.unclosedArray.here rest)

def pair (fuel : Nat) (cs : List Char) : Except Fault ((Key × Value) × List Char) :=
  match fuel with
  | 0 => .error (Problem.value.here cs)
  | fuel + 1 => do
    let (key, left) ← key cs
    match left with
    | '=' :: rest =>
      let (value, left) ← value fuel (dropBlanks rest)
      return ((key, value), left)
    | _ => .error (Problem.equalsSign.here left)

/-- Reads the entries of a table in braces and its closing brace. Keys of containers before the last
entry are closed. -/
def entries (fuel : Nat) (closed : List Key) (table : Table) (cs : List Char) :
    Except Fault (Value × List Char) :=
  match fuel with
  | 0 => .error (Problem.value.here cs)
  | fuel + 1 => do
    let ((key, value), left) ← pair fuel cs
    if isBelow closed key then .error ((Problem.immutable key).here left)
    let table ← locate left (table.add false .duplicate [] key value)
    match dropBlanks left with
    | '}' :: rest => return (.table table, rest)
    | ',' :: rest =>
      entries fuel (if value.isContainer then key :: closed else closed) table (dropBlanks rest)
    | rest => .error (Problem.unclosedTable.here rest)

end

end Jp2Render.Toml
