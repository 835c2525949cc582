import Jp2Render.Journal

/-!
Loggers by name. Names are divided by points, and a logger is below the nearest logger whose name is
in front of a point of its own; the root is above all of them. Where a logger has no level of its
own, that of the nearest logger above counts.
-/

namespace Jp2Render.Logging

/-- What writes records: the one handler that loggers share, or one made for the root alone. -/
inductive Handler where
  | shared
  | rootOnly
deriving DecidableEq, Repr

structure Logger where
  level : Int := 0
  handlers : List Handler := []
  above : Option String := none
deriving DecidableEq, Repr

def rootName : String := "root"

/-- The names in front of the points of a name, the longest first. Of two points in a row only the
second divides, and so does no point at the very beginning. -/
def namesAbove (name : String) : List String :=
  let cs := name.toList
  (go cs.length cs).map String.ofList
where
  go : Nat → List Char → List (List Char)
    | 0, _ => []
    | fuel + 1, cs =>
      match (cs.reverse.dropWhile (· ≠ '.')).drop 1 with
      | [] => []
      | c :: before => (c :: before).reverse :: go fuel before.reverse

structure Hierarchy where
  root : Logger
  named : List (String × Logger) := []
  /-- Names above loggers that are no loggers themselves. -/
  mentioned : List String := []
deriving DecidableEq, Repr

namespace Hierarchy

def isRoot (name : String) : Bool := name.isEmpty || name = rootName

def logger? (hierarchy : Hierarchy) (name : String) : Option Logger :=
  if isRoot name then some hierarchy.root else hierarchy.named.lookup name

def modify (hierarchy : Hierarchy) (name : String) (change : Logger → Logger) : Hierarchy :=
  if isRoot name then { hierarchy with root := change hierarchy.root }
  else
    { hierarchy with
      named := hierarchy.named.map fun entry =>
        if entry.1 = name then (name, change entry.2) else entry }

/-- Puts a logger below a new one of the given name, if it is not below it already. A logger counts
as below it if the name of what is above begins with the new name, also where that is the root. -/
def lower (name : String) (entry : String × Logger) : String × Logger :=
  let isBelow := name ∈ namesAbove entry.1
  let staysThere := (entry.2.above.getD rootName).startsWith name
  if isBelow && !staysThere then (entry.1, { entry.2 with above := some name }) else entry

def ensure (hierarchy : Hierarchy) (name : String) : Hierarchy :=
  if (hierarchy.logger? name).isSome then hierarchy
  else
    let isLogger (other : String) : Bool := (hierarchy.named.lookup other).isSome
    let candidates := namesAbove name
    let between := candidates.takeWhile (!isLogger ·)
    let fresh := between.filter (· ∉ hierarchy.mentioned)
    { hierarchy with
      named := hierarchy.named.map (lower name) ++ [(name, { above := candidates.find? isLogger })]
      mentioned := hierarchy.mentioned.filter (· ≠ name) ++ fresh }

def names (hierarchy : Hierarchy) : List String :=
  hierarchy.named.map Prod.fst ++ hierarchy.mentioned

def chain (hierarchy : Hierarchy) (name : String) : List Logger :=
  go (hierarchy.named.length + 1) name
where
  go : Nat → String → List Logger
    | 0, _ => [hierarchy.root]
    | fuel + 1, name =>
      if isRoot name then [hierarchy.root]
      else
        match hierarchy.named.lookup name with
        | none => [hierarchy.root]
        | some logger => logger :: go fuel (logger.above.getD rootName)

def effectiveLevel (hierarchy : Hierarchy) (name : String) : Int :=
  ((hierarchy.chain name).find? (·.level ≠ 0)).elim 0 Logger.level

def handlers (hierarchy : Hierarchy) (name : String) : List Handler :=
  (hierarchy.chain name).flatMap Logger.handlers

end Hierarchy

end Jp2Render.Logging
