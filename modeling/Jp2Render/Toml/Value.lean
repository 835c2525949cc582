import Jp2Render.Binary64.Basic
import Jp2Render.Toml.Moment

/-!
Values of configuration documents, and tables of them. A table has each of its keys once; the order
of the entries is the order in which the keys came up.
-/

namespace Jp2Render.Toml

inductive Value where
  | text (text : String)
  | integer (n : Int)
  | real (x : Binary64)
  | truth (b : Bool)
  | moment (m : Moment)
  | list (items : List Value)
  | table (entries : List (String × Value))

abbrev Table := List (String × Value)

abbrev Key := List String

namespace Value

def isContainer : Value → Bool
  | .list _ | .table _ => true
  | _ => false

end Value

namespace Table

def put (name : String) (value : Value) : Table → Table
  | [] => [(name, value)]
  | entry :: rest => if entry.1 = name then (name, value) :: rest else entry :: put name value rest

def overlay (table : Table) (above : Table) : Table :=
  above.foldl (fun table entry => put entry.1 entry.2 table) table

theorem lookup_put (name : String) (value : Value) (table : Table) :
    (put name value table).lookup name = some value := by
  induction table with
  | nil => simp [put]
  | cons entry rest ih =>
    simp only [put]
    split
    · simp
    · rename_i other
      have apart : (name == entry.1) = false := by
        simp only [beq_eq_false_iff_ne, ne_eq]
        exact fun same => other same.symm
      rw [List.lookup_cons, apart]
      exact ih

end Table

end Jp2Render.Toml
