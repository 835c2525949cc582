import Jp2Render.Backend.Processing
import Jp2Render.Toml.Value

/-!
The rules that a configuration has to keep. It has three tables, each with entries of known types;
two numbers have bounds, and one text names a backend. Entries that no rule mentions may be there as
well.
-/

namespace Jp2Render.Configuration

open Toml

inductive EntryType where
  | text
  | whole
  | truth
  | number
deriving DecidableEq, Repr

namespace EntryType

def name : EntryType → String
  | .text => "str"
  | .whole => "int"
  | .truth => "bool"
  | .number => "int or float"

def accepts : EntryType → Value → Bool
  | .text, .text _ => true
  | .whole, .integer _ => true
  | .truth, .truth _ => true
  | .number, .integer _ | .number, .real _ => true
  | _, _ => false

end EntryType

inductive Area where
  | decoding
  | encoding
  | logging
deriving DecidableEq, Repr

namespace Area

def name : Area → String
  | .decoding => "kakadu"
  | .encoding => "encoding"
  | .logging => "logging"

def all : List Area := [.decoding, .encoding, .logging]

def entries : Area → List (String × EntryType)
  | .decoding =>
    [("path_to_binaries", .text), ("path_to_stdout_symlink", .text), ("post_processor", .text),
     ("decode_timeout", .number), ("max_output_mb", .whole), ("tolerate_silent_exit", .truth),
     ("max_reduction_factor", .whole)]
  | .encoding => [("jpg_quality", .whole)]
  | .logging => [("level", .text)]

end Area

inductive Problem where
  | noTable (area : Area)
  | wrongType (area : Area) (entry : String) (expected : EntryType)
  | unknownBackend
  | reductionOutOfRange
  | qualityOutOfRange
deriving DecidableEq, Repr

def Problem.text : Problem → String
  | .noTable area => "section '" ++ area.name ++ "' must be a table"
  | .wrongType area entry expected =>
    "'" ++ area.name ++ "." ++ entry ++ "' must be " ++ expected.name
  | .unknownBackend =>
    "'kakadu.post_processor' must be one of " ++
      String.intercalate ", " (BackendKind.all.map BackendKind.name)
  | .reductionOutOfRange => "'kakadu.max_reduction_factor' must be between 0 and 5"
  | .qualityOutOfRange => "'encoding.jpg_quality' must be between 1 and 100"

def areaTable? (table : Table) (area : Area) : Option Table :=
  match table.lookup area.name with
  | some (.table entries) => some entries
  | _ => none

def hasType (expected : EntryType) (entry : Option Value) : Bool := entry.any expected.accepts

def typeProblems (table : Table) (area : Area) : List Problem :=
  match areaTable? table area with
  | none => [.noTable area]
  | some entries =>
    area.entries.filterMap fun (entry, expected) =>
      if hasType expected (entries.lookup entry) then none
      else some (.wrongType area entry expected)

def counted? : Option Value → Option Int
  | some (.integer n) => some n
  | some (.truth b) => some (if b then 1 else 0)
  | _ => none

def isOutside (least most : Int) (entry : Option Value) : Bool :=
  (counted? entry).any fun n => n < least || most < n

def namesBackend : Option Value → Bool
  | some (.text name) => BackendKind.all.any (·.name = name)
  | _ => false

/-- Problems of the decoding area beyond types. Where there is nothing of its name it counts as an
empty table; anything else that is no table is not looked into. -/
def decodingProblems (table : Table) : List Problem :=
  let check (entries : Table) : List Problem :=
    (if namesBackend (entries.lookup "post_processor") then [] else [.unknownBackend]) ++
    (if isOutside 0 5 (entries.lookup "max_reduction_factor") then [.reductionOutOfRange] else [])
  match table.lookup Area.decoding.name with
  | none => check []
  | some (.table entries) => check entries
  | some _ => []

def encodingProblems (table : Table) : List Problem :=
  match areaTable? table .encoding with
  | none => []
  | some entries =>
    if isOutside 1 100 (entries.lookup "jpg_quality") then [.qualityOutOfRange] else []

def problems (table : Table) : List Problem :=
  Area.all.flatMap (typeProblems table) ++ decodingProblems table ++ encodingProblems table

end Jp2Render.Configuration
