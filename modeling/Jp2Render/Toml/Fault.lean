import Jp2Render.Text.Numeral
import Jp2Render.Toml.Value

/-!
What can be wrong with a configuration document, and where.
-/

namespace Jp2Render.Toml

inductive Problem where
  | statement
  | afterStatement
  | keyPart
  | equalsSign
  | value
  | moment
  | unclosedArray
  | unclosedTable
  | unclosedHeader
  | unclosedListHeader
  | unterminatedText
  | unclosedLiteral (quotes : String)
  | forbidden (c : Char)
  | forbiddenInText (c : Char)
  | escape
  | hexDigits
  | notScalar
  | declaredTwice (key : Key)
  | redefined (key : Key)
  | immutable (key : Key)
  | overwritten
  | duplicate (name : String)
deriving DecidableEq, Repr

def Key.text (key : Key) : String :=
  match key with
  | [name] => "(" ++ Text.quoted name ++ ",)"
  | names => "(" ++ String.intercalate ", " (names.map Text.quoted) ++ ")"

def Problem.text : Problem → String
  | .statement => "Invalid statement"
  | .afterStatement => "Expected newline or end of document after a statement"
  | .keyPart => "Invalid initial character for a key part"
  | .equalsSign => "Expected '=' after a key in a key/value pair"
  | .value => "Invalid value"
  | .moment => "Invalid date or datetime"
  | .unclosedArray => "Unclosed array"
  | .unclosedTable => "Unclosed inline table"
  | .unclosedHeader => "Expected ']' at the end of a table declaration"
  | .unclosedListHeader => "Expected ']]' at the end of an array declaration"
  | .unterminatedText => "Unterminated string"
  | .unclosedLiteral quotes => "Expected " ++ Text.quoted quotes
  | .forbidden c => "Found invalid character " ++ Text.quoted (String.singleton c)
  | .forbiddenInText c => "Illegal character " ++ Text.quoted (String.singleton c)
  | .escape => "Unescaped '\\' in a string"
  | .hexDigits => "Invalid hex value"
  | .notScalar => "Escaped character is not a Unicode scalar value"
  | .declaredTwice key => "Cannot declare " ++ key.text ++ " twice"
  | .redefined key => "Cannot redefine namespace " ++ key.text
  | .immutable key => "Cannot mutate immutable namespace " ++ key.text
  | .overwritten => "Cannot overwrite a value"
  | .duplicate name => "Duplicate inline table key " ++ Text.quoted name

/-- A place in a document is given by the number of characters that are left there. -/
inductive Fault where
  | malformed (problem : Problem) (left : Nat)
  | tooManyDigits (count : Nat)
deriving DecidableEq, Repr

def Problem.here (problem : Problem) (rest : List Char) : Fault := .malformed problem rest.length

def placeText (document : List Char) (left : Nat) : String :=
  if left = 0 then "end of document"
  else
    let before := document.take (document.length - left)
    let line := before.count '\n' + 1
    let column := (before.reverse.takeWhile (· ≠ '\n')).length + 1
    "line " ++ Nat.repr line ++ ", column " ++ Nat.repr column

def problemMessage (document : List Char) (problem : Problem) (left : Nat) : String :=
  problem.text ++ " (at " ++ placeText document left ++ ")"

end Jp2Render.Toml
