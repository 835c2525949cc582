import Jp2Render.Xml.Refusal

/-!
Namespaces. A prefix is bound to a namespace name by an attribute, and the binding holds inside the
element; the absent prefix is bound in the same way. Two prefixes and two names are reserved.
-/

namespace Jp2Render.Xml

/-- The name of an element: the namespace it lies in, if it lies in one, and its local part. -/
structure Tag where
  space : Option String
  name : String
deriving DecidableEq, Repr

/-- The bindings in force, the latest first. Without a name a prefix is bound to no namespace. -/
abbrev Bindings := List (Option String × Option String)

namespace Bindings

def xmlName : String := "http://www.w3.org/XML/1998/namespace"
def xmlnsName : String := "http://www.w3.org/2000/xmlns/"

def initial : Bindings := [(some "xml", some xmlName)]

def find? (bindings : Bindings) (label : Option String) : Option String :=
  (bindings.lookup label).join

def refusal? (label : Option String) (name : String) : Option Malformation :=
  if name.isEmpty && label.isSome then some .undeclaredPrefix
  else if label = some "xmlns" then some .reservedXmlnsPrefix
  else if name.toList.contains '}' then some .unexpected
  else if label = some "xml" && name ≠ xmlName then some .reservedXmlPrefix
  else if label ≠ some "xml" && name = xmlName then some .reservedNamespace
  else if label ≠ some "xml" && name = xmlnsName then some .reservedNamespace
  else none

/-- Binds a prefix; the empty name takes the binding of the absent prefix away. -/
def bind (bindings : Bindings) (label : Option String) (name : String) :
    Except Malformation Bindings :=
  match refusal? label name with
  | some how => .error how
  | none => .ok ((label, if name.isEmpty then none else some name) :: bindings)

end Bindings

def splitName (name : List Char) : Option String × String :=
  match name.dropWhile (· ≠ ':') with
  | _ :: localPart => (some (String.ofList (name.takeWhile (· ≠ ':'))), String.ofList localPart)
  | [] => (none, String.ofList name)

def boundPrefix? (name : List Char) : Option (Option String) :=
  if name = "xmlns".toList then some none
  else
    match splitName name with
    | (some "xmlns", label) => some (some label)
    | _ => none

def Tag.ofWritten (bindings : Bindings) (name : List Char) : Except Malformation Tag :=
  match splitName name with
  | (none, localPart) => .ok ⟨bindings.find? none, localPart⟩
  | (label, localPart) =>
    match bindings.find? label with
    | some space => .ok ⟨some space, localPart⟩
    | none => .error .unboundPrefix

end Jp2Render.Xml
