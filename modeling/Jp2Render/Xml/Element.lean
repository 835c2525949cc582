import Jp2Render.Xml.Namespace

/-!
Elements. Of an element's text only the part before its first child is kept.
-/

namespace Jp2Render.Xml

structure Element where
  tag : Tag
  text : String
  children : List Element
deriving Repr

namespace Element

mutual

def inside : Element → List Element
  | ⟨_, _, children⟩ => insideAll children

def insideAll : List Element → List Element
  | [] => []
  | element :: others => element :: (inside element ++ insideAll others)

end

def all (element : Element) : List Element := element :: element.inside

def isNamed (element : Element) (name : String) : Bool := element.tag = ⟨none, name⟩

def first? (element : Element) (name : String) : Option Element :=
  element.inside.find? (·.isNamed name)

end Element

end Jp2Render.Xml
