import Jp2Render.Text.Case
import Jp2Render.Text.Fields

/-!
Formats that a source image may be stored in, told by the extension of its name.
-/

namespace Jp2Render

inductive SourceFormat where
  | jp2
  | jpg
  | png
  | tif
  | unknown
deriving DecidableEq, Repr

namespace SourceFormat

def all : List SourceFormat := [.jp2, .jpg, .png, .tif, .unknown]

def extension : SourceFormat → String
  | .jp2 => "jp2"
  | .jpg => "jpg"
  | .png => "png"
  | .tif => "tif"
  | .unknown => "unknown"

def ofDeclaration? (extension : String) : Option SourceFormat := all.find? (·.extension = extension)

def label : SourceFormat → String
  | .jp2 => "SourceFormat.JP2"
  | .jpg => "SourceFormat.JPG"
  | .png => "SourceFormat.PNG"
  | .tif => "SourceFormat.TIF"
  | .unknown => "SourceFormat.UNKNOWN"

def aliases : List (String × SourceFormat) :=
  [("jpx", .jp2), ("j2k", .jp2), ("jpeg", .jpg), ("tiff", .tif)]

def ofExtension (extension : String) : SourceFormat :=
  match aliases.lookup extension with
  | some format => format
  | none => (all.find? (·.extension = extension)).getD .unknown

def ofName (name : String) : SourceFormat :=
  match Text.cutLast? '.' name.toList with
  | some (_, extension) => ofExtension (Text.lower (String.ofList extension))
  | none => .unknown

end SourceFormat

end Jp2Render
