import Jp2Render.SourceFormat

/-!
Formats that an image can be written in, and which of them a source can be turned into.
-/

namespace Jp2Render

inductive OutputFormat where
  | gif
  | jpg
  | png
  | tif
  | webp
deriving DecidableEq, Repr

structure UnknownOutputFormat where
  extension : String
deriving DecidableEq, Repr

def UnknownOutputFormat.message (fault : UnknownOutputFormat) : String :=
  "Unknown output format: " ++ fault.extension

namespace OutputFormat

def all : List OutputFormat := [.gif, .jpg, .png, .tif, .webp]

def name : OutputFormat → String
  | .gif => "GIF"
  | .jpg => "JPG"
  | .png => "PNG"
  | .tif => "TIF"
  | .webp => "WEBP"

def ofName? (name : String) : Option OutputFormat := all.find? (·.name = name)

def label (format : OutputFormat) : String := "OutputFormat." ++ format.name

def extension : OutputFormat → String
  | .gif => "gif"
  | .jpg => "jpg"
  | .png => "png"
  | .tif => "tif"
  | .webp => "webp"

def codec : OutputFormat → String
  | .gif => "GIF"
  | .jpg => "JPEG"
  | .png => "PNG"
  | .tif => "TIFF"
  | .webp => "WEBP"

def mediaType : OutputFormat → String
  | .gif => "image/gif"
  | .jpg => "image/jpeg"
  | .png => "image/png"
  | .tif => "image/tiff"
  | .webp => "image/webp"

def shortened (extension : String) : String :=
  if extension = "jpeg" then "jpg" else if extension = "tiff" then "tif" else extension

def ofExtension (extension : String) : Except UnknownOutputFormat OutputFormat :=
  let bare := String.ofList ((Text.lower extension).toList.dropWhile (· = '.'))
  match all.find? (·.extension = shortened bare) with
  | some format => .ok format
  | none => .error ⟨extension⟩

end OutputFormat

/-- The formats that an image of the given source format can be written in. Only a JPEG 2000 source
can be decoded, and WEBP is not offered for it. -/
def SourceFormat.outputs : SourceFormat → List OutputFormat
  | .jp2 => [.gif, .jpg, .png, .tif]
  | _ => []

end Jp2Render
