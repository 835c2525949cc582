import Jp2Render.Picture.Basic
import Jp2Render.Picture.Fault

/-!
Pictures that are held until they are released. Of a released picture nothing but its mode and
dimensions can be had.
-/

namespace Jp2Render

structure HeldPicture where
  picture : Picture
  released : Bool := false
deriving Repr

namespace HeldPicture

def dimensions (held : HeldPicture) : Dimensions := held.picture.dimensions

def content (held : HeldPicture) : Except PictureFault Picture :=
  if held.released then .error .closed else .ok held.picture

def release (held : HeldPicture) : HeldPicture := { held with released := true }

@[simp] theorem dimensions_release (held : HeldPicture) :
    held.release.dimensions = held.dimensions := rfl

@[simp] theorem content_release (held : HeldPicture) : held.release.content = .error .closed := rfl

end HeldPicture

end Jp2Render
