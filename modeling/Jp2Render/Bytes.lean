/-!
Strings of bytes, as tools write them and files hold them.
-/

namespace Jp2Render

abbrev Bytes := List UInt8

namespace Bytes

def ofText (s : String) : Bytes := s.toUTF8.toList

def cutAt : List Nat → Bytes → List Bytes
  | _, [] => []
  | [], b :: bytes => [b :: bytes]
  | 0 :: cuts, b :: bytes => cutAt cuts (b :: bytes)
  | (rest + 1) :: cuts, b :: bytes => (b :: bytes.take rest) :: cutAt cuts (bytes.drop rest)

end Bytes

end Jp2Render
