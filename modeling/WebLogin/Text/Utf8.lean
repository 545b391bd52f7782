/-
Texts as bytes in UTF-8.
-/
namespace WebLogin

namespace Utf8

/-- The bytes of a text. -/
def bytes (s : String) : List UInt8 := s.toUTF8.toList

/-- The text of some bytes, if they are valid. -/
def decode? (bs : List UInt8) : Option String := String.fromUTF8? bs.toByteArray

end Utf8

end WebLogin
