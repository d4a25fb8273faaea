import RailLayout.Text.Blank
import RailLayout.Text.Utf8

/-!
Text in a field of fixed width: UTF-8 bytes, cut or padded with zeros to the width. A text ends at the first
zero byte, and blanks at its end do not count.
-/

namespace RailLayout
namespace TextField

/-- The bytes of a field before the first zero. -/
def content (bytes : List UInt8) : List UInt8 :=
  bytes.takeWhile (· != 0)

def read (bytes : List UInt8) : String :=
  String.ofList (Text.trimEnd (Utf8.decode (content bytes)))

/-- A field of `width` bytes holding a text; the cut counts bytes, so it may fall inside a character. -/
def write (width : Nat) (text : String) : List UInt8 :=
  let bytes := (Utf8.encode text).take width
  bytes ++ List.replicate (width - bytes.length) 0

end TextField
end RailLayout
