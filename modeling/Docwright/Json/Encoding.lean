import Docwright.Text.Bytes
import Docwright.Text.Wide

/-!
# The encoding of JSON texts

The bytes of a JSON text say in which encoding they are: by a byte order mark in front, or else by
the zeros among the first four of them, since a JSON text starts with ASCII characters. In every
encoding a surrogate without its partner is written like a character.
-/

namespace Docwright

namespace Json

/-- The encodings of JSON texts. -/
inductive Encoding where
  /-- UTF-8 -/
  | utf8
  /-- UTF-16 -/
  | utf16 (order : Text.Wide.ByteOrder)
  /-- UTF-32 -/
  | utf32 (order : Text.Wide.ByteOrder)
  deriving DecidableEq, Repr

/-- The encoding that a byte order mark names, and the bytes behind the mark. -/
def Encoding.marked? : List UInt8 → Option (Encoding × List UInt8)
  | 0x00 :: 0x00 :: 0xfe :: 0xff :: rest => some (.utf32 .big, rest)
  | 0xff :: 0xfe :: 0x00 :: 0x00 :: rest => some (.utf32 .little, rest)
  | 0xfe :: 0xff :: rest => some (.utf16 .big, rest)
  | 0xff :: 0xfe :: rest => some (.utf16 .little, rest)
  | 0xef :: 0xbb :: 0xbf :: rest => some (.utf8, rest)
  | _ => none

/-- The encoding that the zeros among the first bytes show. -/
def Encoding.ofZeros : List UInt8 → Encoding
  | 0 :: 0 :: _ :: _ :: _ => .utf32 .big
  | 0 :: _ :: _ :: _ :: _ => .utf16 .big
  | _ :: 0 :: 0 :: 0 :: _ => .utf32 .little
  | _ :: 0 :: _ :: _ :: _ => .utf16 .little
  | [0, _] => .utf16 .big
  | [_, 0] => .utf16 .little
  | _ => .utf8

/-- The text of bytes in an encoding. -/
def Encoding.decode? : Encoding → List UInt8 → Option LooseText
  | .utf8, bytes => Text.Utf8.decodeLoose? bytes
  | .utf16 order, bytes => Text.Wide.decode16? order bytes
  | .utf32 order, bytes => Text.Wide.decode32? order bytes

/-- The JSON text of some bytes, if they are in the encoding that they show. -/
def textOfBytes? (bytes : List UInt8) : Option LooseText :=
  match Encoding.marked? bytes with
  | some (encoding, rest) => encoding.decode? rest
  | none => (Encoding.ofZeros bytes).decode? bytes

end Json

end Docwright
