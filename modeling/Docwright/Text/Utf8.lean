import Docwright.Text.Digit
import Docwright.Text.Glyph

/-!
# UTF-8

The bytes of a text and the text of some bytes. A character is one lead byte and up to three tail
bytes. The lead byte says how many tail bytes are owed and bounds the first of them, so that no
character has two forms and no surrogate has any. Reading stops at the first byte that cannot be
part of a character and says where the broken character is; lossy reading puts a replacement
character in its place and goes on. Only whole texts have bytes; there are encodings, though, that
take some unpaired surrogates, so the search for what stands in the way is told what an encoding
takes.
-/

namespace Docwright.Text.Utf8

/-- What is wrong with a broken character. -/
inductive Defect where
  /-- no character starts with this byte -/
  | leadByte
  /-- a byte stands where a tail byte is owed -/
  | tailByte
  /-- the bytes end where a tail byte is owed -/
  | ended
  deriving DecidableEq, Repr

/-- The wording of a defect. -/
def Defect.wording : Defect → String
  | .leadByte => "invalid start byte"
  | .tailByte => "invalid continuation byte"
  | .ended => "unexpected end of data"

/-- A broken character. -/
structure DecodeError where
  /-- what is wrong -/
  defect : Defect
  /-- the position of its first byte -/
  position : Nat
  /-- its first byte -/
  lead : UInt8
  /-- how many bytes of it were read -/
  length : Nat
  deriving DecidableEq, Repr

/-- A byte as two hexadecimal digits. -/
def hexText (b : UInt8) : String :=
  String.ofList (hexDigits 2 b.toNat)

/-- The positions of `length` things, the first of which stands at `position`. -/
def rangeText (position length : Nat) : String :=
  toString position ++ "-" ++ toString (position + length - 1)

/-- The wording of a decoding error: a single byte is shown, more of them are counted. -/
def DecodeError.message (e : DecodeError) : String :=
  let place :=
    if e.length ≤ 1 then "byte 0x" ++ hexText e.lead ++ " in position " ++ toString e.position
    else "bytes in position " ++ rangeText e.position e.length
  "'utf-8' codec can't decode " ++ place ++ ": " ++ e.defect.wording

/-- A character of which some bytes were read. -/
structure Unfinished where
  /-- the position of its first byte -/
  start : Nat
  /-- its first byte -/
  lead : UInt8
  /-- how many of its bytes were read -/
  taken : Nat
  /-- the number that the bytes spell so far -/
  value : Nat
  /-- how many tail bytes are owed behind the next one -/
  more : Nat
  /-- the least byte that may come next -/
  low : Nat
  /-- the greatest byte that may come next -/
  high : Nat
  deriving DecidableEq, Repr

/-- The error of an unfinished character. -/
def Unfinished.broken (p : Unfinished) (defect : Defect) : DecodeError :=
  ⟨defect, p.start, p.lead, p.taken⟩

/-- The unfinished character behind a lead byte that owes tail bytes. -/
def lead? (start : Nat) (b : UInt8) : Option Unfinished :=
  let n := b.toNat
  if 0xc2 ≤ n && n ≤ 0xdf then some ⟨start, b, 1, n - 0xc0, 0, 0x80, 0xbf⟩
  else if n = 0xe0 then some ⟨start, b, 1, 0, 1, 0xa0, 0xbf⟩
  else if n = 0xed then some ⟨start, b, 1, 0xd, 1, 0x80, 0x9f⟩
  else if 0xe1 ≤ n && n ≤ 0xef then some ⟨start, b, 1, n - 0xe0, 1, 0x80, 0xbf⟩
  else if n = 0xf0 then some ⟨start, b, 1, 0, 2, 0x90, 0xbf⟩
  else if 0xf1 ≤ n && n ≤ 0xf3 then some ⟨start, b, 1, n - 0xf0, 2, 0x80, 0xbf⟩
  else if n = 0xf4 then some ⟨start, b, 1, 4, 2, 0x80, 0x8f⟩
  else none

/-- What a byte makes of an unfinished character. -/
inductive Step where
  /-- the character is finished -/
  | char (c : Char)
  /-- more bytes are owed -/
  | more (p : Unfinished)
  deriving DecidableEq, Repr

/-- An unfinished character with one tail byte more, if it is one. -/
def Unfinished.step (p : Unfinished) (b : UInt8) : Option Step :=
  if p.low ≤ b.toNat && b.toNat ≤ p.high then
    let value := p.value * 64 + (b.toNat - 0x80)
    match p.more with
    | 0 => some (.char (Char.ofNat value))
    | more + 1 =>
      some (.more { p with taken := p.taken + 1, value, more, low := 0x80, high := 0xbf })
  else none

/-- The text of bytes that start at a position, behind an unfinished character if there is one. -/
def decodeFrom (position : Nat) :
    Option Unfinished → List UInt8 → Except DecodeError (List Char)
  | none, [] => .ok []
  | some p, [] => .error (p.broken .ended)
  | none, b :: rest =>
    if b < 0x80 then (decodeFrom (position + 1) none rest).map (Char.ofNat b.toNat :: ·)
    else
      match lead? position b with
      | none => .error ⟨.leadByte, position, b, 1⟩
      | some p => decodeFrom (position + 1) (some p) rest
  | some p, b :: rest =>
    match p.step b with
    | none => .error (p.broken .tailByte)
    | some (.char c) => (decodeFrom (position + 1) none rest).map (c :: ·)
    | some (.more next) => decodeFrom (position + 1) (some next) rest

/-- The text of some bytes. -/
def decode (bytes : List UInt8) : Except DecodeError (List Char) :=
  decodeFrom 0 none bytes

/-- What stands in the place of a broken character. -/
def replacement : Char := '\ufffd'

/-- Lossy reading of a byte that starts a character; `go` reads on. -/
def startLossy (b : UInt8) (go : Option Unfinished → List Char) : List Char :=
  if b < 0x80 then Char.ofNat b.toNat :: go none
  else
    match lead? 0 b with
    | none => replacement :: go none
    | some p => go (some p)

/-- Lossy reading, behind an unfinished character if there is one. -/
def decodeLossyFrom : Option Unfinished → List UInt8 → List Char
  | none, [] => []
  | some _, [] => [replacement]
  | none, b :: rest => startLossy b fun next => decodeLossyFrom next rest
  | some p, b :: rest =>
    match p.step b with
    | none => replacement :: startLossy b fun next => decodeLossyFrom next rest
    | some (.char c) => c :: decodeLossyFrom none rest
    | some (.more next) => decodeLossyFrom (some next) rest

/-- The text of some bytes, with a replacement character for each broken character. -/
def decodeLossy (bytes : List UInt8) : List Char :=
  decodeLossyFrom none bytes

/-! ## Writing -/

/-- The bytes of a text. -/
def encodeChars (s : List Char) : List UInt8 :=
  s.flatMap String.utf8EncodeChar

/-- `encodeChars` on strings. -/
def encode (s : String) : List UInt8 :=
  encodeChars s.toList

/-- Glyphs that stand in the way of writing. -/
structure EncodeError where
  /-- the number of the first of them -/
  code : Nat
  /-- its position in the text -/
  position : Nat
  /-- how many unpaired surrogates stand there in a row -/
  length : Nat
  deriving DecidableEq, Repr

/-- The wording of an encoding error: a single surrogate is shown, more of them are counted. -/
def EncodeError.message (e : EncodeError) : String :=
  let place :=
    if e.length ≤ 1 then
      "character '\\u" ++ String.ofList (hexDigits 4 e.code) ++ "' in position " ++
        toString e.position
    else "characters in position " ++ rangeText e.position e.length
  "'utf-8' codec can't encode " ++ place ++ ": surrogates not allowed"

/-- The first glyphs that an encoding does not take, in a text that starts at a position. -/
def unencodableFrom? (takes : Glyph → Bool) (position : Nat) : LooseText → Option EncodeError
  | [] => none
  | g :: rest =>
    if takes g then unencodableFrom? takes (position + 1) rest
    else some ⟨g.code, position, 1 + (rest.takeWhile Glyph.isLone).length⟩

/-- The first unpaired surrogates of a text. -/
def unencodable? (s : LooseText) : Option EncodeError :=
  unencodableFrom? (!·.isLone) 0 s

/-- The bytes of a text, if it has any. -/
def encode? (s : LooseText) : Except EncodeError (List UInt8) :=
  match unencodable? s with
  | some error => .error error
  | none => .ok (encodeChars s.front)

end Docwright.Text.Utf8
