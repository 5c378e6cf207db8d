import Docwright.Text.LetterCase
import Docwright.Text.Search
import Docwright.Text.Utf8

/-!
# Addresses

An address names a scheme, a host, a path and a query; all of them may be left out. Line breaks and
tabs anywhere in an address and blanks in front of it do not count. In a path, a percent sign with
two hexadecimal digits stands for a byte.
-/

namespace Docwright

namespace Web

/-- The parts of an address. One that is left out is empty. -/
structure Address where
  /-- how the host is spoken to, in small letters -/
  scheme : List Char := []
  /-- the host -/
  host : List Char := []
  /-- the path, with its percent signs -/
  path : List Char := []
  /-- the query -/
  query : List Char := []
  deriving DecidableEq, Repr

namespace Address

/-- An address without what does not count in it. -/
def clean (s : List Char) : List Char :=
  (s.dropWhile (·.toNat ≤ 0x20)).filter fun c => c != '\t' && c != '\n' && c != '\r'

/-- Can the text be the name of a scheme? -/
def isScheme : List Char → Bool
  | [] => false
  | c :: rest =>
    c.isAlpha && rest.all fun c => c.isAlphanum || c == '+' || c == '-' || c == '.'

/-- The scheme of an address, and the rest. -/
def splitScheme (s : List Char) : List Char × List Char :=
  match Text.splitFirst ':' s with
  | (name, some rest) => if isScheme name then (Text.lower name, rest) else ([], s)
  | _ => ([], s)

/-- Does the character end the host? -/
def endsHost (c : Char) : Bool :=
  c == '/' || c == '?' || c == '#'

/-- The host of an address, and the rest. -/
def splitHost : List Char → List Char × List Char
  | '/' :: '/' :: s => (s.takeWhile (!endsHost ·), s.dropWhile (!endsHost ·))
  | s => ([], s)

/-- The parts of an address. A fragment belongs to none of them. -/
def ofText (s : List Char) : Address :=
  let (scheme, s) := splitScheme (clean s)
  let (host, s) := splitHost s
  let (path, query) := Text.splitFirst '?' (Text.splitFirst '#' s).1
  { scheme, host, path, query := query.getD [] }

/-- The address with its path read as an address once more, so that a second host in front of the
path is dropped. -/
def unwrap (a : Address) : Address :=
  let query := if a.query.isEmpty then [] else '?' :: a.query
  let inner := ofText (a.path ++ query)
  { a with path := inner.path, query := inner.query }

/-- The schemes that show the place of the host even if there is none. -/
def hostSchemes : List String :=
  ["ftp", "http", "gopher", "nntp", "telnet", "imap", "wais", "file", "mms", "https", "shttp",
   "snews", "prospero", "rtsp", "rtspu", "rsync", "svn", "svn+ssh", "sftp", "nfs", "git",
   "git+ssh", "ws", "wss"]

/-- The text of an address with a scheme. -/
def text (a : Address) : List Char :=
  let showsHost := !a.host.isEmpty || hostSchemes.contains (String.ofList a.scheme)
  let query := if a.query.isEmpty then [] else '?' :: a.query
  a.scheme ++ (if showsHost then "://".toList else [':']) ++ a.host ++ a.path ++ query

end Address

/-! ## Percent signs -/

/-- The bytes of a path. -/
def unescapeBytes : List Char → List UInt8
  | [] => []
  | '%' :: a :: b :: s =>
    match Text.hexValue? a, Text.hexValue? b with
    | some x, some y => UInt8.ofNat (16 * x + y) :: unescapeBytes s
    | _, _ => 0x25 :: unescapeBytes (a :: b :: s)
  | c :: s => Text.Utf8.encode (String.ofList [c]) ++ unescapeBytes s

/-- A path with its percent signs resolved. -/
def unescape (path : List Char) : List Char :=
  Text.Utf8.decodeLossy (unescapeBytes path)

/-- Can a byte stand in a path as it is? -/
def isPathByte (b : UInt8) : Bool :=
  let c := Char.ofNat b.toNat
  c.isAlphanum || "_.-~!$&'()*+,/:;=@".toList.contains c

/-- A byte of a path. -/
def escapeByte (b : UInt8) : List Char :=
  if isPathByte b then [Char.ofNat b.toNat]
  else '%' :: (Text.hexDigits 2 b.toNat).map Char.toUpper

/-- A path with percent signs for everything that cannot stand in it as it is. -/
def escape (path : List Char) : List Char :=
  (Text.Utf8.encode (String.ofList path)).flatMap escapeByte

/-! ## Slashes -/

/-- A path with every run of slashes made one slash. -/
def mergeSlashes : List Char → List Char
  | [] => []
  | [c] => [c]
  | c :: d :: s => if c = '/' && d = '/' then mergeSlashes (d :: s) else c :: mergeSlashes (d :: s)

end Web

end Docwright
