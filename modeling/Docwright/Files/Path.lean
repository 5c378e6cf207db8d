import Docwright.Crash
import Docwright.Text.Bytes
import Docwright.Text.Search

/-!
# Paths

A path is a root and the names that lead on from it. Empty names and the name `.` are dropped when
a path is read; `..` is kept, because what it means depends on the file system. A path is a loose
text: the bytes of a name on disk that are no UTF-8 stand in it as carriers.
-/

namespace Docwright

namespace Files

/-- Where a path starts. -/
inductive Root where
  /-- in the working directory -/
  | working
  /-- in the root directory -/
  | slash
  /-- in the root directory, written with two slashes -/
  | doubleSlash
  deriving DecidableEq, Repr

/-- The text of a root. -/
def Root.text : Root → LooseText
  | .working => []
  | .slash => [.char '/']
  | .doubleSlash => [.char '/', .char '/']

/-- A path in the file system. -/
structure Path where
  /-- where it starts -/
  root : Root := .working
  /-- the names that lead on from there -/
  names : List LooseText
  deriving DecidableEq, Repr

namespace Path

/-- The root that a text starts with: two slashes are told from one, more of them are not. -/
def rootOf (s : LooseText) : Root :=
  match (s.takeWhile (· == .char '/')).length with
  | 0 => .working
  | 2 => .doubleSlash
  | _ => .slash

/-- Does a name between slashes lead anywhere? -/
def isName (s : LooseText) : Bool :=
  !(s = [] || s = [.char '.'])

/-- The path that a text spells. -/
def ofText (text : LooseText) : Path where
  root := rootOf text
  names := (text.splitOn (.char '/')).filter isName

/-- The text of a path; the working directory is a dot. -/
def text (p : Path) : LooseText :=
  let joined := p.root.text ++ Text.join [.char '/'] p.names
  if joined.isEmpty then [.char '.'] else joined

/-- The last name of a path, empty if there is none. -/
def name (p : Path) : LooseText :=
  p.names.getLast?.getD []

/-- The path without its last name. -/
def parent (p : Path) : Path :=
  { p with names := p.names.dropLast }

/-- The path that goes on from a directory. -/
def extend (p : Path) (more : List LooseText) : Path :=
  { p with names := p.names ++ more }

/-- The names that lead from one path to another below it. -/
def namesBelow? (base p : Path) : Option (List LooseText) :=
  if base.root = p.root && base.names.isPrefixOf p.names then
    some (p.names.drop base.names.length)
  else none

/-- The text of a path as seen from a base: the way from there if the path is below it, else the
whole path. -/
def textFrom (base p : Path) : LooseText :=
  match base.namesBelow? p with
  | some names => (Path.mk .working names).text
  | none => p.text

/-- The label of a source file: its last name, or its path as seen from a base. -/
def label (base : Option Path) (p : Path) : LooseText :=
  match base with
  | some base => base.textFrom p
  | none => p.name

/-- What is wrong with a path that no file system takes: a glyph in it has no bytes, or one is the
null character. -/
def fault? (p : Path) : Option Crash :=
  match Text.Utf8.byteless? p.text with
  | some error => some (.unencodable error)
  | none => if p.text.contains (.char '\x00') then some .nullByte else none

end Path

/-! ## The order of a listing -/

/-- Is the first text the same as the second or in front of it, by the numbers of glyphs? -/
def inOrder : LooseText → LooseText → Bool
  | [], _ => true
  | _ :: _, [] => false
  | a :: s, b :: t => if a = b then inOrder s t else decide (a.code < b.code)

/-- Are two ways the same, or the first in front of the second, name by name? -/
def waysInOrder : List LooseText → List LooseText → Bool
  | [], _ => true
  | _ :: _, [] => false
  | a :: s, b :: t => if a = b then waysInOrder s t else inOrder a b

end Files

end Docwright
