import Docwright.Text.Alphanumeric
import Docwright.Text.Search

/-!
# Sections of a docstring

A section starts behind a heading such as `Args:`, which has to start a word and may be written in
any case. It runs to the first blank line, to a line that opens one of its sibling sections, or to
the end of the docstring.
-/

namespace Docwright

namespace Docstring

/-- Does `c` read as the small letter `letter` when case is ignored? Besides the capital letter,
the long s reads as an s, the dotless i and the dotted capital I read as an i, and the sign for
kelvin reads as a k. -/
def readsAs (letter c : Char) : Bool :=
  c.toLower == letter ||
    (letter == 's' && c == 'ſ') ||
    (letter == 'i' && (c == 'İ' || c == 'ı')) ||
    (letter == 'k' && c == '\u212a')

/-- What follows the heading `name:` in a text that starts with it, case ignored. -/
def afterHeading? : (name text : List Char) → Option (List Char)
  | [], ':' :: s => some s
  | letter :: name, c :: s => if readsAs letter c then afterHeading? name s else none
  | _, _ => none

/-- What follows one of the headings, each given in small letters. -/
def afterAnyHeading? (names : List String) (s : List Char) : Option (List Char) :=
  names.findSome? fun name => afterHeading? name.toList s

/-- Does a blank line follow the newline in front of `s`? -/
def blankLineFollows (s : List Char) : Bool :=
  (s.takeWhile Text.isBlank).contains '\n'

/-- Does a section end at the newline in front of `s`? -/
def sectionEnds (siblings : List String) (s : List Char) : Bool :=
  blankLineFollows s || (afterAnyHeading? siblings (s.dropWhile Text.isBlank)).isSome

/-- The section that a text starts with. -/
def takeSection (siblings : List String) : List Char → List Char
  | [] => []
  | c :: s => if c = '\n' && sectionEnds siblings s then [] else c :: takeSection siblings s

/-- The first section under one of the headings. `before` is the character in front of the text. -/
def sectionFrom? (names siblings : List String) (before : Option Char) :
    List Char → Option (List Char)
  | [] => none
  | c :: s =>
    match if before.any Text.isWordChar then none else afterAnyHeading? names (c :: s) with
    | some body => some (takeSection siblings body)
    | none => sectionFrom? names siblings (some c) s

/-- The headings of the parameter section. -/
def argsHeadings : List String := ["args", "parameters"]

/-- The headings that end a parameter section. -/
def argsSiblings : List String :=
  ["returns", "example", "examples", "raises", "notes", "yields"]

/-- The headings that end a returns section. -/
def returnsSiblings : List String :=
  ["args", "parameters", "example", "examples", "raises", "notes", "yields"]

/-- The parameter section, as written. -/
def argsSection? (docstring : List Char) : Option (List Char) :=
  sectionFrom? argsHeadings argsSiblings none docstring

/-! ## Indentation -/

/-- A space or a tab. -/
def isIndent (c : Char) : Bool :=
  c == ' ' || c == '\t'

/-- The longest head that two texts share. -/
def commonHead : List Char → List Char → List Char
  | a :: s, b :: t => if a = b then a :: commonHead s t else []
  | _, _ => []

/-- The indentation that all lines share, lines of nothing but indentation left out. -/
def margin (lines : List (List Char)) : List Char :=
  match (lines.filter fun line => !line.all isIndent).map (·.takeWhile isIndent) with
  | [] => []
  | first :: rest => rest.foldl commonHead first

/-- A text without the indentation that its lines share. -/
def dedent (s : List Char) : List Char :=
  let lines := Text.lines s
  let width := (margin lines).length
  Text.join ['\n'] (lines.map fun line => if line.all isIndent then [] else line.drop width)

/-- The returns section without its shared indentation, if anything is in it. -/
def returnsSection? (docstring : List Char) : Option (List Char) :=
  match sectionFrom? ["returns"] returnsSiblings none docstring with
  | none => none
  | some body =>
    let text := Text.trim (dedent body)
    if text.isEmpty then none else some text

end Docstring

end Docwright
