import Docwright.Documentation.Basic
import Docwright.Text.Alphanumeric
import Docwright.Text.LetterCase
import Docwright.Text.Search

/-!
# Markdown

A page per routine, an index table that links to the pages, and a single document with the index
and all pages.
-/

namespace Docwright

namespace Markdown

/-- Lines joined into a text. -/
def ofLines (lines : List LooseText) : LooseText :=
  Text.join [.char '\n'] lines

/-- May the character stand in an anchor? -/
def isAnchorChar (c : Char) : Bool :=
  Text.isAlphanumeric c || c == ' ' || c == '-' || c == '_'

/-- The anchor of a heading: lower case, without punctuation, hyphens for spaces. -/
def anchor (heading : List Char) : List Char :=
  ((Text.lower heading).filter isAnchorChar).map fun c => if c = ' ' then '-' else c

/-- One glyph in the cell of a table. -/
def escapeCellGlyph (g : Glyph) : LooseText :=
  if g = .char '|' then [.char '\\', .char '|']
  else if g = .char '\n' then [.char ' ']
  else [g]

/-- A text in the cell of a table. -/
def cell (s : LooseText) : LooseText :=
  s.flatMap escapeCellGlyph

/-- `anchor` on strings. -/
def anchorOf (heading : String) : String :=
  String.ofList (anchor heading.toList)

/-- The line of a parameter. -/
def parameterLine (note : ParameterNote) : LooseText :=
  let type : LooseText := if note.type.isEmpty then "Any" else note.type
  "- `" ++ note.name ++ "` (" ++ type ++ "): " ++ note.description

/-- The lines of the parameter list. -/
def parameterLines (notes : List ParameterNote) : List LooseText :=
  if notes.isEmpty then ["*No parameters.*"] else notes.map parameterLine

/-- An item of a list without numbers. -/
def bullet (item : LooseText) : LooseText :=
  "- " ++ item

/-- Steps with their numbers. -/
def numbered (steps : List LooseText) : List LooseText :=
  steps.zipIdx.map fun (step, i) => toString (i + 1) ++ ". " ++ step

/-- The page of one routine. -/
def page (pair : Documented) : LooseText :=
  let (r, d) := pair
  ofLines <|
    (["# " ++ d.title, "", d.description, "", "## Functionality", ""] : List LooseText) ++
    d.functionality.map bullet ++
    (["", "## Parameters", ""] : List LooseText) ++ parameterLines d.parameters ++
    (["", "## Processing Steps", ""] : List LooseText) ++ numbered d.steps ++
    (["", "## Returns", "", d.returns, "", "## Source Code", "", "```python", r.source, "```", "",
     "*Source: " ++ r.fileName ++ "*", ""] : List LooseText)

/-- The row of the index for one routine. -/
def indexRow (pair : Documented) : LooseText :=
  let (r, d) := pair
  "| [`" ++ r.name ++ "`](#" ++ anchorOf d.title ++ ") | " ++ cell r.fileName ++ " | " ++
    cell d.description ++ " |"

/-- The index table. -/
def index (pairs : List Documented) : LooseText :=
  ofLines <|
    (["# Function Reference", "", "| Function | File | Description |",
     "|----------|------|-------------|"] : List LooseText) ++ pairs.map indexRow ++ [[]]

/-- The index and all pages, with rules between them. -/
def batch (pairs : List Documented) : LooseText :=
  ofLines <|
    (["<!-- AUTO-GENERATED. DO NOT EDIT. Run `funcdoc` to regenerate. -->", "", index pairs] :
      List LooseText) ++
    (if pairs.isEmpty then (["*No functions found.*", ""] : List LooseText)
      else pairs.flatMap fun pair => (["---", "", page pair] : List LooseText))

end Markdown

end Docwright
