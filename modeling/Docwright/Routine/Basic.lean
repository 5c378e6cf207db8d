import Docwright.Routine.Parameter
import Docwright.Text.Glyph

/-!
# Routines

A routine is one function taken out of a source text: where it came from, how it is declared, its
docstring and its text, from the word that opens the definition to the end of the body.
-/

namespace Docwright

/-- One function of a source text. -/
structure Routine where
  /-- a mark for selection; nothing is derived from it -/
  id : String := "ID"
  /-- the name behind the defining word -/
  name : String
  /-- the definition, verbatim and trimmed -/
  source : String := ""
  /-- the declared parameters -/
  parameters : List Parameter := []
  /-- the text of the leading triple-quoted literal -/
  docstring : Option String := none
  /-- the annotation behind the arrow -/
  returnType : Option String := none
  /-- the label of the source text; a path may hold bytes that are no text -/
  fileName : LooseText := "<input>"
  deriving DecidableEq, Repr, Inhabited

namespace Routine

/-- Is there a docstring with something in it? -/
def isDocumented (r : Routine) : Bool :=
  r.docstring.any (!·.isEmpty)

/-- The names of the parameters in order. -/
def parameterNames (r : Routine) : List String :=
  r.parameters.map (·.name)

/-- The label and the name of a routine, as messages show them. -/
def label (r : Routine) : LooseText :=
  r.fileName ++ ":" ++ r.name

end Routine

end Docwright
