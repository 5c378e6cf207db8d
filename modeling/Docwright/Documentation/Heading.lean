import Docwright.Docstring.Summary
import Docwright.Routine.Basic
import Docwright.Text.LetterCase

/-!
# Title and description

The title is made of the words of the routine's name. The description is the summary of the
docstring, or a sentence about the name when there is none.
-/

namespace Docwright

/-- The words of a name, cut at underscores. -/
def nameWords (name : List Char) : List (List Char) :=
  (name.splitOn '_').filter (!·.isEmpty)

/-- A word with its first character in upper case and the others as they are. -/
def capitalize : List Char → List Char
  | [] => []
  | c :: s => Text.upperChar c ++ s

/-- A name as capitalized words. -/
def titleWords (name : List Char) : List Char :=
  Text.join [' '] ((nameWords name).map capitalize)

/-- A name with spaces for underscores. -/
def spaced (name : String) : String :=
  String.ofList (name.toList.map fun c => if c = '_' then ' ' else c)

namespace Routine

/-- The title of a routine's documentation. -/
def title (r : Routine) : String :=
  String.ofList (titleWords r.name.toList) ++ " Function Documentation"

/-- The summary of a routine's docstring, empty when there is none. -/
def summary (r : Routine) : String :=
  String.ofList (Docstring.summary (r.docstring.getD "").toList)

/-- The description of a routine. -/
def description (r : Routine) : String :=
  if r.summary.isEmpty then
    "A function named " ++ String.ofList (Text.join [' '] (nameWords r.name.toList)) ++
      " that processes the given inputs and returns results based on the specified parameters."
  else r.summary

end Routine

end Docwright
