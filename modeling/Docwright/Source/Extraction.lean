import Docwright.Source.Definition
import Docwright.Routine.Basic

/-!
# Extraction

Every definition of a source text becomes a routine. The docstring of a routine is the
triple-quoted literal that its body starts with.
-/

namespace Docwright

namespace Source

/-- The delimiters of a triple-quoted literal. -/
def tripleQuotes : List (List Char) :=
  ["'''".toList, "\"\"\"".toList]

/-- The content of the triple-quoted literal that a body starts with, trimmed. -/
def docstring? (body : List Char) : Option (List Char) :=
  tripleQuotes.findSome? fun delimiter =>
    match Text.after? delimiter (Text.trimStart body) with
    | none => none
    | some literal => (Text.cut? delimiter literal).map fun found => Text.trim found.1

/-- The routine of a definition. -/
def Definition.toRoutine (fileName : LooseText) (d : Definition) : Routine where
  name := String.ofList d.name
  source := String.ofList (Text.trim d.text)
  parameters := Parameter.parseList d.params
  docstring := (docstring? d.body).map String.ofList
  returnType := d.returnType.map String.ofList
  fileName := fileName

/-- The routines of a source text, in the order of the text. -/
def extract (source : String) (fileName : LooseText) : List Routine :=
  (scan source.toList).map (·.toRoutine fileName)

end Source

end Docwright
