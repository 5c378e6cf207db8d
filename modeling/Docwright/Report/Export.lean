import Docwright.Crash
import Docwright.Documentation.Basic
import Docwright.Json.Printer

/-!
# JSON export

Routines and their documentation as JSON values, every field under its name, and the text of them.
An indent that is too wide to be counted is refused. How much memory there is for a text is left
out: one that is counted is written, however wide.
-/

namespace Docwright

/-- A parameter as a JSON object. -/
def Parameter.toJson (p : Parameter) : Json :=
  .obj [("name", .str p.name), ("type", .ofOption p.type), ("default", .ofOption p.default),
    ("is_optional", .bool p.isOptional)]

/-- A routine as a JSON object. -/
def Routine.toJson (r : Routine) : Json :=
  .obj [("id", .str r.id), ("name", .str r.name), ("source", .str r.source),
    ("parameters", .arr (r.parameters.map (·.toJson))), ("docstring", .ofOption r.docstring),
    ("return_type", .ofOption r.returnType), ("file_name", .str r.fileName)]

/-- A parameter note as a JSON object. -/
def ParameterNote.toJson (note : ParameterNote) : Json :=
  .obj [("name", .str note.name), ("type", .str note.type),
    ("description", .str note.description)]

/-- Documentation as a JSON object. -/
def Documentation.toJson (d : Documentation) : Json :=
  .obj [("title", .str d.title), ("description", .str d.description),
    ("functionality", .strings d.functionality),
    ("parameters", .arr (d.parameters.map (·.toJson))), ("steps", .strings d.steps),
    ("returns", .str d.returns)]

/-- A routine with its documentation as a JSON object. -/
def Documented.toJson (pair : Documented) : Json :=
  .obj [("function", pair.1.toJson), ("documentation", pair.2.toJson)]

/-- Documented routines as a JSON array. -/
def Documented.listToJson (pairs : List Documented) : Json :=
  .arr (pairs.map Documented.toJson)

/-- The indents that are counted are those below this bound and not below its negative. -/
def indentBound : Int := 0x8000000000000000

/-- The width of an indent. One below zero counts as zero. -/
def indentWidth : Option Int → Except Crash (Option Nat)
  | none => .ok none
  | some n => if -indentBound ≤ n ∧ n < indentBound then .ok (some n.toNat) else .error .wideIndent

/-- The text of an export. -/
def exportText (pairs : List Documented) (indent : Option Int) : Except Crash String :=
  (indentWidth indent).map fun width => (Documented.listToJson pairs).render width

end Docwright
