import Docwright.Docstring.Entry
import Docwright.Documentation.Basic
import Docwright.Documentation.Heading

/-!
# Parameter notes

Every declared parameter gets a note, in the order of declaration. An entry of the docstring wins
over made-up text, and a type in that entry wins over the annotation.
-/

namespace Docwright

/-- The text with its first `Optional[…]` taken off and marked instead. The wrapper reaches to the
last closing bracket of its line. -/
def markOptional? : List Char → Option (List Char)
  | [] => none
  | c :: s =>
    let wrapped :=
      match Text.after? "Optional[".toList (c :: s) with
      | none => none
      | some rest => Text.splitLast? ']' (rest.takeWhile (· != '\n')) |>.map fun (inner, behind) =>
          inner ++ " (Optional)".toList ++ behind ++ rest.dropWhile (· != '\n')
    match wrapped with
    | some text => some text
    | none => (markOptional? s).map (c :: ·)

/-- The type that is shown for an annotation. -/
def shownType (declared : Option String) : String :=
  match declared with
  | none => "Any"
  | some text =>
    if text.isEmpty then "Any" else String.ofList ((markOptional? text.toList).getD text.toList)

/-- The clauses of type descriptions, each with the words that call for it. The first whose words
occur is taken. -/
def typeClauses : List (List String × String) :=
  [(["str"], "containing text information"),
   (["int"], "specifying a numeric value"),
   (["float"], "specifying a decimal value"),
   (["bool"], "indicating whether to enable this feature"),
   (["list", "List"], "containing multiple items"),
   (["dict", "Dict"], "with key-value configuration"),
   (["Callable"], "function to be executed")]

/-- The clause that describes a type. -/
def typeClause (type : String) : String :=
  match typeClauses.find? fun row => row.1.any (Text.mentions type) with
  | some row => row.2
  | none => "for processing"

/-- A sentence about a parameter that the docstring has no entry for. -/
def Parameter.describe (p : Parameter) (type : String) : String :=
  let label := String.ofList (Text.join [' '] ((p.name.toList.splitOn '_').map capitalize))
  let optional :=
    if p.isOptional then "(optional, default: " ++ p.default.getD "None" ++ ") " else ""
  label ++ " " ++ optional ++ typeClause type ++ "."

/-- The note of a parameter, given its entry in the docstring. -/
def Parameter.note (p : Parameter) (entry : Option Docstring.Entry) : ParameterNote :=
  let type := shownType p.type
  match entry with
  | some e =>
    if e.description.isEmpty then ⟨p.name, type, p.describe type⟩
    else ⟨p.name, e.type.getD type, e.description⟩
  | none => ⟨p.name, type, p.describe type⟩

/-- The notes of a routine's parameters. -/
def Routine.parameterNotes (r : Routine) : List ParameterNote :=
  r.parameters.map fun p => p.note (Docstring.findEntry? (r.docstring.getD "").toList p.name)

end Docwright
