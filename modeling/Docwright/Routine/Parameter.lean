import Docwright.Text.Search

/-!
# Parameters

A parameter list is the text between the parentheses of a definition. It is cut at every comma,
brackets or not, so an annotation with a comma in it becomes two parameters. Within a fragment the
first equals sign opens the default, and the first colon before it opens the annotation.
-/

namespace Docwright

/-- One declared argument of a routine. -/
structure Parameter where
  /-- the name, with any stars in front of it -/
  name : String
  /-- the annotation as written -/
  type : Option String := none
  /-- the default expression as written -/
  default : Option String := none
  /-- may the argument be left out? An argument with a default may -/
  isOptional : Bool := default.isSome
  deriving DecidableEq, Repr, Inhabited

namespace Parameter

/-- The arguments that stand for the receiver of a method and are never documented. -/
def isReceiver (fragment : List Char) : Bool :=
  fragment = "self".toList || fragment = "cls".toList

/-- One `name: annotation = default` fragment, its blanks trimmed. -/
def ofFragment (fragment : List Char) : Parameter :=
  let (declared, default) := Text.splitFirst '=' fragment
  let (name, type) := Text.splitFirst ':' declared
  let field (s : List Char) : String := String.ofList (Text.trim s)
  { name := field name, type := type.map field, default := default.map field }

/-- The parameters of a list in the order of their declaration. Empty fragments and receivers are
dropped. -/
def parseList (text : List Char) : List Parameter :=
  ((text.splitOn ',').map Text.trim).filter (fun s => !s.isEmpty && !isReceiver s)
    |>.map ofFragment

/-- A parameter written back as a fragment. -/
def render (p : Parameter) : List Char :=
  p.name.toList ++
    (match p.type with
      | some t => ':' :: ' ' :: t.toList
      | none => []) ++
    (match p.default with
      | some d => ' ' :: '=' :: ' ' :: d.toList
      | none => [])

/-- Parameters written back as a list. -/
def renderList (ps : List Parameter) : List Char :=
  Text.join [',', ' '] (ps.map render)

end Parameter

end Docwright
