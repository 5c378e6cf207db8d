import Docwright.Number.Basic
import Docwright.Text.Glyph

/-!
# JSON values

A JSON document as a value. Fields keep the order in which they were written, and whole numbers and
binary fractions are told apart. A JSON text can spell a surrogate without its partner, so the
strings of a document are loose texts.
-/

namespace Docwright

/-- A JSON value. -/
inductive Json where
  /-- `null` -/
  | null
  /-- `true` or `false` -/
  | bool (b : Bool)
  /-- a number -/
  | num (n : Number)
  /-- a string -/
  | str (s : LooseText)
  /-- an array -/
  | arr (items : List Json)
  /-- an object, its fields in order -/
  | obj (fields : List (LooseText × Json))
  deriving Inhabited

namespace Json

/-- The kinds of values a reader of a document can run into. -/
inductive Kind where
  /-- `null` -/
  | null
  /-- a truth value -/
  | bool
  /-- a whole number -/
  | whole
  /-- a binary fraction -/
  | binary
  /-- a string -/
  | string
  /-- an array -/
  | array
  /-- an object -/
  | object
  deriving DecidableEq, Repr

/-- The kind of a value. -/
def kind : Json → Kind
  | .null => .null
  | .bool _ => .bool
  | .num (.whole _) => .whole
  | .num (.binary _) => .binary
  | .str _ => .string
  | .arr _ => .array
  | .obj _ => .object

/-- The name of a kind in error messages. -/
def Kind.name : Kind → String
  | .null => "NoneType"
  | .bool => "bool"
  | .whole => "int"
  | .binary => "float"
  | .string => "str"
  | .array => "list"
  | .object => "dict"

/-- Is the value one of `null`, `false`, a zero, or an empty string, array or object? -/
def isVoid : Json → Bool
  | .null => true
  | .bool b => !b
  | .num n => n.isZero
  | .str s => s.isEmpty
  | .arr items => items.isEmpty
  | .obj fields => fields.isEmpty

/-- The value of a field of an object. -/
def field? (key : String) : Json → Option Json
  | .obj fields => fields.lookup (key : LooseText)
  | _ => none

/-- A string, or `null` when there is none. -/
def ofOption : Option String → Json
  | some s => .str s
  | none => .null

/-- An array of strings. -/
def strings (items : List LooseText) : Json :=
  .arr (items.map .str)

end Json

end Docwright
