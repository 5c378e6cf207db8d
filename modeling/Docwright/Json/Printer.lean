import Docwright.Json.Basic
import Docwright.Text.Digit
import Docwright.Text.Glyph

/-!
# Writing JSON

A value is written in ASCII only: everything beyond it is escaped by its UTF-16 code units, a
surrogate without its partner by itself. Without an indent the whole document stands on one line,
with a space behind each comma and colon. With an indent every item and field starts a line of its
own.
-/

namespace Docwright

namespace Json

/-- The escape of one UTF-16 code unit. -/
def unitEscape (n : Nat) : List Char :=
  '\\' :: 'u' :: Text.hexDigits 4 n

/-- One character inside a string. -/
def escapeChar (c : Char) : List Char :=
  if c = '"' then ['\\', '"']
  else if c = '\\' then ['\\', '\\']
  else if c = '\n' then ['\\', 'n']
  else if c = '\r' then ['\\', 'r']
  else if c = '\t' then ['\\', 't']
  else if c = '\x0c' then ['\\', 'f']
  else if c = '\x08' then ['\\', 'b']
  else if 0x20 ≤ c.toNat ∧ c.toNat < 0x7f then [c]
  else if c.toNat < 0x10000 then unitEscape c.toNat
  else
    let n := c.toNat - 0x10000
    unitEscape (0xd800 + n / 0x400) ++ unitEscape (0xdc00 + n % 0x400)

/-- One glyph inside a string. -/
def escapeGlyph : Glyph → List Char
  | .char c => escapeChar c
  | .lone offset => unitEscape (Glyph.lone offset).code

/-- A string with its quotes. -/
def quote (s : LooseText) : List Char :=
  '"' :: s.flatMap escapeGlyph ++ ['"']

/-- The text of a number. -/
def numberText : Number → List Char
  | .whole n => (toString n).toList
  | .binary .nan => "NaN".toList
  | .binary (.infinite negative) => (if negative then "-Infinity" else "Infinity").toList
  | .binary x => x.text.toList

/-- What stands in front of an item at a depth: nothing on one line, else a new line and the
indent. -/
def gap (indent : Option Nat) (depth : Nat) : List Char :=
  match indent with
  | none => []
  | some width => '\n' :: List.replicate (width * depth) ' '

/-- What stands between two items at a depth. -/
def separator (indent : Option Nat) (depth : Nat) : List Char :=
  match indent with
  | none => [',', ' ']
  | some _ => ',' :: gap indent depth

mutual

/-- A value that stands at a depth. -/
def renderAt (indent : Option Nat) (depth : Nat) : Json → List Char
  | .null => "null".toList
  | .bool b => (if b then "true" else "false").toList
  | .num n => numberText n
  | .str s => quote s
  | .arr [] => ['[', ']']
  | .arr (item :: items) =>
    '[' :: gap indent (depth + 1) ++ renderAt indent (depth + 1) item ++
      renderItems indent (depth + 1) items ++ gap indent depth ++ [']']
  | .obj [] => ['{', '}']
  | .obj ((key, value) :: fields) =>
    '{' :: gap indent (depth + 1) ++ quote key ++ [':', ' '] ++
      renderAt indent (depth + 1) value ++
      renderFields indent (depth + 1) fields ++ gap indent depth ++ ['}']
termination_by structural v => v

/-- Items behind the first one. -/
def renderItems (indent : Option Nat) (depth : Nat) : List Json → List Char
  | [] => []
  | item :: items =>
    separator indent depth ++ renderAt indent depth item ++ renderItems indent depth items
termination_by structural items => items

/-- Fields behind the first one. -/
def renderFields (indent : Option Nat) (depth : Nat) : List (LooseText × Json) → List Char
  | [] => []
  | (key, value) :: fields =>
    separator indent depth ++ quote key ++ [':', ' '] ++ renderAt indent depth value ++
      renderFields indent depth fields
termination_by structural fields => fields

end

/-- The text of a document. -/
def render (indent : Option Nat) (value : Json) : String :=
  String.ofList (renderAt indent 0 value)

end Json

end Docwright
