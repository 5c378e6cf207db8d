import Docwright.Json.Basic

/-!
# Stand-ins

The source text of a request may hold surrogates without partners. Nothing in the reading of source
texts tells such a surrogate from a character for private use, so the text is read with a character
for private use in the place of each of them, one that does not occur in the text: its *stand-in*.
In an answer the surrogates are put back.
-/

namespace Docwright

namespace Web

/-- Surrogates with their stand-ins. -/
abbrev StandIns := List (Glyph × Char)

namespace StandIns

/-- The stand-ins for the surrogates of a text. There are at least as many characters left as there
are surrogates, since no more than the others can be taken. -/
def ofText (s : LooseText) : StandIns :=
  let candidates := (List.range (min s.length 0x1fffe)).map fun i => Char.ofNat (0xf0000 + i)
  (s.filter Glyph.isLone).eraseDups.zip (candidates.filter fun c => !s.contains (.char c))

/-- The character that stands for a glyph. -/
def charOf (table : StandIns) : Glyph → Char
  | .char c => c
  | .lone offset => (table.lookup (.lone offset)).getD '\ufffd'

/-- A text with the stand-ins in it. -/
def hide (table : StandIns) (s : LooseText) : String :=
  String.ofList (s.map table.charOf)

/-- The glyph that a glyph stands for. -/
def glyphOf (table : StandIns) (g : Glyph) : Glyph :=
  ((table.find? fun pair => g = .char pair.2).map (·.1)).getD g

/-- A text with the surrogates put back. -/
def reveal (table : StandIns) (s : LooseText) : LooseText :=
  s.map table.glyphOf

mutual

/-- A JSON value with the surrogates put back in its strings. -/
def revealJson (table : StandIns) : Json → Json
  | .str s => .str (table.reveal s)
  | .arr items => .arr (table.revealItems items)
  | .obj fields => .obj (table.revealFields fields)
  | .null => .null
  | .bool b => .bool b
  | .num n => .num n
termination_by structural v => v

/-- `revealJson` on items. -/
def revealItems (table : StandIns) : List Json → List Json
  | [] => []
  | item :: items => table.revealJson item :: table.revealItems items
termination_by structural items => items

/-- `revealJson` on the values of fields. -/
def revealFields (table : StandIns) : List (LooseText × Json) → List (LooseText × Json)
  | [] => []
  | (key, value) :: fields => (key, table.revealJson value) :: table.revealFields fields
termination_by structural fields => fields

end

end StandIns

end Web

end Docwright
