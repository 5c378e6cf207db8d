import Docwright.Text.Printable
import Docwright.Text.Digit
import Docwright.Text.Glyph

/-!
# Quoted text

Messages show a name between quotes, with everything that is not printable escaped, unpaired
surrogates too. Single quotes are used unless the text holds a single quote and no double quote.
-/

namespace Docwright.Text

/-- The quote a text is written between. -/
def quoteMark (s : LooseText) : Char :=
  if s.contains '\'' && !s.contains '"' then '"' else '\''

/-- One character of a text between two `mark`s. -/
def escapeQuoted (mark c : Char) : List Char :=
  if c = mark || c = '\\' then ['\\', c]
  else if c = '\t' then ['\\', 't']
  else if c = '\n' then ['\\', 'n']
  else if c = '\r' then ['\\', 'r']
  else if isPrintable c then [c]
  else if c.toNat < 0x100 then '\\' :: 'x' :: hexDigits 2 c.toNat
  else if c.toNat < 0x10000 then '\\' :: 'u' :: hexDigits 4 c.toNat
  else '\\' :: 'U' :: hexDigits 8 c.toNat

/-- The escape of a surrogate without its partner. -/
def loneEscape (g : Glyph) : List Char :=
  '\\' :: 'u' :: hexDigits 4 g.code

/-- One glyph of a text between two `mark`s. -/
def escapeQuotedGlyph (mark : Char) : Glyph → List Char
  | .char c => escapeQuoted mark c
  | .lone offset => loneEscape (.lone offset)

/-- A text between quotes. -/
def quoted (s : LooseText) : String :=
  let mark := quoteMark s
  String.ofList (mark :: s.flatMap (escapeQuotedGlyph mark) ++ [mark])

/-- A text with its unpaired surrogates escaped. -/
def spelledOut (s : LooseText) : String :=
  String.ofList <| s.flatMap fun
    | .char c => [c]
    | .lone offset => loneEscape (.lone offset)

/-- Quoted texts between brackets. -/
def quotedList (items : List String) : String :=
  "[" ++ String.intercalate ", " (items.map fun (item : String) => quoted item) ++ "]"

end Docwright.Text
