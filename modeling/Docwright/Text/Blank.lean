/-!
# Blanks and trimming

Two classes of blank characters are in use. *Blanks* are the white space of Unicode; texts are
trimmed of them and patterns skip them. The six *ASCII blanks* are the only ones that a function
body looks at when it decides whether the next line starts in column zero.
-/

namespace Docwright.Text

/-- Space, tab, newline, carriage return, form feed or vertical tab. -/
def isAsciiBlank (c : Char) : Bool :=
  c == ' ' || c == '\t' || c == '\n' || c == '\r' || c == '\x0c' || c == '\x0b'

/-- White space of Unicode, together with the four ASCII separators U+001C to U+001F. -/
def isBlank (c : Char) : Bool :=
  isAsciiBlank c ||
    (0x1c ≤ c.toNat && c.toNat ≤ 0x1f) ||
    c.toNat == 0x85 || c.toNat == 0xa0 || c.toNat == 0x1680 ||
    (0x2000 ≤ c.toNat && c.toNat ≤ 0x200a) ||
    c.toNat == 0x2028 || c.toNat == 0x2029 || c.toNat == 0x202f || c.toNat == 0x205f ||
    c.toNat == 0x3000

/-- A text without the blanks it starts with. -/
def trimStart (s : List Char) : List Char :=
  s.dropWhile isBlank

/-- A text without the blanks it ends with. -/
def trimEnd (s : List Char) : List Char :=
  (s.reverse.dropWhile isBlank).reverse

/-- A text without the blanks at either end. -/
def trim (s : List Char) : List Char :=
  trimEnd (trimStart s)

/-- Is there nothing but blanks in the text? -/
def allBlank (s : List Char) : Bool :=
  s.all isBlank

/-- `trim` on strings. -/
def trimmed (s : String) : String :=
  String.ofList (trim s.toList)

/-! ## Small facts -/

/-- A text that starts with a character that is no blank keeps it under `trimStart`. -/
theorem trimStart_cons_of_not {c : Char} {s : List Char} (h : isBlank c = false) :
    trimStart (c :: s) = c :: s := by
  simp [trimStart, h]

/-- Leading blanks do not matter to `trimStart`. -/
theorem trimStart_cons_of_blank {c : Char} {s : List Char} (h : isBlank c = true) :
    trimStart (c :: s) = trimStart s := by
  simp [trimStart, h]

end Docwright.Text
