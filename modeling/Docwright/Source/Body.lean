import Docwright.Text.Blank

/-!
# Bodies of definitions

A body runs to the next line that starts in column zero, or to the end of the text. Lines inside a
triple-quoted literal do not count. The text is read one character at a time, in a *mode* that says
whether the reader is in code, in a comment or in a literal. A short literal ends with its line at
the latest, and a backslash in it takes the next character along.
-/

namespace Docwright

namespace Source

/-- Where the reader of a body stands. -/
inductive Mode where
  /-- outside comments and literals -/
  | code
  /-- behind a number sign -/
  | comment
  /-- in a literal between single `quote`s -/
  | short (quote : Char)
  /-- behind a backslash in a short literal -/
  | escaped (quote : Char)
  /-- `left` more quotes of an opening triple to come -/
  | opening (quote : Char) (left : Nat)
  /-- in a literal between triple `quote`s -/
  | long (quote : Char)
  /-- `left` more quotes of a closing triple to come -/
  | closing (quote : Char) (left : Nat)
  deriving DecidableEq, Repr

/-- Is `c` a quote? -/
def isQuote (c : Char) : Bool :=
  c == '\'' || c == '"'

/-- Do two more `quote`s follow? -/
def twoMore (quote : Char) : List Char → Bool
  | a :: b :: _ => a == quote && b == quote
  | _ => false

/-- The mode behind the character `c`, which `rest` follows. -/
def Mode.step (mode : Mode) (c : Char) (rest : List Char) : Mode :=
  match mode with
  | .code =>
    if c = '#' then .comment
    else if isQuote c then if twoMore c rest then .opening c 2 else .short c
    else .code
  | .comment => if c = '\n' then .code else .comment
  | .short quote =>
    if c = '\\' then .escaped quote
    else if c = quote || c = '\n' then .code
    else .short quote
  | .escaped quote => .short quote
  | .opening quote left => if left ≤ 1 then .long quote else .opening quote (left - 1)
  | .long quote => if c = quote && twoMore quote rest then .closing quote 2 else .long quote
  | .closing quote left => if left ≤ 1 then .code else .closing quote (left - 1)

/-- May a line that ends in this mode end the body? -/
def Mode.atLineEnd : Mode → Bool
  | .code | .comment | .short _ => true
  | _ => false

/-- Does the text start with something in column zero? -/
def inColumnZero : List Char → Bool
  | [] => false
  | c :: _ => !Text.isAsciiBlank c

/-- Does the body end at the newline `c`, which `rest` follows? -/
def isBoundary (mode : Mode) (c : Char) (rest : List Char) : Bool :=
  c == '\n' && mode.atLineEnd && inColumnZero rest

/-- The rest of a body and the text behind it. -/
def splitBody (mode : Mode) : List Char → List Char × List Char
  | [] => ([], [])
  | c :: s =>
    if isBoundary mode c s then ([], c :: s)
    else
      let (body, rest) := splitBody (mode.step c s) s
      (c :: body, rest)

/-- Nothing is lost between a body and the text behind it. -/
theorem splitBody_append (mode : Mode) (s : List Char) :
    (splitBody mode s).1 ++ (splitBody mode s).2 = s := by
  induction s generalizing mode with
  | nil => rfl
  | cons c s ih =>
    rw [splitBody]
    split
    · rfl
    · simp [ih]

end Source

end Docwright
