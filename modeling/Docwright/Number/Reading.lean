import Docwright.Number.Binary64
import Docwright.Text.Blank
import Docwright.Text.Digit

/-!
# Reading numbers

Texts of numbers as people write them: blanks around them, digits of any script, single underscores
between digits, a sign, a point, an exponent, and the words for infinity and the non-number. Whole
numbers may also be written in base two, eight or sixteen behind `0b`, `0o` or `0x`.
-/

namespace Docwright

namespace Number

/-- The value of a run of ASCII digits. -/
def digitsValue (digits : List Char) : Nat :=
  digits.foldl (fun n c => 10 * n + (c.toNat - 0x30)) 0

/-- A character of a number text in ASCII: digits of any script become ASCII digits, blanks beyond
ASCII become spaces, and any other character beyond ASCII becomes one that no number holds. -/
def plainChar (c : Char) : Char :=
  if c.toNat < 0x7f then c
  else if Text.isBlank c then ' '
  else
    match Text.digitValue? c with
    | some v => Char.ofNat (0x30 + v)
    | none => '?'

/-- A number text in ASCII, without the ASCII blanks at its ends. -/
def plainText (s : List Char) : List Char :=
  let plain := (s.map plainChar).dropWhile Text.isAsciiBlank
  (plain.reverse.dropWhile Text.isAsciiBlank).reverse

/-- The text without its underscores, each of which has to stand between two digits. `before` is
the character that came last. -/
def dropUnderscores? (before : Char) : List Char → Option (List Char)
  | [] => if before = '_' then none else some []
  | c :: s =>
    if c = '_' then if before.isDigit then dropUnderscores? c s else none
    else if before = '_' && !c.isDigit then none
    else (dropUnderscores? c s).map (c :: ·)

/-- Is the sign a minus, and what follows the sign? -/
def splitSign : List Char → Bool × List Char
  | '-' :: s => (true, s)
  | '+' :: s => (false, s)
  | s => (false, s)

/-- A signed run of digits, with nothing behind it. -/
def exponent? (s : List Char) : Option Int :=
  let (negative, digits) := splitSign s
  if digits.isEmpty || !digits.all Char.isDigit then none
  else
    let n : Int := digitsValue digits
    some (if negative then -n else n)

/-- An unsigned decimal with an optional exponent, as its digits and the power of ten behind
them. -/
def unsignedDecimal? (s : List Char) : Option (Nat × Int) :=
  let whole := s.takeWhile Char.isDigit
  let s := s.dropWhile Char.isDigit
  let (fraction, s) :=
    match s with
    | '.' :: s => (s.takeWhile Char.isDigit, s.dropWhile Char.isDigit)
    | s => ([], s)
  if whole.isEmpty && fraction.isEmpty then none
  else
    let value := digitsValue (whole ++ fraction)
    match s with
    | [] => some (value, -(fraction.length : Int))
    | c :: s =>
      if c = 'e' || c = 'E' then (exponent? s).map fun e => (value, e - fraction.length) else none

/-- The binary value of a decimal text. -/
def binary? (s : List Char) : Option Binary64 :=
  match dropUnderscores? ' ' (plainText s) with
  | none => none
  | some s =>
    let (negative, body) := splitSign s
    let word := body.map Char.toLower
    if word = "inf".toList ∨ word = "infinity".toList then some (.infinite negative)
    else if word = "nan".toList then some .nan
    else (unsignedDecimal? body).map fun (n, e) => .ofDecimal negative n e

/-- Is the text a whole number in base two, eight or sixteen, marked as such? -/
def isRadixText (s : List Char) : Bool :=
  let digitBelow (base : Nat) (c : Char) : Bool := (Text.hexValue? c).any (· < base)
  let run (base : Nat) (digits : List Char) : Bool :=
    !digits.isEmpty && digits.all (digitBelow base)
  match (splitSign (plainText s)).2 with
  | '0' :: mark :: digits =>
    if mark = 'x' || mark = 'X' then run 16 digits
    else if mark = 'o' || mark = 'O' then run 8 digits
    else if mark = 'b' || mark = 'B' then run 2 digits
    else false
  | _ => false

/-- Is the text a finite number, written without underscores? -/
def isNumberText (s : List Char) : Bool :=
  if s.contains '_' then false
  else
    match binary? s with
    | some x => x.isFinite
    | none => isRadixText s

end Number

end Docwright
