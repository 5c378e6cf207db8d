import Docwright.Source.Header
import Docwright.Source.Body

/-!
# Definitions in a source text

The scan finds the leftmost definitions that do not overlap. It tries every position in turn; where
a header stands, the definition runs to the end of its body, and the positions inside it are
skipped.
-/

namespace Docwright

namespace Source

/-- One definition of a source text. -/
structure Definition where
  /-- the identifier behind the defining word -/
  name : List Char
  /-- the text between the parentheses -/
  params : List Char
  /-- the annotation behind the arrow -/
  returnType : Option (List Char)
  /-- the body without the ASCII blanks it starts with -/
  body : List Char
  /-- the whole definition -/
  text : List Char
  /-- the position of its first character -/
  start : Nat
  deriving DecidableEq, Repr

/-- The position behind a definition. -/
def Definition.stop (d : Definition) : Nat :=
  d.start + d.text.length

/-- The definition that starts at position `start`, where the text goes on with `s` and `before` is
the character in front. A defining word inside an identifier does not count. -/
def definitionAt? (before : Option Char) (start : Nat) (s : List Char) : Option Definition :=
  if before.any Text.isIdentChar then none
  else
    match opening? s with
    | none => none
    | some (name, behind) =>
      match signature? behind with
      | none => none
      | some sig =>
        let (body, rest) := splitBody .code (sig.rest.dropWhile Text.isAsciiBlank)
        some
          { name, params := sig.params, returnType := sig.returnType, body
            text := s.take (s.length - rest.length), start }

/-- The definitions of `s`, which starts at position `pos`. The next `skip` characters belong to
the definition found last. -/
def scanFrom (before : Option Char) (pos skip : Nat) : List Char → List Definition
  | [] => []
  | c :: s =>
    match skip with
    | skip + 1 => scanFrom (some c) (pos + 1) skip s
    | 0 =>
      match definitionAt? before pos (c :: s) with
      | some d => d :: scanFrom (some c) (pos + 1) (d.text.length - 1) s
      | none => scanFrom (some c) (pos + 1) 0 s

/-- The definitions of a text from a position on. -/
def scanAt (pos : Nat) (text : List Char) : List Definition :=
  scanFrom (text.take pos).getLast? pos 0 (text.drop pos)

/-- The definitions of a text. -/
def scan (text : List Char) : List Definition :=
  scanFrom none 0 0 text

end Source

end Docwright
