import Docwright.Text.Alphanumeric
import Docwright.Text.Search

/-!
# Headers of definitions

A header is the defining word, an identifier, a parameter list in parentheses, an optional arrow
with an annotation, and a colon. The list is closed by the first parenthesis that is followed at
once by the colon, or by an arrow with a colon somewhere behind it; parentheses before that one are
part of the list.
-/

namespace Docwright

namespace Source

/-- The word that opens a definition. -/
def definingWord : List Char := "def".toList

/-- The name of a definition and the text behind its opening parenthesis. -/
def opening? (s : List Char) : Option (List Char × List Char) :=
  match Text.after? definingWord s with
  | none => none
  | some rest =>
    let named := rest.dropWhile Text.isBlank
    let name := named.takeWhile Text.isIdentChar
    match rest, name, (named.dropWhile Text.isIdentChar).dropWhile Text.isBlank with
    | c :: _, first :: _, '(' :: behind =>
      if Text.isBlank c && Text.isIdentStart first then some (name, behind) else none
    | _, _, _ => none

/-- The text between an arrow and the colon that ends the header, and what follows the colon. There
is no arrow when the colon comes at once. -/
def headerEnd? (s : List Char) : Option (Option (List Char) × List Char) :=
  match s with
  | ':' :: rest => some (none, rest)
  | _ =>
    match s.dropWhile Text.isBlank with
    | '-' :: '>' :: rest =>
      match Text.splitFirst ':' rest with
      | (arrowed, some rest) => some (some arrowed, rest)
      | (_, none) => none
    | _ => none

/-- The part of a header behind the opening parenthesis. -/
structure Signature where
  /-- the parameter list -/
  params : List Char
  /-- the text behind the arrow -/
  arrowed : Option (List Char)
  /-- what follows the colon -/
  rest : List Char

/-- A signature whose parameter list has one character more in front. -/
def Signature.push (c : Char) (sig : Signature) : Signature :=
  { sig with params := c :: sig.params }

/-- The signature that closes first. -/
def signature? : List Char → Option Signature
  | [] => none
  | c :: s =>
    if c = ')' then
      match headerEnd? s with
      | some (arrowed, rest) => some { params := [], arrowed, rest }
      | none => (signature? s).map (·.push c)
    else (signature? s).map (·.push c)

/-- The trimmed annotation, if it is not blank. -/
def Signature.returnType (sig : Signature) : Option (List Char) :=
  match sig.arrowed.map Text.trim with
  | some (c :: s) => some (c :: s)
  | _ => none

end Source

end Docwright
