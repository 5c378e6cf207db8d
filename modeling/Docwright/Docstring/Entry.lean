import Docwright.Association
import Docwright.Docstring.Section

/-!
# Entries of a parameter section

An entry starts on a line of its own: a name with up to two stars, an optional type in parentheses,
and a colon. Its description runs to the next entry, to a blank line or to the blanks that close
the section.
-/

namespace Docwright

namespace Docstring

/-- One `name (type): description` entry. -/
structure Entry where
  /-- the name as written, stars included -/
  name : String
  /-- the type, if one is given and not blank -/
  type : Option String
  /-- the description on one line -/
  description : String
  deriving DecidableEq, Repr

/-- The front of an entry. -/
structure EntryHead where
  /-- the name as written, stars included -/
  name : List Char
  /-- the text between the parentheses -/
  type : Option (List Char)
  /-- what follows the colon -/
  rest : List Char

/-- The type in parentheses and the colon behind it. -/
def typedColon? (s : List Char) : Option (List Char × List Char) :=
  match s.dropWhile Text.isBlank with
  | '(' :: inner =>
    match inner.takeWhile (· != ')'), inner.dropWhile (· != ')') with
    | c :: type, ')' :: ':' :: rest => some (c :: type, rest)
    | _, _ => none
  | _ => none

/-- The entry that starts on a line, blanks in front of it skipped. -/
def entryHead? (s : List Char) : Option EntryHead :=
  let s := s.dropWhile Text.isBlank
  let stars := s.takeWhile (· == '*')
  let s := s.dropWhile (· == '*')
  let word := s.takeWhile Text.isIdentChar
  let name := stars ++ word
  if stars.length > 2 || word.isEmpty then none
  else
    match s.dropWhile Text.isIdentChar with
    | ':' :: rest => some { name, type := none, rest }
    | s => (typedColon? s).map fun (type, rest) => { name, type := some type, rest }

/-- Does a description end at the newline in front of `s`? -/
def descriptionEnds (s : List Char) : Bool :=
  (entryHead? s).isSome || blankLineFollows s || Text.allBlank s

/-- The description that a text starts with. -/
def takeDescription : List Char → List Char
  | [] => []
  | c :: s => if c = '\n' && descriptionEnds s then [] else c :: takeDescription s

/-- The entry behind a newline and how many characters it takes. -/
def entryAt? (s : List Char) : Option (Entry × Nat) :=
  (entryHead? s).map fun head =>
    let behind := head.rest.dropWhile isIndent
    let description := takeDescription behind
    let type :=
      match head.type.map Text.trim with
      | some (c :: t) => some (String.ofList (c :: t))
      | _ => none
    let entry : Entry :=
      { name := String.ofList head.name
        type
        description := String.ofList (Text.squeeze description) }
    (entry, s.length - behind.length + description.length)

/-- The entries of a section. The next `skip` characters belong to the entry found last. -/
def entriesFrom (skip : Nat) : List Char → List Entry
  | [] => []
  | c :: s =>
    match skip with
    | skip + 1 => entriesFrom skip s
    | 0 =>
      match if c = '\n' then entryAt? s else none with
      | some (entry, length) => entry :: entriesFrom length s
      | none => entriesFrom 0 s

/-- The entries of a docstring's parameter section by name. An entry whose name came before takes
the place of the earlier one. -/
def entries (docstring : List Char) : Association String Entry :=
  match argsSection? docstring with
  | none => []
  | some body => Association.ofPairs ((entriesFrom 0 body).map fun e => (e.name, e))

/-- A name without the stars in front of it. -/
def bareName (name : String) : List Char :=
  name.toList.dropWhile (· == '*')

/-- The entry of a name; failing that, the first one whose name differs only in its stars. -/
def findEntry? (docstring : List Char) (name : String) : Option Entry :=
  let all := entries docstring
  match all.lookup name with
  | some entry => some entry
  | none => (all.find? fun pair => bareName pair.1 = bareName name).map (·.2)

end Docstring

end Docwright
