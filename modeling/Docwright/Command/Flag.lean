import Docwright.Text.Digit
import Docwright.Text.Glyph
import Docwright.Text.Search

/-!
# Flags

The flags of the command line, and how one argument is read: as a word, as the mark behind which
everything is a word, or as a flag, which may be shortened and may have a value joined to it. A
word may be a path that holds bytes, so arguments are loose texts.
-/

namespace Docwright

namespace Command

/-- The flags of the command. -/
inductive Flag where
  /-- show the help text -/
  | help
  /-- the directory for the documents -/
  | output
  /-- the format of the documents -/
  | format
  /-- the name of the functions to document -/
  | function
  /-- ask the remote service -/
  | remote
  /-- take a missing docstring for an error -/
  | strict
  /-- log everything -/
  | verbose
  deriving DecidableEq, Repr

namespace Flag

/-- The spellings of all flags in the order of the help text. -/
def spellings : List (String × Flag) :=
  [("-h", .help), ("--help", .help), ("-o", .output), ("--output", .output),
   ("--format", .format), ("--function", .function), ("--remote", .remote),
   ("--strict", .strict), ("-v", .verbose), ("--verbose", .verbose)]

/-- The flag with exactly this spelling. -/
def ofSpelling? (s : LooseText) : Option Flag :=
  s.whole?.bind fun spelling => spellings.lookup spelling

/-- All spellings of a flag, as messages name it. -/
def name (f : Flag) : String :=
  "/".intercalate ((spellings.filter fun spelling => spelling.2 = f).map (·.1))

/-- Does the flag need a value? -/
def takesValue : Flag → Bool
  | .output => true
  | .format => true
  | .function => true
  | _ => false

end Flag

/-- The mark behind which everything is a word. -/
def mark : String := "--"

/-- One argument of the command line. -/
inductive Token where
  /-- a word -/
  | word (text : LooseText)
  /-- the mark behind which everything is a word -/
  | mark
  /-- something like a flag that is none -/
  | unknown (text : LooseText)
  /-- a flag, spelled with one dash or with two, and what is joined to it -/
  | flag (flag : Flag) (isLong : Bool) (joined : Option LooseText)
  deriving DecidableEq, Repr

/-- A spelling that could be more than one flag. -/
structure Ambiguity where
  /-- what was given -/
  given : LooseText
  /-- what it could be -/
  candidates : List String
  deriving DecidableEq, Repr

namespace Token

/-- Is it a minus sign and a decimal number? A newline may stand behind the number. -/
def isNegativeNumber (s : LooseText) : Bool :=
  let isDigit (g : Glyph) := g.isIn fun c => (Text.digitValue? c).isSome
  let digits (t : LooseText) := !t.isEmpty && t.all isDigit
  match s with
  | .char '-' :: t =>
    let t := if t.getLast? = some (.char '\n') then t.dropLast else t
    match Text.splitFirst (.char '.') t with
    | (whole, none) => digits whole
    | (whole, some fraction) => (whole.isEmpty || digits whole) && digits fraction
  | _ => false

/-- What is no flag is still a word if it is a negative number or has a space in it. -/
def other (s : LooseText) : Token :=
  if isNegativeNumber s || s.contains (.char ' ') then .word s else .unknown s

/-- A flag with two dashes that may be shortened. -/
def shortened (s name : LooseText) (value : Option LooseText) : Except Ambiguity Token :=
  let found := Flag.spellings.filter fun spelling => name.isPrefixOf (spelling.1 : LooseText)
  match found with
  | [] => .ok (other s)
  | [(_, f)] => .ok (.flag f true value)
  | _ => .error ⟨s, found.map (·.1)⟩

/-- An argument that starts with a dash and is longer than that. -/
def ofDashed (s : LooseText) : Except Ambiguity Token :=
  let isLong := s.take 2 = [.char '-', .char '-']
  let (name, value) := Text.splitFirst (.char '=') s
  match Flag.ofSpelling? s with
  | some f => .ok (.flag f isLong none)
  | none =>
    match value, Flag.ofSpelling? name with
    | some value, some f => .ok (.flag f isLong (some value))
    | _, _ =>
      if isLong then shortened s name value
      else
        match Flag.ofSpelling? (s.take 2) with
        | some f => .ok (.flag f false (some (s.drop 2)))
        | none => .ok (other s)

/-- An argument in front of the mark. -/
def ofText (text : LooseText) : Except Ambiguity Token :=
  match text with
  | .char '-' :: g :: s => ofDashed (.char '-' :: g :: s)
  | _ => .ok (.word text)

/-- The arguments of a command line. -/
def readAll : List LooseText → Except Ambiguity (List Token)
  | [] => .ok []
  | text :: rest =>
    if text = LooseText.ofString Command.mark then .ok (.mark :: rest.map .word)
    else
      match ofText text with
      | .error ambiguity => .error ambiguity
      | .ok token => (readAll rest).map (token :: ·)

end Token

end Command

end Docwright
