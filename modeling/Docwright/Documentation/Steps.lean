import Docwright.Documentation.Heading
import Docwright.Source.Body

/-!
# Processing steps

The steps of a routine are its comments when there are at least two. Otherwise they are the control
words of its lines, each kind once, with a single comment at its place among them. A routine without
any of these gets general steps.
-/

namespace Docwright

namespace Steps

/-- Is the text one of the two triple quotes? -/
def isTriple (s : List Char) : Bool :=
  s = "\"\"\"".toList || s = "'''".toList

/-- The lines behind the first one that holds the delimiter. -/
def linesBehind (delimiter : List Char) : List (List Char) → List (List Char)
  | [] => []
  | line :: rest => if Text.occurs delimiter line then rest else linesBehind delimiter rest

/-- The lines behind the first line of a text and behind a docstring that opens them. -/
def bodyLines (source : List Char) : List (List Char) :=
  match ((Text.lines source).drop 1).dropWhile Text.allBlank with
  | [] => []
  | line :: rest =>
    let first := Text.trim line
    let delimiter := first.take 3
    if isTriple delimiter then
      if Text.occurs delimiter (first.drop 3) then rest else linesBehind delimiter rest
    else line :: rest

/-- The comment of a line from some character on. `opened` is the delimiter of the literal that the
reader is in, and the next `skip` characters are already read. -/
def commentFrom (opened : Option (List Char)) (skip : Nat) : List Char → Option (List Char)
  | [] => none
  | c :: s =>
    match skip, opened with
    | skip + 1, _ => commentFrom opened skip s
    | 0, some delimiter =>
      if c = '\\' then commentFrom opened 1 s
      else if delimiter.isPrefixOf (c :: s) then commentFrom none (delimiter.length - 1) s
      else commentFrom opened 0 s
    | 0, none =>
      if c = '#' then some (Text.trim s)
      else if Source.isQuote c then
        let delimiter := if Source.twoMore c s then [c, c, c] else [c]
        commentFrom (some delimiter) (delimiter.length - 1) s
      else commentFrom none 0 s

/-- The text of the comment on a line. A number sign inside a literal opens no comment. -/
def comment? (line : List Char) : Option (List Char) :=
  commentFrom none 0 line

/-- The comment of a line, if it is long enough to be a step. -/
def note? (line : List Char) : Option String :=
  (comment? line).bind fun text => if 3 < text.length then some (String.ofList text) else none

/-- The control words that make a step, each with its sentence. -/
def signals : List (String × String) :=
  [("for ", "Iterate through items to process data."),
   ("while ", "Iterate through conditions to process data."),
   ("if ", "Evaluate conditions to determine processing path."),
   ("try:", "Attempt operations with error handling."),
   ("return ", "Return the processed results.")]

/-- The step of the control word that a trimmed line starts with. -/
def signal? (line : List Char) : Option String :=
  (signals.find? fun row => row.1.toList.isPrefixOf line).map (·.2)

/-- The steps of some lines: of each line its control word, unless that kind is in `seen`, and then
its comment. -/
def mixed (seen : List String) : List (List Char) → List String
  | [] => []
  | line :: rest =>
    let fresh := (signal? (Text.trim line)).filter fun step => !seen.contains step
    fresh.toList ++ (note? line).toList ++ mixed (fresh.toList ++ seen) rest

/-- The steps of a routine of which nothing is known. -/
def general (r : Routine) : List String :=
  ["Initialize processing for " ++ spaced r.name ++ "."] ++
    (if r.parameters.isEmpty then []
      else ["Process input parameters: " ++ String.intercalate ", " r.parameterNames ++ "."]) ++
    ["Perform core functionality and return results."]

end Steps

/-- The steps of a routine. -/
def Routine.steps (r : Routine) : List String :=
  let lines := Steps.bodyLines r.source.toList
  let notes := lines.filterMap Steps.note?
  if 2 ≤ notes.length then notes
  else
    let found := Steps.mixed [] lines
    if found.isEmpty then Steps.general r else found

end Docwright
