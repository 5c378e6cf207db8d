import Docwright.Docstring.Section
import Docwright.Number.Reading
import Docwright.Routine.Basic

/-!
# What a routine returns

The returns section of the docstring is taken when there is one. Otherwise the last expression that
is returned is classified, and failing that the annotation behind the arrow.
-/

namespace Docwright

namespace Returns

/-- Kinds of returned values. -/
inductive Shape where
  /-- a dictionary -/
  | dictionary
  /-- a list -/
  | list
  /-- a truth value -/
  | truth
  /-- a number -/
  | number
  /-- a string -/
  | string
  deriving DecidableEq, Repr

/-- The sentence about a kind of value. -/
def Shape.sentence : Shape → String
  | .dictionary => "Returns a dictionary containing the processed data."
  | .list => "Returns a list of processed elements."
  | .truth => "Returns a boolean indicating success or failure of the operation."
  | .number => "Returns a numeric value representing the computation result."
  | .string => "Returns a string representation of the processed data."

/-- The sentence about a value of unknown kind. -/
def unknownSentence : String := "Returns the result of processing the input parameters."

/-- The sentence about a routine that returns no expression. -/
def absentSentence : String := "Returns the result of the computation."

/-- The returned expressions of a text. An expression follows the word `return` and a space or tab
and runs to the end of the line or to a number sign, which is taken along. The next `skip`
characters are already read, and `before` is the character in front. -/
def expressionsFrom (before : Option Char) (skip : Nat) : List Char → List (List Char)
  | [] => []
  | c :: s =>
    match skip with
    | skip + 1 => expressionsFrom (some c) skip s
    | 0 =>
      match if before.any Text.isWordChar then none else Text.after? "return".toList (c :: s) with
      | some (gap :: rest) =>
        if Docstring.isIndent gap then
          let line := rest.dropWhile Docstring.isIndent
          let expression := line.takeWhile fun c => c != '\n' && c != '#'
          let behind := line.drop expression.length
          let taken := s.length - behind.length + (if behind.head? = some '#' then 1 else 0)
          expression :: expressionsFrom (some c) taken s
        else expressionsFrom (some c) 0 s
      | _ => expressionsFrom (some c) 0 s

/-- The returned expressions of a text in order. -/
def expressions (source : List Char) : List (List Char) :=
  expressionsFrom none 0 source

/-- The kind of value that an expression looks like. -/
def ofExpression? (expression : List Char) : Option Shape :=
  let has (word : String) : Bool := Text.occurs word.toList expression
  let opens (marks : List Char) : Bool := expression.head?.any marks.contains
  if has "dict" || opens ['{'] then some .dictionary
  else if has "list" || opens ['['] then some .list
  else if has "True" || has "False" then some .truth
  else if Number.isNumberText expression then some .number
  else if has "str" || opens ['\'', '"'] then some .string
  else none

/-- The kind of value that an annotation names. -/
def ofAnnotated? (declared : Option String) : Option Shape :=
  match declared with
  | none => none
  | some text =>
    let has (word : String) : Bool := Text.mentions text word
    if has "dict" || has "Dict" then some .dictionary
    else if has "list" || has "List" then some .list
    else if has "bool" then some .truth
    else if has "int" || has "float" || has "complex" || has "Decimal" then some .number
    else if has "str" then some .string
    else none

end Returns

/-- What a routine returns. -/
def Routine.returns (r : Routine) : String :=
  match Docstring.returnsSection? (r.docstring.getD "").toList with
  | some text => String.ofList text
  | none =>
    match (Returns.expressions r.source.toList).getLast? with
    | none => Returns.absentSentence
    | some expression =>
      let seen := Returns.ofExpression? (Text.trim expression)
      match seen.or (Returns.ofAnnotated? r.returnType) with
      | some shape => shape.sentence
      | none => Returns.unknownSentence

end Docwright
