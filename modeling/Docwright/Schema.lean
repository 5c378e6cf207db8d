import Docwright.Json.Basic

/-!
# Checking the shape of JSON values

A check turns a JSON value into a value of the program or reports every fault it finds: where it
is, what it is, and the part of the document it is about. Strings are taken as they are; no other
kind of value passes for one. Where the length of a string matters, the string has to be whole.
-/

namespace Docwright

namespace Schema

/-- What can be wrong with a part of a document. -/
inductive Issue where
  /-- a field that has to be there is not -/
  | missing
  /-- not a string -/
  | notString
  /-- a string with unpaired surrogates -/
  | tornString
  /-- a string with fewer characters than allowed -/
  | shortString (least : Nat)
  /-- a string with more characters than allowed -/
  | longString (most : Nat)
  /-- not an array -/
  | notArray
  /-- an array with fewer items than allowed -/
  | shortArray (least : Nat)
  /-- not an object, where one called `model` is described -/
  | notObject (model : String)
  deriving DecidableEq, Repr

/-- A number of characters, in words. -/
def characters (n : Nat) : String :=
  toString n ++ (if n = 1 then " character" else " characters")

/-- The short name of an issue. -/
def Issue.code : Issue → String
  | .missing => "missing"
  | .notString => "string_type"
  | .tornString => "string_unicode"
  | .shortString _ => "string_too_short"
  | .longString _ => "string_too_long"
  | .notArray => "list_type"
  | .shortArray _ => "too_short"
  | .notObject _ => "model_type"

/-- The wording of an issue. -/
def Issue.message : Issue → String
  | .missing => "Field required"
  | .notString => "Input should be a valid string"
  | .tornString =>
    "Input should be a valid string, unable to parse raw data as a unicode string"
  | .shortString least => "String should have at least " ++ characters least
  | .longString most => "String should have at most " ++ characters most
  | .notArray => "Input should be a valid list"
  | .shortArray least => "List should have at least " ++ toString least ++ " item after validation"
  | .notObject model => "Input should be a valid dictionary or instance of " ++ model

/-- One fault of a document. -/
structure Fault where
  /-- the names of the fields that lead to the fault -/
  place : List String
  /-- what is wrong -/
  issue : Issue
  /-- the value that is wrong -/
  input : Json

/-- A checked value, or every fault that was found. -/
abbrev Checked (α : Type) := Except (List Fault) α

/-- A check of a value at a place. -/
abbrev Check (α : Type) := List String → Json → Checked α

/-- A single fault. -/
def fault {α : Type} (place : List String) (issue : Issue) (input : Json) : Checked α :=
  .error [⟨place, issue, input⟩]

/-- A checked function applied to a checked value. The faults of both are reported. -/
def Checked.ap {α β : Type} : Checked (α → β) → Checked α → Checked β
  | .ok f, .ok a => .ok (f a)
  | .ok _, .error faults => .error faults
  | .error faults, .ok _ => .error faults
  | .error faults, .error more => .error (faults ++ more)

/-- Any string. -/
def string : Check LooseText := fun place v =>
  match v with
  | .str s => .ok s
  | _ => fault place .notString v

/-- A string of at least `least` and at most `most` characters. -/
def boundedString (least : Nat) (most : Option Nat) : Check String := fun place v =>
  match v with
  | .str s =>
    match s.whole? with
    | none => fault place .tornString v
    | some s =>
      if s.length < least then fault place (.shortString least) v
      else
        match most with
        | some m => if m < s.length then fault place (.longString m) v else .ok s
        | none => .ok s
  | _ => fault place .notString v

/-- Every item of an array passes a check. -/
def items {α : Type} (check : Check α) (place : List String) : List Json → Checked (List α)
  | [] => .ok []
  | v :: rest => Checked.ap ((check place v).map List.cons) (items check place rest)

/-- An array of at least `least` items that pass a check. The number of items is looked at only
when all of them pass. -/
def array {α : Type} (least : Nat) (check : Check α) : Check (List α) := fun place v =>
  match v with
  | .arr xs =>
    match items check place xs with
    | .error faults => .error faults
    | .ok values => if values.length < least then fault place (.shortArray least) v else .ok values
  | _ => fault place .notArray v

/-- A value that may also be `null`. -/
def nullable {α : Type} (check : Check α) : Check (Option α) := fun place v =>
  match v with
  | .null => .ok none
  | v => (check place v).map some

/-- A field that has to be there. -/
def required {α : Type} (key : String) (check : Check α) : Check α := fun place v =>
  match v.field? key with
  | none => fault (place ++ [key]) .missing v
  | some value => check (place ++ [key]) value

/-- A field that may be left out. -/
def optional {α : Type} (key : String) (default : α) (check : Check α) : Check α := fun place v =>
  match v.field? key with
  | none => .ok default
  | some value => check (place ++ [key]) value

/-- An object, checked by what its fields have to be. -/
def object {α : Type} (model : String) (check : Check α) : Check α := fun place v =>
  match v with
  | .obj _ => check place v
  | _ => fault place (.notObject model) v

/-- A fault as a JSON object. -/
def Fault.toJson (f : Fault) : Json :=
  .obj [("input", f.input), ("loc", .strings (f.place.map .ofString)),
    ("msg", .str f.issue.message), ("type", .str f.issue.code),
    ("url", .str ("https://errors.pydantic.dev/2.14/v/" ++ f.issue.code))]

end Schema

end Docwright
