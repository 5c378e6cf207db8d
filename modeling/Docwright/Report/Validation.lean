import Docwright.Documentation.Basic
import Docwright.Number.Shortest
import Docwright.Text.Blank
import Docwright.Text.Quoted

/-!
# Validation and coverage

Documentation has to claim something, to name steps and a returned value, and to have one note per
declared parameter in the same order. A routine should have a docstring; whether a missing one is
an error or a warning depends on the strictness. Coverage is the share of routines that have one.
-/

namespace Docwright

/-- What can be wrong with a documented routine. -/
inductive Complaint where
  /-- there is no docstring, or an empty one -/
  | noDocstring
  /-- nothing is claimed -/
  | noFunctionality
  /-- there are no steps -/
  | noSteps
  /-- the returned value is described by blanks -/
  | noReturns
  /-- the notes do not match the declared parameters -/
  | parameters (documented declared : List String)
  deriving DecidableEq, Repr

/-- The wording of a complaint, behind the label of the routine. -/
def Complaint.message : Complaint → String
  | .noDocstring => "missing docstring (documentation is inferred)"
  | .noFunctionality => "no functionality claims"
  | .noSteps => "no processing steps"
  | .noReturns => "empty returns description"
  | .parameters documented declared =>
    "parameters documented as " ++ Text.quotedList documented ++ ", declared " ++
      Text.quotedList declared

/-- What validation found. -/
structure Findings where
  /-- findings that make a run fail -/
  errors : List LooseText := []
  /-- findings that are only reported -/
  warnings : List LooseText := []
  deriving DecidableEq, Repr

namespace Documented

/-- A complaint with the label of its routine. -/
def sentence (pair : Documented) (complaint : Complaint) : LooseText :=
  pair.1.label ++ ": " ++ complaint.message

/-- Complaints about a missing docstring. -/
def docstringComplaints (pair : Documented) : List Complaint :=
  if pair.1.isDocumented then [] else [.noDocstring]

/-- Complaints about the documentation. -/
def contentComplaints (pair : Documented) : List Complaint :=
  let (r, d) := pair
  (if d.functionality.isEmpty then [.noFunctionality] else []) ++
  (if d.steps.isEmpty then [.noSteps] else []) ++
  (if Text.allBlank d.returns.toList then [.noReturns] else []) ++
  (if d.parameterNames = r.parameterNames then []
    else [.parameters d.parameterNames r.parameterNames])

/-- The findings about one documented routine. -/
def validate (strict : Bool) (pair : Documented) : Findings :=
  let missing := pair.docstringComplaints.map pair.sentence
  let content := pair.contentComplaints.map pair.sentence
  if strict then { errors := missing ++ content } else { errors := content, warnings := missing }

end Documented

/-- The findings about documented routines, in order. -/
def validate (strict : Bool) (pairs : List Documented) : Findings where
  errors := pairs.flatMap fun pair => (pair.validate strict).errors
  warnings := pairs.flatMap fun pair => (pair.validate strict).warnings

/-- How many of some routines have a docstring. -/
def documentedCount (routines : List Routine) : Nat :=
  routines.countP (·.isDocumented)

/-- The share of routines that have a docstring; all of them when there are none. -/
def coverage (routines : List Routine) : Binary64 :=
  if routines.isEmpty then .ofRatio false 1 1
  else .ofRatio false (documentedCount routines) routines.length

/-- A share in whole percent: a hundred times the share, rounded to the number format and then to
the nearest whole number, a tie going to the even one. -/
def percentText (share : Binary64) : String :=
  toString (share.mulNat 100).nearestNat ++ "%"

end Docwright
