import Docwright.Routine.Basic

/-!
# Documentation

What is written about one routine. The texts of which the shape of a reply asks nothing but that
they are strings are loose texts.
-/

namespace Docwright

/-- What is written about one parameter. -/
structure ParameterNote where
  /-- the name of the parameter -/
  name : String
  /-- the type that is shown -/
  type : LooseText
  /-- what the parameter is for -/
  description : LooseText
  deriving DecidableEq, Repr, Inhabited

/-- What is written about one routine. -/
structure Documentation where
  /-- the heading -/
  title : String
  /-- what the routine does, in a sentence or two -/
  description : LooseText
  /-- claims about what the routine does -/
  functionality : List LooseText
  /-- one note per parameter -/
  parameters : List ParameterNote
  /-- the steps of the routine in order -/
  steps : List LooseText
  /-- what the routine returns -/
  returns : String
  deriving DecidableEq, Repr, Inhabited

/-- The names of the documented parameters in order. -/
def Documentation.parameterNames (d : Documentation) : List String :=
  d.parameters.map (·.name)

/-- A routine with its documentation. -/
abbrev Documented := Routine × Documentation

end Docwright
