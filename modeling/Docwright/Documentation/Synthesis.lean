import Docwright.Documentation.Functionality
import Docwright.Documentation.ParameterNotes
import Docwright.Documentation.Returns
import Docwright.Documentation.Steps

/-!
# Synthesis

Documentation made up from nothing but the routine itself.
-/

namespace Docwright

/-- The documentation that a routine's text and docstring give rise to. -/
def Routine.synthesize (r : Routine) : Documentation where
  title := r.title
  description := r.description
  functionality := r.functionality.map .ofString
  parameters := r.parameterNotes
  steps := r.steps.map .ofString
  returns := r.returns

end Docwright
