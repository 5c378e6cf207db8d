import Docwright.Crash

/-!
# Workers

A batch may be shared out among workers. How many there are does not show in what comes of it, but
there has to be one.
-/

namespace Docwright

/-- A number of workers, if it is given, has to be positive. -/
def checkWorkers (workers : Option Int) : Except Crash Unit :=
  if workers.any (· ≤ 0) then .error .noWorkers else .ok ()

end Docwright
