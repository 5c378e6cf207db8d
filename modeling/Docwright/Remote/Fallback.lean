import Docwright.Documentation.Synthesis
import Docwright.Remote.Service
import Docwright.Workers

/-!
# Documentation with a fallback

A routine is documented by the remote service when there is one. The service's documentation is
taken whole or not at all: on a failure the routine documents itself, and a warning is left.
-/

namespace Docwright

namespace Remote

/-- Documentation, with the warning that its making left. -/
structure Outcome where
  /-- the documentation -/
  documentation : Documentation
  /-- the warning about a failure of the service -/
  warning : Option String := none
  deriving DecidableEq, Repr

/-- The warning about a failure. -/
def warningText (r : Routine) (failure : Failure) : String :=
  "Remote documentation failed for " ++ r.name ++ ", using heuristics: " ++ failure.message

/-- The documentation of a routine. -/
def document (service : Option Service) (r : Routine) : Except Crash Outcome :=
  match service with
  | none => .ok { documentation := r.synthesize }
  | some service =>
    match (service.consult r).outcome with
    | .ok d => .ok { documentation := d }
    | .error (.failed failure) =>
      .ok { documentation := r.synthesize, warning := some (warningText r failure) }
    | .error (.crashed crash) => .error crash

/-- The documentation of each routine of a batch. -/
def documentEach (service : Option Service) : List Routine → Except Crash (List Documented)
  | [] => .ok []
  | r :: rest =>
    match document service r with
    | .error crash => .error crash
    | .ok outcome =>
      match documentEach service rest with
      | .error crash => .error crash
      | .ok pairs => .ok ((r, outcome.documentation) :: pairs)

/-- A batch of routines with their documentation, in order. Workers are needed only when a service
is asked. -/
def documentAll (service : Option Service) (workers : Option Int) (routines : List Routine) :
    Except Crash (List Documented) :=
  match service with
  | none => documentEach none routines
  | some service =>
    match checkWorkers workers with
    | .error crash => .error crash
    | .ok () => documentEach (some service) routines

end Remote

end Docwright
