import SensorSim.Run.Error
import SensorSim.Field.Fit

/-!
# Notices

What a simulation has to say besides its results, in the order in which it comes up.
-/

namespace SensorSim.Run

open SensorSim.Order (Schedule)

/-- How serious a notice is. -/
inductive Level where
  | warning
  | error
deriving DecidableEq, Repr

def Level.name : Level → String
  | warning => "WARN"
  | error => "ERROR"

/-- Something to be said. -/
inductive Notice where
  /-- A table does not fit the sensor. -/
  | misfit (misfit : Field.Misfit)
  /-- No stage gives a message that another one requires. -/
  | unmet (subscription : Bus.Subscription)
  /-- The optional dependencies of the stages were given up. -/
  | relaxed
  /-- An event was abandoned. -/
  | abandoned (error : EventError)
  /-- An event failed in a way that ends the run. -/
  | fatal (error : EventError)
  /-- A stage failed to be closed. -/
  | closeFailed (error : CloseError)

namespace Notice

def level : Notice → Level
  | misfit _ | unmet _ | relaxed | abandoned _ => .warning
  | fatal _ | closeFailed _ => .error

/-- The wording of a notice. -/
def text : Notice → String
  | misfit m => m.message
  | unmet s => s!"Module {s.stage} requires {s.kind} for {s.scope} but no module publishes it"
  | relaxed => "Optional dependencies form a cycle; ordering by required dependencies only"
  | abandoned e => s!"Abandoned {e.message}"
  | fatal e => e.message
  | closeFailed e => e.message

/-- What there is to say about a schedule. -/
def ofSchedule (s : Schedule) : List Notice :=
  s.unmet.map unmet ++ if s.relaxed then [relaxed] else []

/-- What there is to say about the failure of an event. -/
def ofEventError (e : EventError) : Notice :=
  if e.isRecoverable then abandoned e else fatal e

end Notice

end SensorSim.Run
