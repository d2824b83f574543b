import Nullability.Severity
import Nullability.Value

/-!
# Events

What operations report while they run: how important something is, what it is called, and the values
it is about.
-/

namespace Nullability

/-- Something that an operation reports. -/
structure Event where
  severity : Severity
  name : String
  fields : List (String × Value)
  deriving Inhabited

/-- The end of a phase, with the time it took in milliseconds. -/
def Event.phaseEnded (phase : String) (milliseconds : Binary64) : Event :=
  ⟨.debug, "phase_timed", [("phase", .text phase), ("duration_ms", .real milliseconds)]⟩

end Nullability
