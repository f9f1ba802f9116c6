import CommandSpec.Event
import CommandSpec.Fault

/-!
# Logged — steps that may fail and log events either way

Documentation is read and types are declared in steps that log what they do.  What has been logged
stays logged when a later step fails.
-/

namespace CommandSpec

/-- A step that may fail and logs events either way. -/
abbrev Logged := EStateM Fault (List Event)

namespace Logged

/-- Log an event. -/
def log (e : Event) : Logged Unit := modify (· ++ [e])

/-- A result as a step that logs nothing. -/
def check {ε α : Type} (fault : ε → Fault) : Except ε α → Logged α
  | .ok a => pure a
  | .error e => throw (fault e)

/-- The result of a step, and the events that it logs. -/
def result {α : Type} (step : Logged α) : Except Fault α × List Event :=
  match step.run [] with
  | .ok a events => (.ok a, events)
  | .error e events => (.error e, events)

end Logged

end CommandSpec
