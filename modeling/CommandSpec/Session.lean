import CommandSpec.Session.Change
import CommandSpec.Session.Declaring
import CommandSpec.Session.Help

/-!
# Session — declaring types one after the other, and using them

The steps of a session in one place: declaring types (`Step.declare`) and calling them
(`Step.construct`), reading against them (`Step.parse`, `Step.parsePath`), paths (`Step.path`), help
(`Step.help`), and what can be asked of values and changed of them (`Step.ask`, `Step.change`).
`run` takes one step and tells what the log shows of it.
-/

namespace CommandSpec

/-- What a step leaves behind: its result, what the log shows of it, and the session. -/
structure Taken (α : Type) where
  result : Except StepFault α
  logged : List Event
  session : Session

/-- **Take a step.** -/
def Session.run {α : Type} (s : Session) (step : Step α) : Taken α :=
  match step { s with events := [] } with
  | .ok a s => ⟨.ok a, s.level.shown s.events, s⟩
  | .error e s => ⟨.error e, s.level.shown s.events, s⟩

end CommandSpec
