import CommandSpec.Event
import CommandSpec.Misuse

/-!
# Log — which events are shown

A log has a level, a number that grows with importance, and shows the events that are at least as
important.  Level zero means that none has been set, and the log then shows warnings and worse.
-/

namespace CommandSpec

/-- The level below which a log shows nothing. -/
abbrev LogLevel := Int

namespace LogLevel

/-- The level of the library's events. -/
def debug : LogLevel := 10

/-- The level of warnings. -/
def warning : LogLevel := 30

/-- The levels that have a name. -/
def named : List (String × LogLevel) := [
  ("CRITICAL", 50), ("FATAL", 50), ("ERROR", 40), ("WARN", warning), ("WARNING", warning),
  ("INFO", 20), ("DEBUG", debug), ("NOTSET", 0)]

/-- The level that a datum stands for: a whole number, a truth value as one, or one of the names. -/
def ofDatum? : Datum → Except Misuse LogLevel
  | .int n => .ok n
  | .bool b => .ok (if b then 1 else 0)
  | .text name =>
    match named.lookup name with
    | some level => .ok level
    | none => .error (.unknownLevel name)
  | d => .error (.levelNotANumber d)

/-- The level in force. -/
def effective (level : LogLevel) : LogLevel := if level = 0 then warning else level

/-- Whether events are shown. -/
def showsEvents (level : LogLevel) : Bool := level.effective ≤ debug

/-- The events that a log shows. -/
def shown (level : LogLevel) (events : List Event) : List Event :=
  if level.showsEvents then events else []

end LogLevel

end CommandSpec
