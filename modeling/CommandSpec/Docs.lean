import CommandSpec.Usage

/-!
# Docs — the documentation of a command and of a family of commands

The documentation of a command is its usage and a longer description: a summary, one text for each
argument, and examples.  A family of commands has a summary at most.  `Docs/Reader` reads both.
-/

namespace CommandSpec

/-- What is documented of one argument. -/
structure ArgumentDoc where
  name : String
  isRequired : Bool
  desc : String
  deriving DecidableEq, Repr

/-- The longer description of a command. -/
structure CommandDesc where
  summary : Option String
  args : List ArgumentDoc
  examples : Option String
  deriving DecidableEq, Repr

/-- The documentation of a command. -/
structure CommandDocs where
  usage : Usage
  desc : CommandDesc
  deriving DecidableEq, Repr

end CommandSpec
