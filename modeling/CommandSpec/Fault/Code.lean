/-!
# Fault/Code — the stable numbers of faults

Every fault that has a cause of its own has a number that never changes: `111xx` for what goes wrong
with identifiers, paths and commands while tokens are read, `131xx` for a specification that is
invalid.
-/

namespace CommandSpec

/-- The cause of a fault. -/
inductive FaultCode where
  | noMatch | ambiguousId
  | incompletePath | badPathId | trailingPath
  | noInput | badId | missingRequired | badConvert | trailingArgument | subcommand
  | usageSyntax | documentation | duplicateIdentifier | invalidStructure
  deriving DecidableEq, Repr

namespace FaultCode

/-- All codes, by number. -/
def all : List FaultCode := [
  noMatch, ambiguousId, incompletePath, badPathId, trailingPath, noInput, badId, missingRequired,
  badConvert, trailingArgument, subcommand, usageSyntax, documentation, duplicateIdentifier,
  invalidStructure]

/-- The number of a code. -/
def number : FaultCode → Nat
  | noMatch => 11101
  | ambiguousId => 11102
  | incompletePath => 11111
  | badPathId => 11112
  | trailingPath => 11113
  | noInput => 11121
  | badId => 11122
  | missingRequired => 11123
  | badConvert => 11124
  | trailingArgument => 11125
  | subcommand => 11126
  | usageSyntax => 13101
  | documentation => 13102
  | duplicateIdentifier => 13103
  | invalidStructure => 13104

/-- The name under which a host refers to a code. -/
def name : FaultCode → String
  | noMatch => "NO_MATCH"
  | ambiguousId => "AMBIGUOUS_ID"
  | incompletePath => "INCOMPLETE_PATH"
  | badPathId => "BAD_PATH_ID"
  | trailingPath => "TRAILING_PATH"
  | noInput => "NO_INPUT"
  | badId => "BAD_ID"
  | missingRequired => "MISSING_REQUIRED"
  | badConvert => "BAD_CONVERT"
  | trailingArgument => "TRAILING_ARGUMENT"
  | subcommand => "SUBCOMMAND"
  | usageSyntax => "USAGE_SYNTAX"
  | documentation => "DOCUMENTATION"
  | duplicateIdentifier => "DUPLICATE_IDENTIFIER"
  | invalidStructure => "INVALID_STRUCTURE"

/-- The code with a number. -/
def ofNumber? (n : Int) : Option FaultCode := all.find? fun c => (c.number : Int) = n

/-- The code with a name. -/
def ofName? (s : String) : Option FaultCode := all.find? fun c => c.name = s

theorem mem_all (c : FaultCode) : c ∈ all := by cases c <;> decide

/-- **A number finds its code.** -/
theorem ofNumber?_number (c : FaultCode) : ofNumber? c.number = some c := by
  cases c <;> decide

theorem number_injective {a b : FaultCode} (h : a.number = b.number) : a = b :=
  Option.some.inj (by rw [← ofNumber?_number a, ← ofNumber?_number b, h])

end FaultCode

end CommandSpec
