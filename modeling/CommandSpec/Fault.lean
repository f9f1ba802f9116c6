import CommandSpec.Fault.Code
import CommandSpec.Fault.Part
import CommandSpec.Misuse

/-!
# Fault — what can go wrong, with its parts

A fault keeps the parts that its message is made of, so that it can be folded into other forms
(`Fold/Fault`).  Faults of a **specification** arise once, while a command type is declared; faults
of identifiers, paths and commands arise while tokens are read.  A fault may wrap the one that
caused it, to any depth, and a converter may bring in a foreign one.  Whoever makes a fault may give
data of any kind for its parts, and even for the fault that it wraps.
-/

namespace CommandSpec

/-- The families of faults, each below the one of all. -/
inductive FaultFamily where
  | any | spec | idParse | pathParse | commandParse
  deriving DecidableEq, Repr

/-- The name of the kind of a fault of which only the family is known. -/
def FaultFamily.kind : FaultFamily → String
  | any => "DocbotError"
  | spec => "SpecError"
  | idParse => "IdParseError"
  | pathParse => "PathParseError"
  | commandParse => "CommandParseError"

/-- The family whose faults have a kind of that name. -/
def FaultFamily.ofKind? (name : String) : Option FaultFamily :=
  [any, spec, idParse, pathParse, commandParse].find? (·.kind = name)

/-- A fault and its parts. -/
inductive Fault where
  /-- A usage that the grammar does not accept. -/
  | usageSyntax (message : String)
  /-- Documentation that is malformed; a mismatch of arguments keeps both lists of names. -/
  | documentation (message : String) (expected found : List Datum)
  /-- Two names of one type that differ in letter case at most. -/
  | duplicateIdentifier (identifier : FaultPart)
  /-- A declaration whose fields or members do not fit. -/
  | invalidStructure (message : String)
  /-- A token that begins no identifier. -/
  | noMatch (given : FaultPart) (available : List Datum)
  /-- A token that begins identifiers of different commands. -/
  | ambiguousId (candidates : List String) (given : FaultPart)
  /-- A path without its next name. -/
  | incompletePath (available : List String)
  /-- A path whose name cannot be resolved. -/
  | badPathId (inner : Fault)
  /-- A token after the end of a path. -/
  | trailingPath (extra : FaultPart)
  /-- No tokens at all. -/
  | noInput
  /-- A command whose name cannot be resolved. -/
  | badId (inner : Fault)
  /-- A command without one of its required arguments. -/
  | missingRequired (cmd arg : FaultPart)
  /-- An argument that its converter refuses. -/
  | badConvert (cmd arg : FaultPart) (inner : Fault)
  /-- A token after the last argument of a command. -/
  | trailingArgument (cmd extra : FaultPart)
  /-- A fault of the nested command. -/
  | subcommand (cmd : FaultPart) (inner : Fault)
  /-- A fault of which only the family is known. -/
  | general (family : FaultFamily) (message : String)
  /-- An error that comes from elsewhere. -/
  | foreign (kind message : String)
  /-- What stands in the place of an error and is none. -/
  | datum (d : Datum)
  deriving Repr, Inhabited

/-- A misuse as the fault that it is reported as. -/
def Misuse.fault (m : Misuse) : Fault := .foreign m.kind m.message

namespace Fault

/-- An error of a kind that has no parts of its own: a fault of a family, or one from elsewhere. -/
def ofParts (kind : String) (parts : List ErrorPart) : Fault :=
  match FaultFamily.ofKind? kind with
  | some family => .general family (ErrorPart.message kind parts)
  | none => .foreign kind (ErrorPart.message kind parts)

/-- The name of the kind of a fault. -/
def kind : Fault → String
  | usageSyntax _ => "UsageSyntaxError"
  | documentation _ _ _ => "DocumentationError"
  | duplicateIdentifier _ => "DuplicateIdentifierError"
  | invalidStructure _ => "InvalidStructureError"
  | noMatch _ _ => "NoMatchError"
  | ambiguousId _ _ => "AmbiguousIdError"
  | incompletePath _ => "IncompletePathError"
  | badPathId _ => "BadPathIdError"
  | trailingPath _ => "TrailingPathError"
  | noInput => "NoInputError"
  | badId _ => "BadIdError"
  | missingRequired _ _ => "MissingRequiredError"
  | badConvert _ _ _ => "BadConvertError"
  | trailingArgument _ _ => "TrailingArgumentError"
  | subcommand _ _ => "SubcommandError"
  | general family _ => family.kind
  | foreign kind _ => kind
  | datum d => d.kindName

/-- The family of a fault; what is foreign has none. -/
def family? : Fault → Option FaultFamily
  | usageSyntax _ | documentation _ _ _ | duplicateIdentifier _ | invalidStructure _ => some .spec
  | noMatch _ _ | ambiguousId _ _ => some .idParse
  | incompletePath _ | badPathId _ | trailingPath _ => some .pathParse
  | noInput | badId _ | missingRequired _ _ | badConvert _ _ _ | trailingArgument _ _
  | subcommand _ _ => some .commandParse
  | general family _ => some family
  | foreign _ _ | datum _ => none

/-- The code of a fault whose cause is known. -/
def code? : Fault → Option FaultCode
  | usageSyntax _ => some .usageSyntax
  | documentation _ _ _ => some .documentation
  | duplicateIdentifier _ => some .duplicateIdentifier
  | invalidStructure _ => some .invalidStructure
  | noMatch _ _ => some .noMatch
  | ambiguousId _ _ => some .ambiguousId
  | incompletePath _ => some .incompletePath
  | badPathId _ => some .badPathId
  | trailingPath _ => some .trailingPath
  | noInput => some .noInput
  | badId _ => some .badId
  | missingRequired _ _ => some .missingRequired
  | badConvert _ _ _ => some .badConvert
  | trailingArgument _ _ => some .trailingArgument
  | subcommand _ _ => some .subcommand
  | general _ _ | foreign _ _ | datum _ => none

/-- The short technical message of a fault. -/
def message : Fault → String
  | usageSyntax m | documentation m _ _ | invalidStructure m | general _ m | foreign _ m => m
  | datum d => d.plain
  | duplicateIdentifier name => "multiple entries for identifier " ++ name.shown
  | noMatch given _ => "no ID match for " ++ given.shown
  | ambiguousId candidates given =>
    "ambiguous ID " ++ given.shown ++ ", could be any of " ++ ", ".intercalate candidates
  | incompletePath available =>
    "incomplete command path, expected one of " ++ ", ".intercalate available
  | badPathId _ => "failed to parse path ID"
  | trailingPath extra => "trailing path argument " ++ extra.shown
  | noInput => "no values in command parse input"
  | badId _ => "failed to parse command ID"
  | missingRequired cmd arg =>
    "missing required argument " ++ arg.shown ++ " of " ++ cmd.shown
  | badConvert cmd arg _ =>
    "failed to convert argument " ++ arg.shown ++ " of " ++ cmd.shown ++
      " from a string"
  | trailingArgument cmd extra =>
    "trailing argument " ++ extra.shown ++ " of " ++ cmd.shown
  | subcommand cmd _ => "failed to parse subcommand " ++ cmd.shown

/-- Whether a fault is given its message, and does not make it of its parts. -/
def isPlain : Fault → Bool
  | usageSyntax _ | documentation _ _ _ | invalidStructure _ | general _ _ | foreign _ _
  | datum _ => true
  | _ => false

/-- The fault that a fault wraps. -/
def inner? : Fault → Option Fault
  | badPathId e | badId e | badConvert _ _ e | subcommand _ e => some e
  | _ => none

/-- Whether a fault belongs to the reading of a command. -/
def isCommandFault (e : Fault) : Bool := e.family? = some .commandParse

/-- Whether a fault belongs to the reading of a path. -/
def isPathFault (e : Fault) : Bool := e.family? = some .pathParse

/-- Whether a fault belongs to the resolution of an identifier. -/
def isIdFault (e : Fault) : Bool := e.family? = some .idParse

/-- What belongs to no family of faults is an error from elsewhere, or no error. -/
theorem family?_eq_none_iff {e : Fault} :
    e.family? = none ↔ (∃ k m, e = .foreign k m) ∨ ∃ d, e = .datum d := by
  cases e <;> simp [family?]

end Fault

end CommandSpec
