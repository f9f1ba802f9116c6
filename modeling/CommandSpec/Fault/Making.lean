import CommandSpec.Fault

/-!
# Fault/Making — errors made of arguments

An error is made by giving its kind and its arguments, which are data or other errors.  A kind of
fault that keeps its parts takes exactly those (`partNames`), and takes them without names; only the
two lists of a documentation fault are named.  Every other kind takes any number of arguments, and
none with a name. `Fault.make` makes the error or says why it cannot be made.
-/

namespace CommandSpec

/-- What an error is made of: a datum, or another error with what it is as a part. -/
inductive ErrorArgument where
  | datum (d : Datum)
  | error (e : Fault) (part : ErrorPart)
  deriving Inhabited

namespace ErrorArgument

/-- An argument as a part of a message. -/
def part : ErrorArgument → ErrorPart
  | datum d => .ofDatum d
  | error _ part => part

/-- An argument as a text. -/
def text (a : ErrorArgument) : String := a.part.plain

/-- An argument as a part that a fault keeps. -/
def kept : ErrorArgument → FaultPart
  | datum d => .datum d
  | error e part => .error e.kind part

/-- An argument as the error that a fault wraps. -/
def fault : ErrorArgument → Fault
  | datum d => .datum d
  | error e _ => e

/-- The name of an argument's kind. -/
def kindName : ErrorArgument → String
  | datum d => d.kindName
  | error e _ => e.kind

/-- The items of an argument; an error has none. -/
def items : ErrorArgument → Except Misuse (List Datum)
  | datum d => d.items
  | a => .error (.notIterable a.kindName)

/-- The texts that the items of an argument are, if all can be joined to one text. -/
def joined (a : ErrorArgument) : Except Misuse (List String) := a.items >>= Datum.joinable

end ErrorArgument

namespace Fault

/-- The kinds of faults that keep their parts, and the names of these parts. -/
def partNames : List (String × List String) := [
  ("DocumentationError", ["message"]),
  ("DuplicateIdentifierError", ["identifier"]),
  ("NoMatchError", ["given", "available"]),
  ("AmbiguousIdError", ["candidates", "given"]),
  ("IncompletePathError", ["available"]),
  ("BadPathIdError", ["error"]),
  ("TrailingPathError", ["extra"]),
  ("NoInputError", []),
  ("BadIdError", ["error"]),
  ("MissingRequiredError", ["cmd", "arg"]),
  ("BadConvertError", ["cmd", "arg", "error"]),
  ("TrailingArgumentError", ["cmd", "extra"]),
  ("SubcommandError", ["cmd", "error"])]

/-- The names of the lists that a kind of fault takes by name. -/
def listNames (kind : String) : List String :=
  if kind = "DocumentationError" then ["expected", "found"] else []

/-- Why a kind of fault that keeps its parts cannot be made: a name is not one that it takes, or
there are too many parts, or too few. -/
def makingFault? (kind : String) (names : List String) (count : Nat) (named : List String) :
    Option Misuse :=
  if named.any fun n => !(listNames kind).contains n then
    let positional := names.filter named.contains
    if positional.isEmpty then
      Misuse.optionFault? (Misuse.makerOf kind) (listNames kind) named
    else some (.namedParts kind positional)
  else if names.length < count then
    some (.tooManyParts kind (names.length + 1) (count + 1) named.length)
  else if count < names.length then some (.missingParts kind (names.drop count))
  else none

/-- A fault of a kind that keeps its parts, made of its arguments. -/
def ofArguments (kind : String) (args : List ErrorArgument) (named : List (String × Datum)) :
    Except Misuse Fault :=
  let list (name : String) : Except Misuse (List Datum) :=
    match named.lookup name with
    | some d => d.items
    | none => .ok []
  match kind, args with
  | "DocumentationError", [message] => do
    let expected ← list "expected"
    return .documentation message.text expected (← list "found")
  | "DuplicateIdentifierError", [identifier] => .ok (.duplicateIdentifier identifier.kept)
  | "NoMatchError", [given, available] => do return .noMatch given.kept (← available.items)
  | "AmbiguousIdError", [candidates, given] => do
    return .ambiguousId (← candidates.joined) given.kept
  | "IncompletePathError", [available] => do return .incompletePath (← available.joined)
  | "BadPathIdError", [e] => .ok (.badPathId e.fault)
  | "TrailingPathError", [extra] => .ok (.trailingPath extra.kept)
  | "BadIdError", [e] => .ok (.badId e.fault)
  | "MissingRequiredError", [cmd, arg] => .ok (.missingRequired cmd.kept arg.kept)
  | "BadConvertError", [cmd, arg, e] => .ok (.badConvert cmd.kept arg.kept e.fault)
  | "TrailingArgumentError", [cmd, extra] => .ok (.trailingArgument cmd.kept extra.kept)
  | "SubcommandError", [cmd, e] => .ok (.subcommand cmd.kept e.fault)
  | _, _ => .ok .noInput

/-- An error of a kind that keeps no parts but its message. -/
def ofMessage (kind : String) (parts : List ErrorPart) : Fault :=
  match kind with
  | "UsageSyntaxError" => .usageSyntax (ErrorPart.message "" parts)
  | "InvalidStructureError" => .invalidStructure (ErrorPart.message "" parts)
  | kind => ofParts kind parts

/-- **Make an error** of its kind and its arguments. -/
def make (kind : String) (args : List ErrorArgument) (named : List (String × Datum)) :
    Except Misuse Fault :=
  match partNames.lookup kind with
  | some names =>
    match makingFault? kind names args.length (named.map (·.1)) with
    | some e => .error e
    | none => ofArguments kind args named
  | none =>
    if named.isEmpty then .ok (ofMessage kind (args.map (·.part)))
    else .error (.noNamedParts kind)

end Fault

/-- **Make an error that others can be made of.** -/
def ErrorArgument.make (kind : String) (args : List ErrorArgument)
    (named : List (String × Datum)) : Except Misuse ErrorArgument :=
  (Fault.make kind args named).map fun e =>
    .error e (.ofError e.kind (if e.isPlain then args.map part else [.ofText e.message]))

end CommandSpec
