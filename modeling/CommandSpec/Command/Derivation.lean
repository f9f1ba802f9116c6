import CommandSpec.Command.Declaration
import CommandSpec.Command.Lineage
import CommandSpec.Command.Storage

/-!
# Command/Derivation — whether a type can be derived

A type is derived from its bases.  Their values must be laid out alike, the cells of the new type
must be free, its names must be names, and its bases must stand in an order that their own lines
allow.  At last, only the roots can be derived from at all.
-/

namespace CommandSpec.CommandType

/-! ## What a type is taken for -/

/-- The cells of the usual kind that the values of a type have. -/
def cells (t : CommandType) : List String :=
  match t with
  | single c => Cell.ordinary c.attributes
  | _ => []

/-- The name under which a type holds its kind. -/
def kindName : String := "__kind__"

/-- The kind that a type is taken for: its own, unless something else has the place of it. -/
def kind? (t : CommandType) : Option Kind :=
  match t.shared.lookup kindName with
  | some (.constant (.text s)) => [Kind.command, Kind.family].find? (·.label = s)
  | some _ => none
  | none => if t.hasCell kindName then none else some t.kind

/-- Why the kind that a type is taken for cannot be compared with others: it has no hash. -/
def kindFault? (t : CommandType) : Option Misuse :=
  match t.instead? kindName with
  | some (.constant d) => (Value.plain d).hashFault?
  | _ => none

/-- How a type is shown: with the place where it was declared. -/
def shown (t : CommandType) : String :=
  let name := match t with
    | root _ => "docbot.commands." ++ t.name.qualified
    | t =>
      match t.shared.lookup Declaration.placeName with
      | some (.constant (.text "builtins")) => t.name.short
      | some (.constant (.text place)) => place ++ "." ++ t.name.qualified
      | some _ => t.name.short
      | none => "docbot.commands." ++ t.name.qualified
  "<class " ++ Misuse.namedWhole name ++ ">"

/-- How a further member that is taken for no command is shown. -/
def shownUnlessCommand : Extra → Option String
  | .other value => some value.shown
  | .type t => if t.kind? = some .command then none else some t.shown

/-! ## Cells and names -/

/-- The base whose cells come first in the values of a type: the first that has any. -/
def layoutBase? (bases : List CommandType) : Option CommandType :=
  (bases.find? fun t => !t.cells.isEmpty).or bases.head?

/-- The first type that stands again after itself. -/
def firstRepeatedBase? : List CommandType → Option CommandType
  | [] => none
  | t :: ts => if ts.any (·.serial? = t.serial?) then some t else firstRepeatedBase? ts

/-- Whether two bases have different cells. -/
def checkLayout (bases : List CommandType) : Except Misuse Unit :=
  let withCells := bases.filter fun t => !t.cells.isEmpty
  if withCells.any fun t => withCells.any fun u => t.serial? ≠ u.serial? then
    .error .conflictingBases
  else .ok ()

/-- Check that the given attributes can have cells.  The two special cells are had once only, and
the others need free names. -/
def checkCells (d : Declaration) (attrs : List String) : Except Misuse Unit := do
  let had (cell : String) : Bool := (layoutBase? d.bases).any (hasCell cell)
  match attrs.find? fun a => (a = Cell.record || a = Cell.reference) && had a with
  | some a => throw (if a = Cell.record then .secondRecordCell else .secondReferenceCell)
  | none => pure ()
  let taken := (d.shared .command).map (·.1) ++ Cell.bodyNames
  match ((Cell.ordinary attrs).map (Cell.named d.name.short)).find? taken.contains with
  | some cell => throw (.takenCell cell)
  | none => pure ()

/-- The names of a type whose fields have the given attributes.  A qualified name in the body comes
first; a field of that name leaves the short one. -/
def namesOf (d : Declaration) (attrs : List String) : Except Misuse TypeName := do
  if d.name.short.toList.contains '\x00' then throw .nullInTypeName
  let qualified ← match d.body.lookup Declaration.qualifiedName with
    | none => pure d.name.qualified
    | some (.constant (.text s)) => pure s
    | some (.constant x) => throw (.typeNameNotText x.kindName)
    | some (.field _) =>
      if attrs.contains Declaration.qualifiedName then pure d.name.short
      else throw (.typeNameNotText "Argument")
    | some (.member _) => throw (.typeNameNotText "CommandType")
  match d.body.lookup Declaration.closureName with
  | none => pure ()
  | some (.constant x) => throw (.notAClosureCell x.kindName)
  | some (.field _) =>
    unless attrs.contains Declaration.closureName do
      throw (.notAClosureCell "docbot.arguments.Argument")
  | some (.member _) => throw (.notAClosureCell "docbot.commands.CommandType")
  return ⟨d.name.short, qualified⟩

/-- Whether a type can be derived from the given ones; only the roots can be derived from. -/
def checkBases (bases : List CommandType) : Except Misuse Unit := do
  match firstRepeatedBase? bases with
  | some t => throw (.repeatedBase t.name.short)
  | none => pure ()
  checkOrder bases
  match bases.find? (!·.isRoot) with
  | some t => throw (.sealedBase t.name.short)
  | none => pure ()

/-- The names of the type that a declaration makes, whose fields have the given attributes.  The
names are known only if the type can be made. -/
def typeName (d : Declaration) (attrs : List String) : Except Misuse TypeName := do
  checkLayout d.bases
  checkCells d attrs
  let name ← namesOf d attrs
  checkBases d.bases
  return name

end CommandSpec.CommandType
