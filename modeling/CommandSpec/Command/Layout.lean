import CommandSpec.Command.Declaration

/-!
# Command/Layout — the fields of a command

The usage of a command says which fields it has, in which order and how many tokens each takes.  A
**layout** binds the arguments of a usage to the declarations of a body: there are as many of both,
and each argument finds the declaration that is stored under its attribute.
-/

namespace CommandSpec

/-- Why a declaration does not fit together. -/
inductive StructureFault where
  | reservedField (attr type : String)
  | fieldCount (command : String) (declared used : Nat)
  | noField (command attr argument : String)
  | pathNotRest (attr command : String)
  | subcommandShape (command : String)
  | subcommandNotType (attr command : String)
  | pathNotType (attr command : String)
  | memberNotType (shown type : String)
  | memberNotBuilt (name type : String)
  | noMembers (type : String)
  deriving DecidableEq, Repr

/-- What is reported of a declaration that does not fit together. -/
def StructureFault.message : StructureFault → String
  | reservedField attr type =>
    "field name " ++ Text.quoted attr ++ " of " ++ Text.quoted type ++ " is reserved"
  | fieldCount command declared used =>
    "command " ++ Text.quoted command ++ " declares " ++ toString declared ++
      " field(s) but its usage has " ++ toString used ++ " argument(s)"
  | noField command attr argument =>
    "command " ++ Text.quoted command ++ " has no field " ++ Text.quoted attr ++ " for argument " ++
      Text.quoted argument
  | pathNotRest attr command =>
    "path field " ++ Text.quoted attr ++ " of " ++ Text.quoted command ++ " must be a rest argument"
  | subcommandShape command =>
    "subcommand " ++ Text.quoted command ++ " must have exactly one non-path rest argument"
  | subcommandNotType attr command =>
    "subcommand field " ++ Text.quoted attr ++ " of " ++ Text.quoted command ++
      " must be a command type"
  | pathNotType attr command =>
    "path field " ++ Text.quoted attr ++ " of " ++ Text.quoted command ++ " must be a command type"
  | memberNotType shown type =>
    "member " ++ shown ++ " of " ++ Text.quoted type ++ " is not a command type"
  | memberNotBuilt name type =>
    "member " ++ Text.quoted name ++ " of " ++ Text.quoted type ++ " is not a built command"
  | noMembers type => "command set " ++ Text.quoted type ++ " declares no commands"

/-- A structure fault as a fault. -/
def StructureFault.fault (e : StructureFault) : Fault := .invalidStructure e.message

/-! ## Fields -/

/-- The fields of a command, laid out as its usage says. -/
structure Layout where
  required : List PlainField
  optional : List PlainField
  rest : Option (RestField CommandType)

/-- The attributes of all fields. -/
def Layout.attributes (l : Layout) : List String :=
  l.required.map (·.attr) ++ l.optional.map (·.attr) ++ l.rest.toList.map (·.attr)

/-- An argument with the declaration that is stored under its attribute. -/
structure BoundArgument where
  name : String
  attr : String
  argument : Argument

/-- The declaration for an argument.  A path can only be a rest argument. -/
def BoundArgument.of? (command : String) (declared : List (String × Argument)) (isRest : Bool)
    (name : String) : Except StructureFault BoundArgument := do
  let attr := attributeName name
  let some argument := declared.lookup attr | throw (.noField command attr name)
  if argument.isPath && !isRest then throw (.pathNotRest attr command)
  return ⟨name, attr, argument⟩

/-- A bound argument that takes one token. -/
def BoundArgument.plain (b : BoundArgument) : PlainField :=
  ⟨b.name, b.attr, b.argument.conversion.converter⟩

/-- The rest field of a command that delegates: its only field, of a command type, or of whatever
else has the method that reads a command. -/
def delegatingRest (command : String) (plain : List BoundArgument)
    (rest : Option (BoundArgument × Bool)) : Except StructureFault (RestField CommandType) :=
  match plain, rest with
  | [], some (b, isRequired) =>
    if b.argument.isPath then .error (.subcommandShape command)
    else match b.argument.conversion.nested? false with
      | some kind => .ok ⟨b.name, b.attr, isRequired, kind⟩
      | none => .error (.subcommandNotType b.attr command)
  | _, _ => .error (.subcommandShape command)

/-- The rest field of any other command: plain tokens, or the path of a command type, or of whatever
else has the method that reads a path. -/
def ordinaryRest (command : String) (b : BoundArgument) (isRequired : Bool) :
    Except StructureFault (RestField CommandType) :=
  if b.argument.isPath then
    match b.argument.conversion.nested? true with
    | some kind => .ok ⟨b.name, b.attr, isRequired, kind⟩
    | none => .error (.pathNotType b.attr command)
  else .ok ⟨b.name, b.attr, isRequired, .tokens b.argument.conversion.converter⟩

/-- **The fields of a usage.**  There are as many declarations as arguments, and each argument finds
one under its attribute. -/
def Layout.of? (usage : Usage) (declared : List (String × Argument)) (delegates : Bool) :
    Except StructureFault Layout := do
  let command := usage.canonical
  if usage.arity ≠ declared.length then
    throw (.fieldCount command declared.length usage.arity)
  let required ← usage.required.mapM (BoundArgument.of? command declared false)
  let optional ← usage.optional.mapM (BoundArgument.of? command declared false)
  let rest ← match usage.rest with
    | none => pure none
    | some r =>
      let b ← BoundArgument.of? command declared true r.name
      pure (some (b, r.required))
  let restField ←
    if delegates then some <$> delegatingRest command (required ++ optional) rest
    else match rest with
      | none => pure none
      | some (b, isRequired) => some <$> ordinaryRest command b isRequired
  return ⟨required.map (·.plain), optional.map (·.plain), restField⟩

/-! ## Declared fields -/

/-- The names that no field can have, because every command type has them. -/
def reservedFields : List String := ["id", "parse", "parse_path", "parse_path_opt", "help", "names"]

/-- The declared fields of a body, none of which has a reserved name. -/
def fieldsOf (type : String) : List (String × BodyEntry) →
    Except StructureFault (List (String × Argument))
  | [] => .ok []
  | (attr, .field a) :: more =>
    if reservedFields.contains attr then .error (.reservedField attr type)
    else (fieldsOf type more).map ((attr, a) :: ·)
  | _ :: more => fieldsOf type more

end CommandSpec
