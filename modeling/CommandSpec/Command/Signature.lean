import CommandSpec.Command.Storage
import CommandSpec.Repeat
import CommandSpec.Text.Identifier

/-!
# Command/Signature — the parameters of a command

A command can be called like a function, with a parameter for each field.  Optional fields have a
default, and a required rest field that comes after them can only be given by name.  `bind` places
the arguments of a call: those without a name first, in order, then those with one, then the
defaults.
-/

namespace CommandSpec

/-- A parameter of a command. -/
structure Parameter where
  name : String
  keywordOnly : Bool
  default? : Option Value

namespace Parameter

/-- The default of a rest field: no path, or no tokens; a subcommand cannot be left out. -/
def restDefault? (r : RestField CommandType) : Option Value :=
  if r.required then none
  else match r.kind with
    | .tokens _ => some (.tuple [])
    | .path _ | .foreign true _ => some .none
    | .subcommand _ | .foreign false _ => none

/-- How a parameter is shown. -/
def shown (p : Parameter) : String :=
  match p.default? with
  | some v => p.name ++ "=" ++ v.shown
  | none => p.name

/-- Parameters as they are shown, an asterisk in front of the first that is given by name only. -/
def shownAll : List Parameter → List String
  | [] => []
  | p :: ps => if p.keywordOnly then "*" :: (p :: ps).map shown else p.shown :: shownAll ps

/-- Whether a list of names can be the names of parameters. -/
def checkNames (names : List String) : Except Misuse Unit := do
  for name in names do
    if name = "" then throw .emptyText
    unless Text.isParameterName name do throw (.notAParameterName name)
  match firstRepeat? names with
  | some name => throw (.repeatedParameter name)
  | none => pure ()

/-- Give the parameters that are left their arguments by name, or their defaults. -/
def bindNamed (named : List (String × Value)) :
    List Parameter → Except Misuse (List (String × Value))
  | [] => .ok []
  | p :: ps =>
    match (named.lookup p.name).or p.default? with
    | none => .error (.missingArgument p.name)
    | some v => (bindNamed named ps).map ((p.name, v) :: ·)

/-- Give the parameters their arguments: first those without a name, in order. -/
def bindAll (named : List (String × Value)) :
    List Parameter → List Value → Except Misuse (List (String × Value))
  | ps, [] => bindNamed named ps
  | [], _ :: _ => .error .tooManyArguments
  | p :: ps, v :: vs =>
    if p.keywordOnly then .error .tooManyArguments
    else if (named.lookup p.name).isSome then .error (.repeatedArgument p.name)
    else (bindAll named ps vs).map ((p.name, v) :: ·)

end Parameter

namespace Command

/-- The parameters of a command, one for each field. -/
def parameters (c : Member) : List Parameter :=
  c.required.map (fun f => ⟨f.attr, false, none⟩) ++
    c.optional.map (fun f => ⟨f.attr, false, some .none⟩) ++
    c.rest.toList.map fun r =>
      ⟨r.attr, r.required && !c.optional.isEmpty, Parameter.restDefault? r⟩

/-- The parameters of a command as they are shown. -/
def signature (c : Member) : String :=
  "(" ++ ", ".intercalate (Parameter.shownAll c.parameters) ++ ")"

/-- **The value that keeps the arguments of a call.**  An argument whose name no parameter has is
refused last. -/
def bind (c : Member) (args : List Value) (named : List (String × Value)) :
    Except Misuse Value := do
  let fields ← Parameter.bindAll named c.parameters args
  match named.find? fun a => !c.parameters.any (·.name = a.1) with
  | some a => throw (.unexpectedArgument a.1)
  | none => c.store fields

end Command

end CommandSpec
