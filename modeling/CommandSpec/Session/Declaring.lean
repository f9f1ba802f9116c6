import CommandSpec.Converters
import CommandSpec.Session.Compare
import CommandSpec.Session.Operand

/-!
# Session/Declaring — declaring types, calling them, and describing what has been made

A step names the types that a declaration refers to.  Its fields are looked up first, then its
members, then the further members, and its bases last.  What has been made is described as what it
is taken for, which need not be what it is.
-/

namespace CommandSpec

/-- How a step names a converter. -/
inductive ConverterOperand where
  | function (converter : Converter)
  | type (name : String)
  /-- The reader of the commands of a type. -/
  | commandOf (type : String)
  /-- The reader of the paths of a type. -/
  | pathOf (type : String)
  /-- A choice between names. -/
  | lookup (names : Datum)
  /-- Nothing that can be called. -/
  | other

/-- How a step names a field. -/
structure ArgumentOperand where
  converter : ConverterOperand
  isPath : Bool

/-- How a step names a further member. -/
inductive ExtraOperand where
  | type (name : String)
  | other (value : Datum)

/-- How a step names a declaration. -/
structure DeclarationOperand where
  name : String
  qualified : Datum
  bases : List String
  doc : Datum
  fields : List (String × ArgumentOperand)
  members : List String
  constants : List (String × Datum)
  extras : List ExtraOperand
  delegates : Bool

/-- What is told of a type that has been made. -/
inductive Description where
  | command (c : Member)
  | family (members : List Member) (summary : Option String)

namespace Session

/-- What is told of a type that is taken for a command. -/
def asCommand (t : CommandType) : Except Misuse Description :=
  match t with
  | .single c => .ok (.command c)
  | t =>
    match t.instead? "id" with
    | some (.type u) => .error (.noTypeAttribute u.name.short "name")
    | some shared => .error (.noAttribute shared.kindName "name")
    | none => .error (.noTypeAttribute t.name.short "id")

/-- What is told of a command that is taken for a family, and has a datum for its members. -/
def asFamily (c : Member) (d : Datum) : Except Misuse Description :=
  match d.items with
  | .ok (item :: _) => .error (.noAttribute item.kindName "__qualname__")
  | .ok [] => .ok (.family [] c.docs.desc.summary)
  | .error e => .error e

/-- **What is told of a type.** -/
def describe (t : CommandType) : Except Misuse Description := do
  if let some e := t.namesFault? then throw e
  if t.kind? = some .command then asCommand t
  else match t with
    | .family _ _ summary members _ => return .family members summary
    | .root _ => return .family [] none
    | .single c =>
      if c.attributes.contains commandsName then throw (.notIterable "member_descriptor")
      else match t.instead? commandsName with
        | some (.constant d) => asFamily c d
        | some shared => throw (.notIterable shared.kindName)
        | none => throw (.noTypeAttribute t.name.short commandsName)

end Session

namespace Step

/-- The conversion by a method of a type, or by what stands in the place of it. -/
def methodOf (type method : String) (own : CommandType → Converter) : Step Conversion := do
  let t ← typeNamed type
  match t.instead? method with
  | some (.type u) => return .type u
  | some _ => misuse .converterNotCallable
  | none => return .function (own t)

/-- The conversion that an operand names. -/
def conversion : ConverterOperand → Step Conversion
  | .function converter => pure (.function converter)
  | .type name => .type <$> typeNamed name
  | .commandOf type => methodOf type "parse" Converter.command
  | .pathOf type => methodOf type "parse_path" Converter.path
  | .lookup names => do
    let (result, events) := (Converter.lookup (← ofMisuse names.items)).result
    log events
    return .function (← ofFault result)
  | .other => misuse .converterNotCallable

/-- The field that an operand names. -/
def argument (o : ArgumentOperand) : Step Argument := do
  return ⟨← conversion o.converter, o.isPath⟩

/-- The declaration that an operand names.  A documentation or a qualified name that is no text
stands in the body as it is. -/
def declaration (o : DeclarationOperand) : Step Declaration := do
  let fields ← o.fields.mapM fun f => do return (f.1, BodyEntry.field (← argument f.2))
  let members ← o.members.mapM fun m => do return (m, BodyEntry.member (← typeNamed m))
  let extras ← o.extras.mapM fun
    | .type name => Extra.type <$> typeNamed name
    | .other value => pure (Extra.other value)
  let bases ← o.bases.mapM typeNamed
  let odd (entry : String) (d : Datum) : List (String × BodyEntry) :=
    match d with
    | .null | .text _ => []
    | d => [(entry, .constant d)]
  let body := odd Declaration.qualifiedName o.qualified ++ odd Declaration.docName o.doc ++
    fields ++ members ++ o.constants.map fun c => (c.1, BodyEntry.constant c.2)
  return {
    name := ⟨o.name, ((Value.plain o.qualified).text?).getD o.name⟩
    bases
    doc := (Value.plain o.doc).text?
    body := body.foldl (fun b e => Declaration.put e.1 e.2 b) []
    extras
    delegates := o.delegates }

/-- **Declare a type**, and describe it.  An earlier type of the name is forgotten first. -/
def declare (o : DeclarationOperand) : Step (CommandType × Description) := do
  modify (·.forget o.name)
  let d ← declaration o
  let ((outcome, events), s) := (← get).declare d
  set s
  log events
  let t ← ofFault outcome
  return (t, ← ofMisuse (Session.describe t))

/-- **Call a type**, and store the value. -/
def construct (type : String) (args : List Operand) (named : List (String × Operand))
    (name? : Option String) : Step Value := do
  let t ← typeNamed type
  let args ← operands args
  let named ← named.mapM fun a => do return (a.1, ← operand a.2)
  let (v, s) := (← get).call t args named
  set s
  let v ← ofMisuse v
  storeIn name? v
  return v

/-- Whether two values are equal. -/
def compare (a b : Operand) : Step Bool := do
  let v ← operand a
  let w ← operand b
  ofMisuse ((← get).compare v w)

/-- Whether a value is one of a type's commands. -/
def isInstance (o : Operand) (type : String) : Step Bool := do
  let v ← operand o
  let t ← typeNamed type
  ofMisuse ((← get).isInstance t v)

/-- Set the level of the log. -/
def configure (d : Datum) : Step LogLevel := do
  let level ← ofMisuse (LogLevel.ofDatum? d)
  modify fun s => { s with level }
  return level

end Step

end CommandSpec
