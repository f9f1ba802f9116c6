import CommandSpec.Command.Call
import CommandSpec.Docs.Reader

/-!
# Command/Declaration — what a command type is made of

A declaration has a documentation text and a body.  For a command, the body declares one field for
each argument of the usage; for a family, it holds the members.  Whatever else the body has is
shared by all values of the type.
-/

namespace CommandSpec

/-- What makes a value of a token: a function, or a type, which is called with it. -/
inductive Conversion where
  | function (converter : Converter)
  | type (target : CommandType)

/-- The declaration of a field. -/
structure Argument where
  conversion : Conversion
  isPath : Bool

/-- How the declaration of a field is shown. -/
def Argument.shown (a : Argument) : String :=
  let label := match a.conversion with
    | .function f => f.label
    | .type t => t.name.qualified
  "Argument(" ++ label ++ (if a.isPath then ", path=True" else "") ++ ")"

/-- A conversion of single tokens. -/
def Conversion.converter : Conversion → Converter
  | function f => f
  | type t =>
    { label := t.name.qualified
      convert := fun token =>
        match t.call [.text token] [] with
        | .ok v => (.ok v, [])
        | .error e => (.error e.fault, []) }

/-- The name of the method that a nested conversion must have. -/
def nestedMethod (isPath : Bool) : String := if isPath then "parse_path" else "parse"

/-- What a rest field does that is read by its conversion as a whole.  A command type reads it, and
so does whatever else has the method. -/
def Conversion.nested? (isPath : Bool) : Conversion → Option (RestKind CommandType)
  | type u => some (if isPath then .path u else .subcommand u)
  | function f =>
    if (f.reader? (nestedMethod isPath)).isSome then some (.foreign isPath f) else none

/-- What the body of a declaration has under a name. -/
inductive BodyEntry where
  | field (argument : Argument)
  | member (type : CommandType)
  /-- A datum that all values of the type share. -/
  | constant (value : Datum)

/-- What a type of a kind holds for an entry of its body.  The fields of a command are those of its
values, but a family keeps them, although it has no use for them. -/
def BodyEntry.sharedBy? : Kind → BodyEntry → Option (Shared CommandType)
  | .command, field _ => none
  | .family, field _ => some .argument
  | _, member t => some (.type t)
  | _, constant x => some (.constant x)

@[simp] theorem BodyEntry.sharedBy?_member (kind : Kind) (t : CommandType) :
    (member t).sharedBy? kind = some (.type t) := by
  cases kind <;> rfl

@[simp] theorem BodyEntry.sharedBy?_constant (kind : Kind) (x : Datum) :
    (constant x).sharedBy? kind = some (.constant x) := by
  cases kind <;> rfl

/-- A further member that is listed beside the body. -/
inductive Extra where
  | type (type : CommandType)
  | other (value : Datum)

/-- A declaration. -/
structure Declaration where
  name : TypeName
  bases : List CommandType
  doc : Option String
  /-- The names of the body in order, each with what it has last been given. -/
  body : List (String × BodyEntry)
  extras : List Extra
  delegates : Bool

/-- A body with one more entry; a name that stands already keeps its place. -/
def Declaration.put (name : String) (entry : BodyEntry) :
    List (String × BodyEntry) → List (String × BodyEntry)
  | [] => [(name, entry)]
  | (n, e) :: more => if n = name then (n, entry) :: more else (n, e) :: put name entry more

namespace Declaration

/-- The name under which a body holds its documentation. -/
def docName : String := "__doc__"

/-- The name under which a body holds the qualified name of its type. -/
def qualifiedName : String := "__qualname__"

/-- The name under which a body holds what binds it to its surroundings. -/
def closureName : String := "__classcell__"

/-- The name under which a type holds where it has been declared. -/
def placeName : String := "__module__"

/-- Where types are declared. -/
def place : String := "world"

/-- The documentation of a declaration: an entry of that name in its body comes first.  What is no
text has no `attr`, which texts have. -/
def docs? (d : Declaration) (attr : String) : Except Misuse (Option String) :=
  match d.body.lookup docName with
  | none => .ok d.doc
  | some (.constant x) => x.textIfAny attr
  | some (.field _) => .error (.noAttribute "Argument" attr)
  | some (.member t) => .error (.noTypeAttribute t.name.short attr)

/-- What a type holds of its declaration beside the body, unless the body has it too. -/
def described (d : Declaration) : List (String × Shared CommandType) :=
  [(docName, .constant (d.doc.elim .null .text)), (placeName, .constant (.text place))].filter
    fun e => (d.body.lookup e.1).isNone

/-- What a body holds for all values of a type of a kind. -/
def shared (d : Declaration) (kind : Kind) : List (String × Shared CommandType) :=
  (d.body.filterMap fun e => (e.2.sharedBy? kind).map (e.1, ·)) ++ d.described

/-- The types that a declaration has for members: those of the body, then the further ones. -/
def types (d : Declaration) : List CommandType :=
  (d.body.filterMap fun
    | (_, .member t) => some t
    | _ => none) ++
  d.extras.filterMap fun
    | .type t => some t
    | .other _ => none

end Declaration

end CommandSpec
