import CommandSpec.Event
import CommandSpec.Fault
import CommandSpec.Text.Case

/-!
# Value — identifiers, paths, and what tokens are read as

A **command id** stands for one declared command: it has the names of the command and the serial
number of its declaration, so that two commands of the same names are told apart.  A **path** is a
chain of ids, each of a command of the type that is nested in the one before.  A **value** is what a
token list is read as: a command with a value for each field, down to plain texts, numbers and
paths.
-/

namespace CommandSpec

/-- The two names of a declared type: its own, and the one that shows where it was declared. -/
structure TypeName where
  short : String
  qualified : String
  deriving DecidableEq, Repr

/-- The type's name in lower case, a hyphen before each capital after the first character. -/
def TypeName.hyphenated (n : TypeName) : String := Text.spaced '-' n.short

/-- The identifier of one declared command. -/
structure CommandId where
  serial : Nat
  name : String
  aliases : List String
  owner : TypeName
  /-- Whether the command hands its tokens to a nested type. -/
  delegates : Bool
  deriving DecidableEq, Repr

/-- All names of a command, the canonical one first. -/
def CommandId.names (id : CommandId) : List String := id.name :: id.aliases

/-- How an id is shown, given how its name is. -/
def CommandId.shownBy (name : String) : String := "CommandId(" ++ name ++ ")"

/-- How an id is shown. -/
def CommandId.shown (id : CommandId) : String := shownBy (Text.quoted id.name)

/-- A command id, and the ids below it. -/
structure CommandPath where
  head : CommandId
  below : List CommandId
  deriving DecidableEq, Repr

namespace CommandPath

/-- All ids of a path, from the outermost. -/
def ids (p : CommandPath) : List CommandId := p.head :: p.below

/-- The path without its head. -/
def rest? (p : CommandPath) : Option CommandPath :=
  match p.below with
  | [] => none
  | id :: ids => some ⟨id, ids⟩

/-- The path of a single id. -/
def ofId (id : CommandId) : CommandPath := ⟨id, []⟩

/-- The path of a head and what follows it; only a command that delegates can be followed. -/
def of? (head : CommandId) (rest : Option CommandPath) : Except Misuse CommandPath :=
  match rest with
  | none => .ok ⟨head, []⟩
  | some p => if head.delegates then .ok ⟨head, p.ids⟩ else .error (.noSubcommands head.name)

/-- The canonical names of a path. -/
def names (p : CommandPath) : List String := p.ids.map (·.name)

/-- The names of a path on one line. -/
def lineOf (names : List String) : String := " ".intercalate names

/-- How a path of some names is shown. -/
def shownOf (names : List String) : String :=
  "CommandPath(" ++ ", ".intercalate (names.map Text.quoted) ++ ")"

/-- The canonical names of a path on one line. -/
def line (p : CommandPath) : String := lineOf p.names

/-- How a path is shown. -/
def shown (p : CommandPath) : String := shownOf p.names

end CommandPath

/-- The kind of a row, and the names of its items. -/
structure RowKind where
  name : String
  fields : List String
  deriving DecidableEq, Repr

/-- What tokens are read as, and what a command can be called with. -/
inductive Value where
  /-- Plain data: texts, numbers, and whatever else a caller hands over. -/
  | plain (d : Datum)
  /-- Items in a row, which may be of a kind that names them. -/
  | row (kind? : Option RowKind) (items : List Value)
  | id (id : CommandId)
  | path (path : CommandPath)
  | command (id : CommandId) (fields : List (String × Value))
  /-- A value of the root of all commands, which has no fields; its serial number tells it from
  others. -/
  | blank (serial : Nat)
  /-- Something that is known by its kind and by a serial number only. -/
  | thing (kind : String) (serial : Nat)

namespace Value

/-- Items in a row. -/
@[match_pattern] abbrev tuple (items : List Value) : Value := .row .none items

/-- No value. -/
@[match_pattern] abbrev none : Value := .plain .null

/-- A truth value. -/
@[match_pattern] abbrev bool (b : Bool) : Value := .plain (.bool b)

/-- A whole number. -/
@[match_pattern] abbrev int (n : Int) : Value := .plain (.int n)

/-- A text. -/
@[match_pattern] abbrev text (s : String) : Value := .plain (.text s)

/-- Items between parentheses; a single one keeps its comma. -/
def inParentheses : List String → String
  | [x] => "(" ++ x ++ ",)"
  | xs => "(" ++ ", ".intercalate xs ++ ")"

/-- The name of the type that all commands are derived from. -/
def rootName : String := "Command"

/-- How the items of a row of a kind are shown. -/
def shownRow (kind : RowKind) (items : List String) : String :=
  let told := List.zipWith (fun f x => f ++ "=" ++ x) kind.fields items
  kind.name ++ "(" ++ ", ".intercalate told ++ ")"

/-- How something is shown that is known by its kind only. -/
def shownThing (kind : String) : String := "<" ++ kind ++ ">"

/-- How the parts of a value are worded that are known by name only. -/
structure Wording where
  /-- The name that commands go by. -/
  typeName : TypeName → String := TypeName.qualified
  id : CommandId → String := CommandId.shown
  /-- How something is shown that is known by its kind and a serial number. -/
  thing : String → Nat → String := fun kind _ => shownThing kind

mutual

/-- How a value is shown in a wording. -/
def shownWith (w : Wording) : Value → String
  | plain d => d.shown
  | row .none items => inParentheses (shownItems w items)
  | row (.some kind) items => shownRow kind (shownItems w items)
  | id i => w.id i
  | path p => p.shown
  | command i fields => w.typeName i.owner ++ "(" ++ ", ".intercalate (shownFields w fields) ++ ")"
  | blank _ => rootName ++ "()"
  | thing kind serial => w.thing kind serial

/-- The items of a row as they are shown. -/
def shownItems (w : Wording) : List Value → List String
  | [] => []
  | v :: vs => shownWith w v :: shownItems w vs

/-- The fields of a command as they are shown, each after its attribute. -/
def shownFields (w : Wording) : List (String × Value) → List String
  | [] => []
  | (attr, v) :: fs => (attr ++ "=" ++ shownWith w v) :: shownFields w fs

end

/-- How a value is shown, its commands by their qualified names. -/
def shown (v : Value) : String := v.shownWith {}

/-- Whether a value is a number that is none. -/
def isNaN : Value → Bool
  | plain d => d.isNaN
  | _ => false

mutual

/-- The same values: commands of one type with equal fields, rows item by item, paths and ids by
identity, and plain data as data. -/
def same : Value → Value → Bool
  | plain d, plain e => d.same e
  | row _ xs, row _ ys => sameItems xs ys
  | id i, id j => i = j
  | path p, path q => p = q
  | command i fs, command j gs => i = j && sameFields fs gs
  | blank m, blank n => m = n
  | thing k m, thing l n => k = l && m = n
  | _, _ => false

/-- Whether two rows are equal item by item. -/
def sameItems : List Value → List Value → Bool
  | [], [] => true
  | v :: vs, w :: ws => same v w && sameItems vs ws
  | _, _ => false

/-- Whether two commands of one type agree in every field; what is no number agrees with nothing. -/
def sameFields : List (String × Value) → List (String × Value) → Bool
  | [], [] => true
  | (_, v) :: fs, (_, w) :: gs => !v.isNaN && same v w && sameFields fs gs
  | _, _ => false

end

/-- Equal values: the same values, but what is no number equals nothing. -/
def equal (v w : Value) : Bool := !v.isNaN && v.same w

/-- The name of a value's kind, as errors show it. -/
def kindName : Value → String
  | plain d => d.kindName
  | row .none _ => "tuple"
  | row (.some kind) _ => kind.name
  | id _ => "CommandId"
  | path _ => "CommandPath"
  | command i _ => i.owner.short
  | blank _ => rootName
  | thing kind _ => kind

mutual

/-- Why a value has no hash: a list or a record is in it. -/
def hashFault? : Value → Option Misuse
  | plain (.list items) => some (.notHashable (Datum.list items).kindName)
  | plain (.record fields) => some (.notHashable (Datum.record fields).kindName)
  | row _ items => hashFaults? items
  | command _ fields => hashFieldFaults? fields
  | _ => Option.none

/-- Why one of some values has no hash. -/
def hashFaults? : List Value → Option Misuse
  | [] => Option.none
  | v :: vs => (hashFault? v).or (hashFaults? vs)

/-- Why one of some fields has no hash. -/
def hashFieldFaults? : List (String × Value) → Option Misuse
  | [] => Option.none
  | (_, v) :: fs => (hashFault? v).or (hashFieldFaults? fs)

end

end Value

end CommandSpec
