import CommandSpec.Session.Basic
import CommandSpec.Session.DatumAttribute

/-!
# Session/Attribute — what can be asked of a value

A value of a command has its fields for attributes, and everything that its type holds for all
values alike.  Ids, paths, streams, rows and plain data have attributes of their own;
`Session.attr?` finds them all.  What a value does is looked up by name too: a field or a constant
with the name of a **behaviour** stands in its place, and the behaviour then fails (`replaced?`).
-/

namespace CommandSpec

namespace Attribute

/-- The kind of what is called with the value in front. -/
def method : Value := .thing "method" 0

/-- Names of what is called with the value in front. -/
def methods (names : List String) : List (String × Value) := names.map (·, method)

/-- The attributes that everything has. -/
def common : List (String × Value) :=
  ("__class__", .thing "type" 0) ::
  DatumAttribute.things "method-wrapper" ["__str__", "__lt__", "__le__", "__gt__", "__ge__",
    "__ne__", "__getattribute__", "__eq__", "__hash__", "__repr__", "__init__", "__setattr__",
    "__delattr__"] ++
  DatumAttribute.things "builtin_function_or_method" ["__dir__", "__format__", "__reduce__",
    "__reduce_ex__", "__sizeof__", "__subclasshook__", "__getstate__", "__new__",
    "__init_subclass__"]

/-- What is held of a type that is no command: the names of its cells, where it is declared, and its
description. -/
def ofPlace (cells : List String) (place description : String) : List (String × Value) :=
  [("__slots__", .ofTexts cells), ("__module__", .text ("docbot." ++ place)),
    ("__doc__", .text description)]

/-! ## Commands -/

/-- The description of the root of all commands. -/
def rootDescription : String :=
  "\n    Base class of single commands.\n\n" ++
  "    Subclasses are built from their docstring (see the module documentation).\n" ++
  "    Values expose their fields as read-only attributes and their CommandId as\n" ++
  "    value.id.\n    "

/-- What every command can do for its root. -/
def rootMethods : List String :=
  ["__setattr__", "__delattr__", "__repr__", "__rich_repr__", "parse", "parse_path",
    "parse_path_opt", "names", "help"]

/-- The attributes that every command has from its root. -/
def ofRoot : List (String × Value) :=
  methods rootMethods ++
  [("__kind__", .text Kind.command.label), ("__class__", (CommandType.root .command).value),
    ("__subcommand__", .bool false)] ++
  ofPlace [] "commands" rootDescription ++ common

/-- The kind of the type that a field hands its tokens to, or of its converter. -/
def typeKindOf (c : Member) (f : Field) : String :=
  match c.rest with
  | some r => if r.attr = f.attr && r.kind.target?.isSome then CommandType.valueKind else "type"
  | none => "type"

/-- The attributes that a command gives all its values. -/
def ofCommand (c : Member) : List (String × Value) :=
  let type := (CommandType.single c).value
  [("id", .id c.id), ("__docs__", c.docs.value),
    ("__fields__", .tuple (c.fields.map fun f => f.value (typeKindOf c f))),
    ("__subcommand__", .bool c.id.delegates), ("__ids__", .tuple [.id c.id]),
    ("__trie__", .thing "Trie" c.id.serial), ("__topic__", c.docs.topicValue),
    ("__init_subclass__", method), ("__typename__", .text c.id.owner.hyphenated),
    ("__slots__", .ofTexts c.attributes), ("__match_args__", .ofTexts c.attributes),
    ("__init__", method), ("__eq__", method), ("__hash__", method),
    ("__signature__", .thing "Signature" c.id.serial)] ++
  c.shared.map (fun e => (e.1, e.2.value)) ++ ("__class__", type) :: ofRoot

/-! ## Ids -/

/-- The kind of ids. -/
def idKind : String := "CommandId"

/-- The name of the cell of an id's names. -/
def namesCell : String := "_names"

/-- The name of the cell of an id's command. -/
def commandCell : String := "_command"

/-- What an id can do. -/
def idMethods : List String := ["__init__", "__str__", "__repr__", "__rich_repr__"]

/-- What can be asked of an id but not changed. -/
def idProperties : List String := ["name", "aliases", "names", "command"]

/-- What is held of the type of ids. -/
def ofIdPlace : List (String × Value) :=
  methods idMethods ++ ofPlace [namesCell, commandCell] "commands"
    ("\n    Identifier of one command type.\n\n    Attributes\n" ++
      "    - name: the canonical identifier (first of the usage ids).\n" ++
      "    - aliases: the remaining identifiers.\n" ++
      "    - command: the command class it identifies.\n\n" ++
      "    Ids are unique per command class; equality is identity.\n    ")

/-! ## Paths -/

/-- What a path can do. -/
def pathMethods : List String :=
  ["head", "from_id", "__init__", "__iter__", "__eq__", "__hash__", "__str__", "__repr__"]

/-- What can be asked of a path but not changed. -/
def pathProperties : List String := ["id", "rest"]

/-- What is held of the type of paths. -/
def ofPathPlace : List (String × Value) :=
  methods pathMethods ++ ofPlace [Route.idName, Route.restName] "paths"
    ("\n    A head command id plus an optional path into its nested command type.\n\n" ++
      "    Parameters\n    - id: the head CommandId.\n" ++
      "    - rest: a CommandPath of the nested type, or None. Only subcommand\n" ++
      "      commands can carry a rest.\n    ")

/-! ## Streams -/

/-- What a stream can do. -/
def streamMethods : List String :=
  ["next", "peek", "of", "_pull", "__init__", "__next__", "__iter__", "__bool__", "__repr__",
    "__class_getitem__", "__subclasshook__"]

/-- The cells of a stream. -/
def streamCells : List String :=
  [StreamCells.sourceName, StreamCells.peekedName, StreamCells.endedName]

/-- What is held of the type of streams. -/
def ofStreamPlace : List (String × Value) :=
  methods streamMethods ++ [("__class__", .thing "ABCMeta" 0),
    ("__abstractmethods__", .thing "frozenset" 0), ("_abc_impl", .thing "_abc_data" 0)] ++
  ofPlace streamCells "tokenize"
    ("\n    Forward-only, fused stream of string tokens with one token of lookahead.\n\n" ++
      "    Once exhausted the stream stays exhausted; next(stream) raises\n" ++
      "    StopIteration and stream.next()/stream.peek() return Unset.\n    ")

/-- What stands for a token that has not been looked at. -/
def unset : Value := .thing "UnsetType" 0

/-! ## Rows -/

/-- What is held of a kind of rows. -/
def ofRowKind (k : RowKind) : List (String × Value) :=
  [("_fields", .ofTexts k.fields), ("__match_args__", .ofTexts k.fields),
    ("__slots__", .tuple []), ("__module__", .text k.place), ("__doc__", .text k.description),
    ("_field_defaults", .thing "dict" 0), ("__annotations__", .thing "dict" 0),
    ("__orig_bases__", .tuple [.thing "function" 0]), ("__new__", .thing "function" 0)] ++
  methods ["_asdict", "_make", "_replace", "__getnewargs__", "__repr__"]

/-- The attributes of a row that are held for all rows of its kind. -/
def ofRows (k? : Option RowKind) : List (String × Value) :=
  (k?.map ofRowKind).getD [] ++ DatumAttribute.ofRow

end Attribute

namespace Session

/-! ## Behaviours -/

/-- The kind of what stands in the place of a behaviour of a value. -/
def replaced? (s : Session) (v : Value) (behaviour : String) : Option String :=
  match v with
  | .command i fields =>
    match fields.lookup behaviour with
    | some w => some w.kindName
    | none =>
      match (s.member? i).bind (·.shared.lookup behaviour) with
      | some (.constant d) => some d.kindName
      | _ => none
  | _ => none

/-- Why a value cannot do what one of some behaviours says: something else is in the place of it. -/
def behaviourFault? (s : Session) (v : Value) (behaviours : List String) : Option Misuse :=
  behaviours.findSome? fun b => (s.replaced? v b).map Misuse.notCallable

/-- Why a value cannot be asked for its type, where its type does not answer for it. -/
def typeFault? (s : Session) (v : Value) : Option Misuse := s.behaviourFault? v ["__getattribute__"]

/-! ## Ids -/

/-- The cells of an id. -/
def cellsOf (s : Session) (i : CommandId) : IdCells :=
  (s.ids.lookup i.serial).getD ⟨.own i.names, .own ()⟩

/-- What an id holds for its names. -/
def heldNames (s : Session) (i : CommandId) : Except Misuse Value :=
  (s.cellsOf i).names.fold (fun names => .ok (.ofTexts names)) (fun d => .ok (.plain d))
    (.error (.noAttribute Attribute.idKind Attribute.namesCell))

/-- What an id holds for its command. -/
def heldCommand (s : Session) (i : CommandId) : Except Misuse Value :=
  (s.cellsOf i).command.fold (fun _ => .ok (.thing CommandType.valueKind (i.serial + 2)))
    (fun d => .ok (.plain d)) (.error (.noAttribute Attribute.idKind Attribute.commandCell))

/-- The first item of a value. -/
def firstOf : Value → Except Misuse Value
  | .row _ (v :: _) => .ok v
  | .row _ [] => .error .emptyTuple
  | .plain (.list (d :: _)) => .ok (.plain d)
  | .plain (.list []) => .error .emptyList
  | .text t =>
    match t.toList with
    | c :: _ => .ok (.text (.ofList [c]))
    | [] => .error .emptyText
  | .plain (.record _) => .error (.missingKey (.int 0))
  | v => .error (.notIndexable v.kindName)

/-- All items of a value but the first. -/
def afterFirst : Value → Except Misuse Value
  | .row _ vs => .ok (.tuple vs.tail)
  | .plain (.list ds) => .ok (.plain (.list ds.tail))
  | .text t => .ok (.text (.ofList t.toList.tail))
  | .plain (.record _) => .error (.notHashable "slice")
  | v => .error (.notIndexable v.kindName)

/-- The name of an id, of whatever kind it is. -/
def heldName (s : Session) (i : CommandId) : Except Misuse Value := do firstOf (← s.heldNames i)

/-- The name by which an id is shown: it must be a text. -/
def nameOf (s : Session) (i : CommandId) : Except Misuse String := do
  match ← s.heldName i with
  | .text name => return name
  | v => throw (.notShownAsText v.kindName)

/-! ## Attributes -/

/-- An attribute of an id. -/
def idAttr? (s : Session) (i : CommandId) (name : String) : Option (Except Misuse Value) :=
  if name = "name" then some (s.heldName i)
  else if name = "aliases" then some (s.heldNames i >>= afterFirst)
  else if name = "names" || name = Attribute.namesCell then some (s.heldNames i)
  else if name = "command" || name = Attribute.commandCell then some (s.heldCommand i)
  else (Attribute.ofIdPlace.lookup name).map .ok

/-- An attribute of a path. -/
def pathAttr? (c : PathCells) (name : String) : Option (Except Misuse Value) :=
  let cell {α : Type} (label : String) (slot : Slot α) (own : α → Value) :
      Option (Except Misuse Value) :=
    some (slot.fold (fun a => .ok (own a)) (fun d => .ok (.plain d)) (.error (Route.missing label)))
  if name = "id" || name = Route.idName then cell Route.idName c.id id
  else if name = "rest" || name = Route.restName then
    cell Route.restName c.rest (·.elim .none pathValue)
  else (Attribute.ofPathPlace.lookup name).map .ok

/-- An attribute of a stream. -/
def streamAttr? (c : StreamCells) (name : String) : Option (Except Misuse Value) :=
  let cell {α : Type} (slot : Slot α) (own : α → Value) : Option (Except Misuse Value) :=
    some (slot.fold (fun a => .ok (own a)) (fun d => .ok (.plain d))
      (.error (StreamCells.missing name)))
  if name = StreamCells.sourceName then cell c.source fun _ => .thing c.sourceKind 0
  else if name = StreamCells.peekedName then cell c.peeked (·.elim Attribute.unset .text)
  else if name = StreamCells.endedName then cell c.ended .bool
  else (Attribute.ofStreamPlace.lookup name).map .ok

/-- An attribute of a row. -/
def rowAttr? (k? : Option RowKind) (items : List Value) (name : String) : Option Value :=
  ((k?.bind fun k => (k.fields.zip items ++ k.computed items).lookup name)).or
    ((Attribute.ofRows k?).lookup name)

/-- What can be asked of a type for its root. -/
def rootAttr? (t : CommandType) (name : String) : Option Value :=
  match t with
  | .root .command | .single _ => Attribute.ofRoot.lookup name
  | _ => (Attribute.methods Attribute.rootMethods).lookup name

/-- An attribute of a type as it was made. -/
def madeAttr? (t : CommandType) (name : String) : Option Value :=
  let functions := DatumAttribute.things "function"
    ["__init__", "__eq__", "__hash__", "__setattr__", "__delattr__", "__repr__", "__rich_repr__"]
  let own : List (String × Value) := match t with
    | .single c => DatumAttribute.things "member_descriptor" c.attributes ++ functions ++
        Attribute.ofCommand c
    | .root .command => functions ++ Attribute.ofRoot
    | t => t.shared.map fun e => (e.1, e.2.value)
  ([("__name__", Value.text t.name.short), ("__qualname__", .text t.name.qualified),
    ("__class__", .thing "type" 0)] ++ own ++ Attribute.methods Attribute.rootMethods).lookup name

/-- An attribute of a type. -/
def typeAttr? (s : Session) (t : CommandType) (name : String) : Option Value :=
  match t.serial?.bind (s.patch? · name) with
  | some (some d) => some (.plain d)
  | some none => rootAttr? t name
  | none => madeAttr? t name

/-- An attribute of the trie of a type. -/
def trieAttr? (t : CommandType) (name : String) : Option Value :=
  ([("names", Value.ofTexts t.names),
    ("entries", .tuple (t.identifiers.map fun e => .tuple [.text e.1, .id t.members[e.2].id]))] ++
    Attribute.methods ["lookup", "__len__", "__contains__", "__init__"]).lookup name

/-- **An attribute of a value.** -/
def attr? (s : Session) (v : Value) (name : String) : Except Misuse Value :=
  let missing : Except Misuse Value := .error (.noAttribute v.kindName name)
  let found (own : Option (Except Misuse Value)) : Except Misuse Value :=
    own.getD (((Attribute.common.lookup name).map .ok).getD missing)
  match v with
  | .command i fields =>
    match s.behaviourFault? v ["__getattribute__"] with
    | some e => .error e
    | none =>
      let own := (fields.lookup name).or
        ((s.member? i).bind fun c => (Attribute.ofCommand c).lookup name)
      match s.patch? i.serial name, own with
      | some (some d), _ => .ok (.plain d)
      | some none, _ => found ((Attribute.ofRoot.lookup name).map .ok)
      | none, some a => .ok a
      | none, none =>
        match s.behaviourFault? v ["__getattr__"] with
        | some e => .error e
        | none => missing
  | .blank _ => found ((Attribute.ofRoot.lookup name).map .ok)
  | .id i => found (s.idAttr? i name)
  | .plain d => found (((DatumAttribute.of d).lookup name).map .ok)
  | .row k? items => found ((rowAttr? k? items name).map .ok)
  | v =>
    match s.path? v, s.stream? v, s.typeOf? v with
    | some c, _, _ => found (pathAttr? c name)
    | _, some c, _ => found (streamAttr? c name)
    | _, _, some t =>
      match s.typeAttr? t name with
      | some a => .ok a
      | none => .error (.noTypeAttribute t.name.short name)
    | none, none, none =>
      match v with
      | .thing "Trie" serial =>
        found (((s.made.find? fun t => t.serial? = some serial).bind (trieAttr? · name)).map .ok)
      | _ => found none

end Session

end CommandSpec
