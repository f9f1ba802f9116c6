import CommandSpec.Session.Compare
import CommandSpec.Session.Reading

/-!
# Session/Change — setting and removing attributes

Values are read-only, and every change from outside is refused with a reason (`changeFault`).  The
private cells of ids, paths and streams are not guarded: a datum can be put into them, and they can
be emptied.  Nor are types, whose attributes can be set and removed.  Ids and types are shared by
everyone who has them, so a change of one is seen in every type and in every value
(`Session.revised`).
-/

namespace CommandSpec

namespace Session

/-- What is done to an attribute from outside. -/
inductive Change where
  | set (d : Datum)
  | remove

/-! ## Refusals -/

/-- The kind of a value's type, and the names of what can be asked of it but not changed, and of
what is held for all values of its kind. -/
def fixedNames (s : Session) (v : Value) : List String × List String :=
  match v with
  | .id _ => (Attribute.idProperties, Attribute.ofIdPlace.map (·.1))
  | .row k? _ => ([], (Attribute.ofRows k?).map (·.1))
  | .plain d => ([], (DatumAttribute.of d).map (·.1))
  | v =>
    match s.path? v, s.stream? v with
    | some _, _ => (Attribute.pathProperties, Attribute.ofPathPlace.map (·.1))
    | _, some _ => ([], Attribute.ofStreamPlace.map (·.1))
    | none, none => ([], [])

/-- Why the items of a row and what is computed from them cannot be changed. -/
def rowFault? (k : RowKind) (items : List Value) (change : Change) (name : String) :
    Option Misuse :=
  if k.fields.contains name then
    some (match change with
      | .set _ => .fixedItem
      | .remove => .keptItem)
  else if ((k.computed items).lookup name).isSome then
    some (match change with
      | .set _ => .noSetterOf k.name
      | .remove => .noDeleterOf k.name)
  else none

/-- Why the numbers that a datum is made of cannot be changed. -/
def partFault? (d : Datum) (name : String) : Option Misuse :=
  let (kind, names) := DatumAttribute.parts d
  if names.contains name then some (.fixedAttribute kind name) else none

/-- Why an attribute of something that is no command cannot be changed: its kind is fixed, some
attributes are only read, some are what it can do, and it gets no others. -/
def fixedFault (s : Session) (v : Value) (change : Change) (name : String) : Misuse :=
  let (properties, others) := s.fixedNames v
  if name = "__class__" then
    match change with
    | .set d => .kindNotAClass d.kindName
    | .remove => .kindKept
  else if properties.contains name then
    match change with
    | .set _ => .noSetter v.kindName name
    | .remove => .noDeleter v.kindName name
  else
    let own := match v with
      | .row (some k) items => rowFault? k items change name
      | .plain d => partFault? d name
      | _ => none
    if let some e := own then e
    else if others.contains name || (Attribute.common.lookup name).isSome then
      .sharedAttribute v.kindName name
    else .noCell v.kindName name

/-- **Why an attribute cannot be changed**: all values are read-only. -/
def changeFault (s : Session) (v : Value) (change : Change) (name : String) : Misuse :=
  match v with
  | .command i _ =>
    let behaviour := match change with
      | .set _ => "__setattr__"
      | .remove => "__delattr__"
    (s.behaviourFault? v [behaviour]).getD (.readOnly i.owner.qualified)
  | .blank _ => .readOnly Value.rootName
  | v => s.fixedFault v change name

/-! ## Types that have been changed -/

/-- The parts of a type that are only read, and those that cannot be written. -/
def typeParts : List String × List String :=
  (["__mro__", "__base__", "__basicsize__", "__itemsize__", "__flags__", "__weakrefoffset__",
      "__dictoffset__"], ["__dict__", "__text_signature__"])

/-- The names that a type has for its own. -/
def ownNames (t : CommandType) : List String :=
  let parts := match t with
    | .single c => "id" :: c.attributes ++ Cell.bodyNames ++ Cell.lateNames
    | _ => ["__typename__", "__slots__", commandsName, "__docs__", "__ids__", "__trie__",
        "__topic__", "__init_subclass__", "__module__"]
  parts ++ t.shared.map (·.1)

/-- Why an attribute of a type cannot be changed. -/
def typeFaultOf? (s : Session) (t : CommandType) (change : Change) (name : String) :
    Option Misuse :=
  let type := t.name.short
  if typeParts.1.contains name then some .fixedPart
  else if typeParts.2.contains name then some (.fixedAttribute "type" name)
  else match change with
    | .set d =>
      if name = "__class__" then some (.kindNotAClass d.kindName)
      else if name = "__bases__" then some (.basesNotATuple type d.kindName)
      else if name = "__name__" || name = "__qualname__" then
        match d with
        | .text _ => none
        | d => some (.typePartNotText type name d.kindName)
      else none
    | .remove =>
      if name = "__class__" then some .kindKept
      else if ["__bases__", "__name__", "__qualname__"].contains name then
        some (.typePartKept type name)
      else match t.serial?.bind (s.patch? · name) with
        | some (some _) => none
        | some none => some (.noTypeAttribute type name)
        | none =>
          if ["__annotations__", "__abstractmethods__"].contains name then some (.emptyCell name)
          else if (ownNames t).contains name then none
          else some (.noTypeAttribute type name)

/-! ## Ids that have been changed -/

/-- What is wrong with an id, where it is asked for something. -/
def idFault? (s : Session) (i : CommandId) (asked : Asked) : Option Misuse :=
  let through (attr : String) : Option Misuse :=
    (s.cellsOf i).command.fold (fun _ => none) (fun d => some (.noAttribute d.kindName attr))
      (some (.noAttribute Attribute.idKind Attribute.commandCell))
  match asked with
  | .name => errorOf? (s.heldName i)
  | .command => through "id"
  | .delegation => through "__subcommand__"
  | .nested => through "__fields__"
  | .topic => through "__topic__"

/-- What an id holds in the place of its name, where that is no text. -/
def labelOf? (s : Session) (i : CommandId) : Option Datum :=
  match s.heldName i with
  | .ok (.text _) => none
  | .ok (.plain d) => some d
  | _ => none

/-- What has been set in a type after it was made. -/
def patchesOf (s : Session) (serial : Nat) : List (String × Shared CommandType) :=
  s.patches.filterMap fun
    | ((n, name), some d) => if n = serial then some (name, .constant d) else none
    | (_, none) => none

/-- A type as its ids and its attributes are now, to a depth. -/
def currentType (s : Session) : (depth : Nat) → CommandType → CommandType
  | 0, t => t
  | depth + 1, t =>
    let sharing (serial : Nat) (shared : List (String × Shared CommandType)) :
        List (String × Shared CommandType) :=
      s.patchesOf serial ++ (shared.filter fun e => (s.patch? serial e.1).isNone).map fun
        | (name, .type u) => (name, .type (s.currentType depth u))
        | e => e
    let member (c : Member) : Member :=
      { c with
        id := s.current c.id
        fault? := s.idFault? c.id
        label? := s.labelOf? c.id
        rest := c.rest.map fun r => { r with
          kind := match r.kind with
            | .path u => .path (s.currentType depth u)
            | .subcommand u => .subcommand (s.currentType depth u)
            | kind => kind }
        shared := sharing c.id.serial c.shared }
    match t with
    | .root k => .root k
    | .single c => .single (member c)
    | .family name serial summary members shared =>
      .family (s.currentName serial name) serial summary (members.map member)
        (sharing serial shared)

/-- **The session after the cells of an id or an attribute of a type have been changed**: everyone
sees them as they are now. -/
def revised (s : Session) : Session :=
  let depth := s.made.length + 1
  let type (t : CommandType) : CommandType := s.currentType depth t
  { s with
    types := s.types.map fun e => (e.1, type e.2)
    made := s.made.map type
    stored := s.stored.map fun e => (e.1, withIds s.current e.2)
    paths := s.paths.map fun e => (e.1, { e.2 with id := e.2.id.map (withIds s.current) }) }

end Session

namespace Step

open Session (Change)

/-- A slot after a change; an empty one cannot be emptied. -/
def changeSlot {α : Type} (cell : String) (change : Change) (slot : Slot α) : Step (Slot α) :=
  match change with
  | .set d => pure (slot.put d)
  | .remove =>
    match slot.clear with
    | some slot => pure slot
    | none => misuse (.emptyCell cell)

/-- Change a cell of an id. -/
def changeId (i : CommandId) (change : Change) (name : String) : Step Unit := do
  let cells := (← get).cellsOf i
  let cells ←
    if name = Attribute.namesCell then do
      pure { cells with names := ← changeSlot name change cells.names }
    else do
      pure { cells with command := ← changeSlot name change cells.command }
  modify fun s => Session.revised { s with ids := Session.replacing i.serial cells s.ids }

/-- Change an attribute of a type; the roots stay as they are. -/
def changeType (t : CommandType) (change : Change) (name : String) : Step Unit := do
  if let some e := (← get).typeFaultOf? t change name then misuse e
  match t.serial? with
  | none => pure ()
  | some serial =>
    let patch := match change with
      | .set d => some d
      | .remove => none
    modify fun s => Session.revised
      { s with patches := Session.replacing (serial, name) patch s.patches }

/-- Change a cell of a path. -/
def changePath (serial : Nat) (cells : PathCells) (change : Change) (name : String) :
    Step Unit := do
  let cells ←
    if name = Route.idName then do
      pure { cells with id := ← changeSlot name change cells.id }
    else do
      pure { cells with rest := ← changeSlot name change cells.rest }
  modify fun s => { s with paths := Session.replacing serial cells s.paths }

/-- Change a cell of a stream. -/
def changeStream (serial : Nat) (cells : StreamCells) (change : Change) (name : String) :
    Step Unit := do
  let cells ←
    if name = StreamCells.sourceName then do
      pure { cells with source := ← changeSlot name change cells.source }
    else if name = StreamCells.peekedName then do
      pure { cells with peeked := ← changeSlot name change cells.peeked }
    else do
      pure { cells with ended := ← changeSlot name change cells.ended }
  keepStream serial cells

/-- **Change an attribute of what a variable holds.**  Only private cells, and types, can be
changed. -/
def change (holder name : String) (change : Change) : Step Unit := do
  let v ← held holder
  let s ← get
  let refused : Step Unit := misuse (s.changeFault v change name)
  match v, s.path? v, s.stream? v with
  | .id i, _, _ =>
    if [Attribute.namesCell, Attribute.commandCell].contains name then changeId i change name
    else refused
  | .thing _ serial, some cells, _ =>
    if [Route.idName, Route.restName].contains name then changePath serial cells change name
    else refused
  | .thing _ serial, none, some cells =>
    if Attribute.streamCells.contains name then changeStream serial cells change name else refused
  | v, _, _ => (s.typeOf? v).elim refused (changeType · change name)

/-- **Ask what a variable holds for an attribute**, and store what comes of it. -/
def ask (holder name : String) (name? : Option String) : Step Value := do
  let v ← held holder
  let asked ← ofMisuse ((← get).attr? v name)
  storeIn name? asked
  return asked

end Step

end CommandSpec
