import CommandSpec.Command.Declared
import CommandSpec.Command.Help
import CommandSpec.Command.Reader
import CommandSpec.Log
import CommandSpec.Session.Route
import CommandSpec.Session.Stream

/-!
# Session/Basic — what a session knows, and the steps that it goes in

A session declares types, reads tokens against them and keeps what comes of it in variables.  Every
type gets a serial number that no earlier one has had, so that a type stays different from a
forgotten one of the same name; a forgotten type lives on in its values.  Streams and paths are kept
by serial number too: whoever has one has the same one.  Every path that a step makes is kept
(`Step.kept`).

A **step** may fail and changes the session either way.
-/

namespace CommandSpec

/-- The cells of an id. -/
structure IdCells where
  names : Slot (List String)
  command : Slot Unit

/-- A session. -/
structure Session where
  /-- The declared types by name, in order. -/
  types : List (String × CommandType)
  /-- Every type that has ever been made. -/
  made : List CommandType
  nextSerial : Nat
  /-- The values that steps have stored, by name. -/
  stored : List (String × Value)
  streams : List (Nat × StreamCells)
  paths : List (Nat × PathCells)
  /-- The ids whose cells have been changed. -/
  ids : List (Nat × IdCells)
  /-- What has been set or removed in types after they were made, by serial number and name. -/
  patches : List ((Nat × String) × Option Datum)
  level : LogLevel
  /-- The events of the step that is under way. -/
  events : List Event

/-- Why a step fails. -/
inductive StepFault where
  | fault (e : Fault)
  /-- It names something that is not known. -/
  | unknown (what name : String)
  /-- Its answer has no notation. -/
  | unspoken (kind : String)
  deriving Repr

/-- A step of a session. -/
abbrev Step := EStateM StepFault Session

namespace Session

/-- The session that knows the two root types. -/
def start : Session where
  types := [("Command", .root .command), ("CommandSet", .root .family)]
  made := []
  nextSerial := 1
  stored := []
  streams := []
  paths := []
  ids := []
  patches := []
  level := LogLevel.debug
  events := []

/-- The entries of a table, with one that replaces those of the same key. -/
def replacing {κ α : Type} [DecidableEq κ] (key : κ) (a : α) (table : List (κ × α)) :
    List (κ × α) :=
  (key, a) :: table.filter (·.1 ≠ key)

theorem lookup_replacing {κ α : Type} [DecidableEq κ] (key : κ) (a : α) (table : List (κ × α)) :
    (replacing key a table).lookup key = some a := by
  simp [replacing]

/-! ## Types -/

/-- The type of a name. -/
def find? (s : Session) (name : String) : Option CommandType := s.types.lookup name

/-- Forget the type of a name. -/
def forget (s : Session) (name : String) : Session :=
  { s with types := s.types.filter (·.1 ≠ name) }

/-- **Declare a type.**  Its serial number is used up even when the declaration fails. -/
def declare (s : Session) (d : Declaration) :
    (Except Fault CommandType × List Event) × Session :=
  let outcome := (CommandType.declare s.nextSerial d).result
  match outcome.1 with
  | .ok t =>
    (outcome, { s with
      types := s.types ++ [(d.name.short, t)]
      made := s.made ++ [t]
      nextSerial := s.nextSerial + 1 })
  | .error _ => (outcome, { s with nextSerial := s.nextSerial + 1 })

/-- **Call a type.**  Without arguments, the root of the commands gives a value that has nothing. -/
def call (s : Session) (t : CommandType) (args : List Value) (named : List (String × Value)) :
    Except Misuse Value × Session :=
  match t, args, named with
  | .root .command, [], [] =>
    (.ok (.blank s.nextSerial), { s with nextSerial := s.nextSerial + 1 })
  | t, args, named => (t.call args named, s)

/-- The command that an id stands for. -/
def member? (s : Session) (id : CommandId) : Option Member :=
  s.made.findSome? fun
    | .single c => if c.id.serial = id.serial then some c else none
    | _ => none

/-- The names of the types that have a topic for their root topic. -/
def ownersOf (s : Session) (topic : CommandType.OwnedTopic) : List String :=
  (s.types.filter fun t => t.2.serial? = some topic.owner).map (·.1)

/-! ## Types as values -/

/-- The type that a value is. -/
def typeOf? (s : Session) : Value → Option CommandType
  | .thing kind serial =>
    if kind ≠ CommandType.valueKind then none
    else if serial = 0 then some (.root .command)
    else if serial = 1 then some (.root .family)
    else s.made.find? fun t => t.serial? = some (serial - 2)
  | _ => none

/-- What has been done to an attribute of a type after it was made: it has been set, or removed. -/
def patch? (s : Session) (serial : Nat) (name : String) : Option (Option Datum) :=
  s.patches.lookup (serial, name)

/-! ## Streams and paths as values -/

/-- The serial number of a stream. -/
def streamSerial? : Value → Option Nat
  | .thing kind serial => if kind = Tokens.kindName then some serial else none
  | _ => none

/-- The cells of the stream that a value is. -/
def stream? (s : Session) (v : Value) : Option StreamCells :=
  (streamSerial? v).bind fun n => s.streams.lookup n

/-- A kept path as a value. -/
def pathValue (serial : Nat) : Value := .thing Route.kindName serial

/-- The serial number of a kept path. -/
def pathSerial? : Value → Option Nat
  | .thing kind serial => if kind = Route.kindName then some serial else none
  | _ => none

/-- The cells of the path that a value is. -/
def path? (s : Session) (v : Value) : Option PathCells :=
  (pathSerial? v).bind fun n => s.paths.lookup n

/-- The route of the path of a serial number, to a depth. -/
def routeAt (s : Session) : (depth : Nat) → Nat → Option Route
  | 0, _ => none
  | depth + 1, serial => (s.paths.lookup serial).bind (Route.ofCells (s.routeAt depth))

/-- The route that a value is; a path is followed by older ones only, and thus not by itself. -/
def route? (s : Session) : Value → Option Route
  | .path p => some (.ofPath p)
  | v => (pathSerial? v).bind (s.routeAt s.paths.length)

mutual

/-- A value with every kept path in it that is a whole one as a path. -/
def settled (s : Session) : Value → Value
  | .row k? items => .row k? (allSettled s items)
  | .command i fields => .command i (fieldsSettled s fields)
  | .thing kind serial =>
    (((s.route? (.thing kind serial)).bind Route.path?).map Value.path).getD (.thing kind serial)
  | v => v

/-- Values with every kept path in them that is a whole one as a path. -/
def allSettled (s : Session) : List Value → List Value
  | [] => []
  | v :: vs => settled s v :: allSettled s vs

/-- Fields with every kept path in them that is a whole one as a path. -/
def fieldsSettled (s : Session) : List (String × Value) → List (String × Value)
  | [] => []
  | (name, v) :: fs => (name, settled s v) :: fieldsSettled s fs

end

end Session

namespace Step

/-- Fail with a fault. -/
def raise {α : Type} (e : Fault) : Step α := throw (.fault e)

/-- Fail because of a misuse. -/
def misuse {α : Type} (m : Misuse) : Step α := raise m.fault

/-- A result that may be a misuse. -/
def ofMisuse {α : Type} : Except Misuse α → Step α
  | .ok a => pure a
  | .error e => misuse e

/-- A result that may be a fault. -/
def ofFault {α : Type} : Except Fault α → Step α
  | .ok a => pure a
  | .error e => raise e

/-- Log some events. -/
def log (events : List Event) : Step Unit :=
  modify fun s => { s with events := s.events ++ events }

/-- A step at the session's own state. -/
def reading {α : Type} (f : Session → α) : Step α := f <$> get

/-- The type of a name. -/
def typeNamed (name : String) : Step CommandType := do
  match (← get).find? name with
  | some t => return t
  | none => throw (.unknown "type" name)

/-- The value of a variable. -/
def held (name : String) : Step Value := do
  match (← get).stored.lookup name with
  | some v => return v
  | none => throw (.unknown "variable" name)

/-- Store a value in a variable. -/
def store (name : String) (v : Value) : Step Unit :=
  modify fun s => { s with stored := Session.replacing name v s.stored }

/-- Store a value if there is a variable for it. -/
def storeIn (name? : Option String) (v : Value) : Step Unit :=
  match name? with
  | some name => store name v
  | none => pure ()

/-- A serial number that nothing has had. -/
def fresh : Step Nat := modifyGet fun s => (s.nextSerial, { s with nextSerial := s.nextSerial + 1 })

/-- Keep the cells of a stream under its serial number. -/
def keepStream (serial : Nat) (cells : StreamCells) : Step Unit :=
  modify fun s => { s with streams := Session.replacing serial cells s.streams }

/-- A new stream, whose source has been made of something of a kind. -/
def newStream (sourceKind : String) (tokens : Tokens) : Step Value := do
  let serial ← fresh
  keepStream serial (.ofTokens sourceKind tokens)
  return .thing Tokens.kindName serial

/-- A new path of one step, and what follows it. -/
def newPath (id : Value) (rest : Option Nat) : Step Nat := do
  let serial ← fresh
  modify fun s => { s with paths := (serial, ⟨.own id, .own rest⟩) :: s.paths }
  return serial

/-- A new path for a chain of ids. -/
def newPathOf (id : CommandId) : List CommandId → Step Nat
  | [] => newPath (.id id) none
  | next :: ids => do newPath (.id id) (some (← newPathOf next ids))

mutual

/-- **A value whose paths are kept by the session.** -/
def kept : Value → Step Value
  | .path p => Session.pathValue <$> newPathOf p.head p.below
  | .row k? items => .row k? <$> allKept items
  | .command i fields => .command i <$> fieldsKept fields
  | v => pure v

/-- Values whose paths are kept by the session. -/
def allKept : List Value → Step (List Value)
  | [] => pure []
  | v :: vs => do
    let v ← kept v
    return v :: (← allKept vs)

/-- Fields whose paths are kept by the session. -/
def fieldsKept : List (String × Value) → Step (List (String × Value))
  | [] => pure []
  | (name, v) :: fs => do
    let v ← kept v
    return (name, v) :: (← fieldsKept fs)

end

end Step

end CommandSpec
