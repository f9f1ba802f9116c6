import CommandSpec.Session.Operand
import CommandSpec.Session.Reading

/-!
# Session/PathMaking — paths made of values

A path is made of a head and of the path that follows it.  Whatever has a command for an attribute
can be a head, and it can be followed by a path if its command delegates.
-/

namespace CommandSpec

/-- How a step names a path. -/
inductive PathOperand where
  /-- The path of the id of a type. -/
  | ofId (type : String)
  | join (head rest : PathOperand)
  | operand (o : Operand)
  deriving Inhabited

namespace Session

/-- What a head has for its command; only what has one can be a head. -/
def commandOf (s : Session) (head : Value) : Except Misuse Value :=
  match s.attr? head "command" with
  | .ok v => .ok v
  | .error e => .error (if e.kind = "AttributeError" then .headNotAnId else e)

/-- Whether a value counts as true. -/
def holds : Value → Bool
  | .plain d => d.truthy
  | .row _ items => !items.isEmpty
  | _ => true

/-- **What follows a head in a path**: the path of a serial number, or nothing. -/
def following (s : Session) (head rest : Value) : Except Misuse (Option Nat) := do
  let command ← s.commandOf head
  match rest, pathSerial? rest with
  | .none, _ => return none
  | _, none => throw .restNotAPath
  | _, some serial =>
    if holds (← s.attr? command "__subcommand__") then return some serial
    else throw (.noSubcommands (← s.stepShown head))

end Session

namespace Step

/-- The path of a head and what follows it. -/
def join (head rest : Value) : Step Value := do
  Session.pathValue <$> newPath head (← ofMisuse ((← get).following head rest))

/-- **The path that an operand names**; an operand that is no path names itself. -/
def path : PathOperand → Step Value
  | .ofId type => do join (← idOf type) .none
  | .join head rest => do
    let h ← path head
    let r ← path rest
    join h r
  | .operand o => operand o

/-- The names along a value that should be a path; a missing path has none. -/
def pathNames (v : Value) : Step (Option (List String)) := do
  match (← get).route? v with
  | some r => some <$> ofMisuse ((← get).routeNames r)
  | none =>
    if let some e := (← get).itemsFault? v then misuse e
    match v, Session.streamSerial? v, (← get).stream? v with
    | .none, _, _ => return none
    | v, some serial, some cells =>
      let _ ← drainStream serial cells
      misuse (.noAttribute v.kindName "head")
    | v, _, _ =>
      if (← get).isSource v then misuse (.noAttribute v.kindName "head")
      else misuse (.notIterable v.kindName)

end Step

end CommandSpec
