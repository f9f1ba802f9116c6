import CommandSpec.Command.Call

/-!
# Command/Help — finding the topic of a command

The topic of a path is the topic of its last command.  On the way there every id must belong to the
type that the ids before it lead to.
-/

namespace CommandSpec.CommandType

/-- A topic, and the serial number of the type that it is the root topic of. -/
structure OwnedTopic where
  owner : Nat
  topic : Topic

/-- The root topic of a type. -/
def rootTopic (t : CommandType) : Except Fault OwnedTopic :=
  match t.serial?, t.topic? with
  | some serial, some topic => .ok ⟨serial, topic⟩
  | _, _ => .error (t.noAttr "__topic__")

/-- The command of a type that has the given id. -/
def memberWithId (t : CommandType) (id : CommandId) : Except Fault Member :=
  if t.isRoot then .error (t.noAttr "__ids__")
  else match t.members.find? (·.id = id) with
    | none => .error (Misuse.notAMember id.name t.name.qualified).fault
    | some c => .ok c

/-- Ask a command for something through its id. -/
def ask (c : Member) (asked : Asked) : Except Fault Unit :=
  match c.fault? asked with
  | some e => .error e.fault
  | none => .ok ()

/-- Why something that is no command type gives no help for a path: a value is no topic. -/
def foreignHelpFault (callable : Converter) (path : CommandPath) : Fault :=
  match callable.help? with
  | none => (callable.lacks "help").fault
  | some help =>
    match help path with
    | .ok v => (Misuse.notATopic v.kindName).fault
    | .error e => e

/-- The topic of the command to which a head id and the ids below it lead. -/
def topicFrom (t : CommandType) (head : CommandId) : List CommandId → Except Fault OwnedTopic
  | [] => do
    let c ← t.memberWithId head
    ask c .topic
    return ⟨c.id.serial, c.topic⟩
  | next :: more => do
    let c ← t.memberWithId head
    ask c .nested
    match c.subcommands?, c.foreign? with
    | some u, _ =>
      match u.helpFault? (.path ⟨next, more⟩) with
      | some e => throw e.fault
      | none => u.topicFrom next more
    | none, some callable => throw (foreignHelpFault callable ⟨next, more⟩)
    | none, none => throw (Misuse.noSubcommands c.name).fault

/-- **The topic of a path.** -/
def topicOf (t : CommandType) (path : CommandPath) : Except Fault OwnedTopic :=
  t.topicFrom path.head path.below

end CommandSpec.CommandType
