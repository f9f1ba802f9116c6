import CommandSpec.Command.Call
import CommandSpec.Command.Reading

/-!
# Command/Path — reading the path of a command

A path is read like a command without its arguments: each name is resolved in the type that the name
before it delegates to.  After a command that delegates, the path may end or go on; after any other
it must end.
-/

namespace CommandSpec.CommandType

/-- What is reported where a path lacks its next name. -/
def incompletePath (t : CommandType) : Fault :=
  if t.isRoot then t.noAttr "__trie__"
  else match t.namesFault? with
    | some e => e.fault
    | none => .incompletePath t.names

/-- **Read a path.**  The reader of what follows a name is the same reader at the nested type. -/
def readPath (t : CommandType) : Reading CommandPath := do
  match ← Reading.next with
  | none => throw t.incompletePath
  | some token =>
    if t.isRoot then throw (t.noAttr "__trie__")
    match t.resolve token with
    | .error e => throw (.badPathId e)
    | .ok i =>
      let c := t.members[i]
      Reading.ask c .delegation
      let below ← match h : c.subcommands? with
        | some u =>
          have : sizeOf u < sizeOf t :=
            sizeOf_nested_lt (List.getElem_mem i.isLt) (nested?_of_subcommands? h)
          match ← Reading.peek with
          | none => pure []
          | some _ => CommandPath.ids <$> u.readPath
        | none =>
          match c.foreign? with
          | some callable => Reading.foreignPath callable
          | none =>
            match ← Reading.next with
            | none => pure []
            | some extra => throw (.trailingPath extra)
      Reading.log (.parsedPath token c.name)
      return ⟨c.id, below⟩
termination_by sizeOf t

/-- Read a path if there is a token to read. -/
def readPath? (t : CommandType) : Reading (Option CommandPath) := do
  match ← Reading.peek with
  | none => return none
  | some _ => some <$> t.readPath

end CommandSpec.CommandType
