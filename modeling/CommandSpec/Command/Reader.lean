import CommandSpec.Command.Path

/-!
# Command/Reader — reading a command

The first token names the command; any beginning of a name that is not ambiguous will do.  The
fields then take their tokens in the order of the usage.  Without a rest field no token may be left.
At last the fields are stored in a value, which can fail too (`Command/Storage`).
-/

namespace CommandSpec

/-- Call what stands in the place of a method with the stream that is being read. -/
def Reading.instead (s : Shared CommandType) : Reading Value :=
  match s.call [.thing Tokens.kindName 0] with
  | .ok v => pure v
  | .error e => throw e.fault

/-- The name of the method that reads the path of a rest field. -/
def pathMethod (required : Bool) : String := if required then "parse_path" else "parse_path_opt"

/-- Read the value of a rest field by a method of something that is no command type. -/
def Command.readForeign (c : Member) (r : RestField CommandType) (isPath : Bool)
    (callable : Converter) : Reading Value :=
  if isPath then
    Reading.wrapping Fault.isPathFault (.badConvert c.called r.name)
      (Reading.call callable (pathMethod r.required))
  else Reading.wrapping Fault.isCommandFault (.subcommand c.called) (Reading.call callable "parse")

namespace CommandType

/-- Read the path that a rest field takes; without a token there is none. -/
def readPathField (t : CommandType) (required : Bool) : Reading Value :=
  match t.instead? (pathMethod required) with
  | some s => Reading.instead s
  | none => if required then .path <$> t.readPath else (·.elim .none .path) <$> t.readPath?

/-- **Read a command** of a type.  A rest field that delegates is read by the same reader at the
nested type. -/
def read (t : CommandType) : Reading Value := do
  match ← Reading.next with
  | none => throw .noInput
  | some token =>
    if t.isRoot then throw (t.noAttr "__trie__")
    match t.resolve token with
    | .error e => throw (.badId e)
    | .ok i =>
      let c := t.members[i]
      Reading.ask c .name
      Reading.log (.resolved token c.name)
      Reading.ask c .command
      let required ← Reading.required c.called c.required
      let optional ← Reading.optional c.called c.optional
      let rest ← match hr : c.rest with
        | none =>
          match ← Reading.next with
          | none => pure []
          | some extra => throw (.trailingArgument c.called extra)
        | some r => do
          let empty := (← Reading.peek).isNone
          if empty && r.required then throw (.missingRequired c.called r.name)
          let v ← match hk : r.kind with
            | .tokens converter => .tuple <$> Reading.convertAll c.called r.name converter
            | .path u =>
              Reading.wrapping Fault.isPathFault (.badConvert c.called r.name)
                (u.readPathField r.required)
            | .subcommand u =>
              have : sizeOf u < sizeOf t :=
                sizeOf_nested_lt (List.getElem_mem i.isLt)
                  (nested?_of_rest hr (by rw [hk]; rfl))
              match u.instead? "parse" with
              | some s => Reading.instead s
              | none => Reading.wrapping Fault.isCommandFault (.subcommand c.called) u.read
            | .foreign isPath callable => c.readForeign r isPath callable
          pure [(r.attr, v)]
      match c.make (required ++ optional ++ rest) with
      | .error e => throw e.fault
      | .ok v => return v
termination_by sizeOf t

/-- Read a command from a stream, without the log. -/
def parse (t : CommandType) (tokens : Tokens) : Except Fault Value :=
  match t.read ⟨tokens, []⟩ with
  | .ok v _ => .ok v
  | .error e _ => .error e

end CommandType

end CommandSpec
