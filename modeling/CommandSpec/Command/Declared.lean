import CommandSpec.Command.Derivation
import CommandSpec.Command.Layout
import CommandSpec.Logged

/-!
# Command/Declared — types made of declarations

Everything is checked while a type is made, so a type that exists is sound: its documentation can be
read, its fields are those of its usage, and no two of its names differ in letter case alone.
-/

namespace CommandSpec

namespace CommandType

open Logged (log check)

/-- Check that the names of a type have different keys. -/
def checkTrie (t : CommandType) : Logged Unit := do
  let trie ← check id (Trie.ofList? t.identifiers)
  log (.builtTrie trie.entries.length)

/-- Declare a command. -/
def declareCommand (serial : Nat) (d : Declaration) : Logged CommandType := do
  let declared ← check StructureFault.fault (fieldsOf d.name.short d.body)
  let docs ← Docs.read (← check Misuse.fault (d.docs? "strip"))
  let layout ← check StructureFault.fault (Layout.of? docs.usage declared d.delegates)
  check Misuse.fault (Parameter.checkNames layout.attributes)
  let owner ← check Misuse.fault (typeName d layout.attributes)
  let id : CommandId := {
    serial
    name := docs.usage.canonical
    aliases := docs.usage.ids.tail
    owner
    delegates := d.delegates }
  let command : Member := {
    id, docs
    required := layout.required
    optional := layout.optional
    rest := layout.rest
    shared := d.shared .command }
  checkTrie (single command)
  log (.builtCommand command.name command.fields.length)
  return single command

/-- The commands among some types, each once, in the order of their first appearance. -/
def membersOf (type : String) (found : List Member) :
    List CommandType → Except StructureFault (List Member)
  | [] => .ok found
  | t :: ts =>
    if t.kind? = some .command then
      match t with
      | single c =>
        membersOf type (if found.any (·.id = c.id) then found else found ++ [c]) ts
      | t => .error (.memberNotBuilt t.name.short type)
    else membersOf type found ts

/-- Declare a family. -/
def declareFamily (serial : Nat) (d : Declaration) : Logged CommandType := do
  match d.extras.findSome? shownUnlessCommand with
  | some shown => throw (StructureFault.memberNotType shown d.name.short).fault
  | none => pure ()
  let members ← check StructureFault.fault (membersOf d.name.short [] d.types)
  if members.isEmpty then throw (StructureFault.noMembers d.name.short).fault
  let doc ← check Misuse.fault (d.docs? "expandtabs")
  let name ← check Misuse.fault (typeName d [])
  let t := family name serial (Docs.setSummary doc) members (d.shared .family)
  checkTrie t
  log (.builtSet d.name.short members.length)
  return t

/-- **Declare a type.**  Its bases are all taken for one kind, which is then the kind of
the type. -/
def declare (serial : Nat) (d : Declaration) : Logged CommandType := do
  if let some e := d.bases.findSome? kindFault? then throw e.fault
  match d.bases.map kind? with
  | [] => throw Misuse.mixedBases.fault
  | k :: ks =>
    if ks.any (· ≠ k) then throw Misuse.mixedBases.fault
    else match k with
      | some .command => declareCommand serial d
      | some .family => declareFamily serial d
      | none => throw Misuse.mixedBases.fault

end CommandType

end CommandSpec
