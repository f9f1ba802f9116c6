import CommandSpec.Text.Quoted

/-!
# Event — what is logged while types are built and tokens are read

Every step that a developer may want to follow is an **event**.  An event has the logger it belongs
to and a message; whether it is shown is decided by the level of the log.
-/

namespace CommandSpec

/-- Something that is worth logging. -/
inductive Event where
  | parsedUsage (id : String) (arity : Nat)
  | ignoredSection (header id : String)
  | builtTrie (names : Nat)
  | builtCommand (id : String) (fields : Nat)
  | builtSet (name : String) (commands : Nat)
  | resolved (token id : String)
  | parsedPath (token id : String)
  deriving DecidableEq, Repr

namespace Event

/-- The logger of an event. -/
def logger : Event → String
  | parsedUsage _ _ => "docbot.usage"
  | ignoredSection _ _ => "docbot.docs"
  | builtTrie _ => "docbot.trie"
  | builtCommand _ _ | builtSet _ _ | resolved _ _ => "docbot.commands"
  | parsedPath _ _ => "docbot.paths"

/-- The message of an event. -/
def message : Event → String
  | parsedUsage id arity =>
    "parsed usage of " ++ Text.quoted id ++ ": " ++ toString arity ++ " argument(s)"
  | ignoredSection header id =>
    "ignoring unknown section " ++ Text.quoted header ++ " of " ++ Text.quoted id
  | builtTrie names => "built identifier trie over " ++ toString names ++ " name(s)"
  | builtCommand id fields =>
    "built command " ++ Text.quoted id ++ " with " ++ toString fields ++ " field(s)"
  | builtSet name commands =>
    "built command set " ++ Text.quoted name ++ " with " ++ toString commands ++ " command(s)"
  | resolved token id => "resolved " ++ Text.quoted token ++ " -> " ++ id
  | parsedPath token id => "parsed path " ++ Text.quoted token ++ " -> " ++ id

end Event

end CommandSpec
