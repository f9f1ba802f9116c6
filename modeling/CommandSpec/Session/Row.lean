import CommandSpec.Command

/-!
# Session/Row — usages, documentation and topics as rows

What a command holds of its declaration can be asked for, and is then handed out in **rows** whose
items have names.  Beside its items, a row has what can be computed from them (`Usage.computed`), a
description and the module that it belongs to.
-/

namespace CommandSpec

/-- Texts as a row. -/
def Value.ofTexts (xs : List String) : Value := .tuple (xs.map .text)

/-- The text that a value is. -/
def Value.text? : Value → Option String
  | .text s => some s
  | _ => Option.none

/-- A text that may be missing. -/
def Value.ofText? (x : Option String) : Value := x.elim .none .text

namespace RowKind

/-- The kind of rest arguments. -/
def restArgument : RowKind := ⟨"RestArg", ["name", "required"]⟩

/-- The kind of the arguments of a usage. -/
def argumentUsage : RowKind := ⟨"ArgumentUsage", ["name", "is_required", "is_rest"]⟩

/-- The kind of usages. -/
def usage : RowKind := ⟨"CommandUsage", ["ids", "required", "optional", "rest", "desc"]⟩

/-- The kind of documented arguments. -/
def argumentDoc : RowKind := ⟨"ArgumentDoc", ["name", "is_required", "desc"]⟩

/-- The kind of longer descriptions. -/
def desc : RowKind := ⟨"CommandDesc", ["summary", "args", "examples"]⟩

/-- The kind of the documentation of a command. -/
def docs : RowKind := ⟨"CommandDocs", ["usage", "summary", "args", "examples"]⟩

/-- The kind of the topics of commands. -/
def topic : RowKind := ⟨"CommandTopic", ["usage", "desc"]⟩

/-- The kind of the documentation of a family. -/
def familyDocs : RowKind := ⟨"CommandSetDocs", ["summary"]⟩

/-- The kind of the topics of families. -/
def familyTopic : RowKind := ⟨"CommandSetTopic", ["summary", "commands"]⟩

/-- The kind of the fields of a command. -/
def field : RowKind :=
  ⟨"Field", ["name", "attribute", "mode", "type", "path", "subcommand"]⟩

/-- The description of a kind that has none of its own: its name and those of its items. -/
def heading (k : RowKind) : String := k.name ++ "(" ++ ", ".intercalate k.fields ++ ")"

/-- The descriptions that kinds have of their own. -/
def descriptions : List (RowKind × String) := [
  (restArgument, "Trailing argument consuming every remaining token."),
  (usage, "\n    Parsed usage line of one command.\n\n    Fields\n" ++
    "    - ids: non-empty tuple of identifiers; ids[0] is canonical, the rest are aliases.\n" ++
    "    - required / optional: argument names, in usage order.\n" ++
    "    - rest: RestArg or None.\n" ++
    "    - desc: the short description following the usage tokens.\n    "),
  (desc, "Long-form description of a command, as shown by detailed help."),
  (topic, "Help for a single command: its usage line and long description."),
  (familyTopic,
    "Help for a family of commands: an optional summary and every member usage."),
  (field, "\n    A resolved field: a usage argument bound to its declaration.\n\n" ++
    "    - name: the usage name (`--force`), used in diagnostics.\n" ++
    "    - attribute: the attribute the value is stored under (`force`).\n    ")]

/-- The description of a kind. -/
def description (k : RowKind) : String := (descriptions.lookup k).getD k.heading

/-- The modules that the kinds belong to. -/
def places : List (String × List RowKind) := [
  ("docbot.usage", [restArgument, argumentUsage, usage]),
  ("docbot.docs", [argumentDoc, desc, docs, familyDocs]),
  ("docbot.help", [topic, familyTopic]),
  ("docbot.arguments", [field])]

/-- The module that a kind belongs to. -/
def place (k : RowKind) : String :=
  ((places.find? fun p => p.2.contains k).map (·.1)).getD ""

end RowKind

/-- A rest argument as a row. -/
def RestArgument.value (r : RestArgument) : Value :=
  .row (some .restArgument) [.text r.name, .bool r.required]

/-- An argument of a usage as a row. -/
def ArgumentUsage.value (a : ArgumentUsage) : Value :=
  .row (some .argumentUsage) [.text a.name, .bool a.isRequired, .bool a.isRest]

/-- A usage as a row. -/
def Usage.value (u : Usage) : Value :=
  .row (some .usage) [.ofTexts u.ids, .ofTexts u.required, .ofTexts u.optional,
    u.rest.elim .none (·.value), .text u.desc]

/-- The usage that the items of a row are. -/
def Usage.ofItems? : List Value → Option Usage
  | [.tuple ids, .tuple required, .tuple optional, rest, .text desc] =>
    some {
      ids := ids.filterMap Value.text?
      required := required.filterMap Value.text?
      optional := optional.filterMap Value.text?
      rest := match rest with
        | .row _ [.text name, .bool required] => some ⟨name, required⟩
        | _ => none
      desc }
  | _ => none

/-- What can be computed from a usage. -/
def Usage.computed (u : Usage) : List (String × Value) :=
  [("canonical", .text u.canonical), ("arguments", .tuple (u.arguments.map (·.value))),
    ("names", .ofTexts u.names), ("arity", .int u.arity)]

/-- The texts that a row was made of can be read off it. -/
theorem filterMap_text?_map_text (xs : List String) :
    (xs.map Value.text).filterMap Value.text? = xs := by
  induction xs with
  | nil => rfl
  | cons x xs ih =>
    rw [List.map_cons, List.filterMap_cons_some (show Value.text? (.text x) = some x from rfl), ih]

/-- A usage can be read off its row. -/
theorem Usage.ofItems?_value (u : Usage) :
    (match u.value with
      | .row _ items => Usage.ofItems? items
      | _ => none) = some u := by
  obtain ⟨ids, required, optional, rest, desc⟩ := u
  cases rest <;>
    simp only [Usage.value, Value.ofTexts, Usage.ofItems?, filterMap_text?_map_text,
      RestArgument.value, Option.elim]

/-- The documented arguments as a row of rows. -/
def ArgumentDoc.values (args : List ArgumentDoc) : Value :=
  .tuple (args.map fun a =>
    .row (some .argumentDoc) [.text a.name, .bool a.isRequired, .text a.desc])

/-- The items of a longer description. -/
def CommandDesc.items (d : CommandDesc) : List Value :=
  [.ofText? d.summary, ArgumentDoc.values d.args, .ofText? d.examples]

/-- A longer description as a row. -/
def CommandDesc.value (d : CommandDesc) : Value := .row (some .desc) d.items

/-- The documentation of a command as a row. -/
def CommandDocs.value (d : CommandDocs) : Value :=
  .row (some .docs) (d.usage.value :: d.desc.items)

/-- The topic of a command as a row. -/
def CommandDocs.topicValue (d : CommandDocs) : Value :=
  .row (some .topic) [d.usage.value, d.desc.value]

/-- What can be computed from a row of a kind. -/
def RowKind.computed (k : RowKind) (items : List Value) : List (String × Value) :=
  if k = usage then ((Usage.ofItems? items).map (·.computed)).getD []
  else if k = docs then [("desc", .row (some desc) items.tail)]
  else []

/-- A field as a row; of its mode and its type only the kinds are told. -/
def Field.value (f : Field) (typeKind : String) : Value :=
  .row (some .field) [.text f.name, .text f.attr, .thing "FieldMode" 0, .thing typeKind 0,
    .bool f.isPath, .bool f.delegates]

end CommandSpec
