import CommandSpec.Fold.Fault
import CommandSpec.Topic.Making

/-!
# Fold/Trace — which leaves a fold reaches

A trace records each leaf of a fold with what it is handed, as a datum: a leaf is the list of its
name and of what it was handed.  It shows the order and the nesting in which faults and topics are
taken apart.
-/

namespace CommandSpec.Trace

/-- A leaf and what it was handed. -/
def leaf (name : String) (args : List Datum) : Datum := .list (.text name :: args)

/-- A list of texts. -/
def texts (ss : List String) : Datum := .list (ss.map .text)

/-- An error by its kind and its message. -/
def error (kind message : String) : Datum := .list [.text kind, .text message]

/-- A part of a fault. -/
def part : FaultPart → Datum
  | .datum d => d
  | .error kind p => error kind p.plain

/-- A fault that has not been folded. -/
def fault : Fault → Datum
  | .datum d => d
  | e => error e.kind e.message

/-- The trace of a fault. -/
def faults : FaultFolder Datum where
  noIdMatch given available := leaf "no_id_match" [part given, .list available]
  ambiguousId candidates given := leaf "ambiguous_id" [texts candidates, part given]
  incompletePath available := leaf "incomplete_path" [texts available]
  trailingPath extra := leaf "trailing_path" [part extra]
  noInput := leaf "no_input" []
  missingRequired cmd arg := leaf "missing_required" [part cmd, part arg]
  badConvert cmd arg inner := leaf "bad_convert" [part cmd, part arg, inner]
  trailing cmd extra := leaf "trailing" [part cmd, part extra]
  subcommand cmd inner := leaf "subcommand" [part cmd, inner]
  other e := leaf "other" [fault e]

/-- The trace of a fault in which an identifier that cannot be resolved is a leaf as well. -/
def allFaults : FaultFolder Datum :=
  { faults with
    badPathId? := some fun e => leaf "bad_path_id" [fault e]
    badId? := some fun e => leaf "bad_id" [fault e] }

/-- The trace of a usage, in its long or its short form. -/
def usage (long : Bool) (u : UsageParts) : Datum :=
  let args := u.arguments.map fun (name, isRequired, isRest) =>
    leaf "argument_usage" [name, isRequired, .bool isRest]
  leaf "command_usage" [.list u.ids, .list args, u.desc, .bool long]

/-- The trace of a description. -/
def desc (d : DescParts) : Datum :=
  let args := d.args.map fun (name, isRequired, desc) =>
    leaf "argument_desc" [name, isRequired, desc]
  leaf "command_desc" [d.summary, .list args, d.examples]

/-- The trace of a topic. -/
def topic : TopicParts → Datum
  | .command u d => leaf "command_topic" [usage true u, desc d]
  | .family summary commands =>
    let summary := match summary with
      | .fragment f => .text f.text
      | .datum d => d
    leaf "command_set_topic" [summary, .list (commands.map (usage false))]
  | .custom d => leaf "custom_topic" [d]

end CommandSpec.Trace
