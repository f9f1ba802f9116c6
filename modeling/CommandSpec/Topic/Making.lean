import CommandSpec.Topic
import CommandSpec.Usage.Printer

/-!
# Topic/Making — topics made of data

Topics that arise from documentation are made of texts.  Whoever makes a topic by hand may give data
of any kind for its parts, and what is missing as `null`.  What comes of it depends on how the parts
are used: where texts are put together, nothing but a text will do (`joined`); where each part is
shown by itself, it is shown as it stands (`worded`).
-/

namespace CommandSpec

/-- The text of a datum that is put behind another text. -/
def Datum.appended : Datum → Except Misuse String
  | .text s => .ok s
  | d => .error (.notAppended d.kindName)

/-- The parts of a usage; the rest argument has its name, and whether it is required. -/
structure UsageParts where
  ids : List Datum
  required : List Datum
  optional : List Datum
  rest : Option (Datum × Datum)
  desc : Datum

namespace UsageParts

/-- The arguments: their names, whether they are required, and whether they take the rest. -/
def arguments (u : UsageParts) : List (Datum × Datum × Bool) :=
  u.required.map (⟨·, .bool true, false⟩) ++ u.optional.map (⟨·, .bool false, false⟩) ++
    u.rest.toList.map fun r => ⟨r.1, r.2, true⟩

/-- The usage of these parts as they stand, with a description. -/
def usage (u : UsageParts) (desc : String) : Usage where
  ids := u.ids.map Datum.plain
  required := u.required.map Datum.plain
  optional := u.optional.map Datum.plain
  rest := u.rest.map fun r => ⟨r.1.plain, r.2.truthy⟩
  desc := desc

/-- The usage where it becomes one text. -/
def joined (u : UsageParts) : Except Misuse Usage := do
  match ← Usage.clauseOf (.list u.ids) with
  | .text _ => return u.usage (← u.desc.appended)
  | d => throw (.itemNotText 0 d.kindName)

/-- The usage where its parts are shown one by one. -/
def worded (u : UsageParts) : Except Misuse Usage := do
  let _ ← Usage.clauseOf (.list u.ids)
  return u.usage u.desc.plain

end UsageParts

/-- The parts of a description; each argument has its name, whether it is required, and a text. -/
structure DescParts where
  summary : Datum
  args : List (Datum × Datum × Datum)
  examples : Datum

namespace DescParts

/-- The description of these parts as they stand, with a summary and examples. -/
def desc (d : DescParts) (summary examples : Option String) : CommandDesc :=
  ⟨summary, d.args.map fun a => ⟨a.1.plain, a.2.1.truthy, a.2.2.plain⟩, examples⟩

/-- The description where it becomes one text. -/
def joined (d : DescParts) : Except Misuse CommandDesc := do
  let summary ← d.summary.answer?.mapM Datum.appended
  let examples ← d.examples.answer?.mapM Datum.appended
  return d.desc summary examples

/-- The description where its parts are shown one by one. -/
def worded (d : DescParts) : CommandDesc :=
  d.desc (d.summary.answer?.map Datum.plain) (d.examples.answer?.map Datum.plain)

end DescParts

/-- What is given for the summary of a family: a text, or something else. -/
inductive SummaryPart where
  | fragment (f : Fragment)
  | datum (d : Datum)

namespace SummaryPart

/-- The summary as it stands. -/
def fragment? : SummaryPart → Option Fragment
  | fragment f => some f
  | datum d => if d.truthy then some (.plain d.plain) else none

end SummaryPart

/-- The parts of a topic. -/
inductive TopicParts where
  | command (usage : UsageParts) (desc : DescParts)
  | family (summary : SummaryPart) (commands : List UsageParts)
  | custom (text : Datum)

/-- **The topic of these parts** where they are shown one by one. -/
def TopicParts.worded : TopicParts → Except Misuse Topic
  | .command usage desc => do return .command (← usage.worded) desc.worded
  | .family summary commands => do
    return .family summary.fragment? (← commands.mapM UsageParts.worded)
  | .custom (.text s) => .ok (.custom s)
  | .custom d => .error (.noAttribute d.kindName "translate")

end CommandSpec
