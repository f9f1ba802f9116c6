import CommandSpec.Docs
import CommandSpec.Docs.Entry
import CommandSpec.Logged
import CommandSpec.Text.Alphanumeric
import CommandSpec.Text.Case
import CommandSpec.Text.Margin
import CommandSpec.Text.Paragraph
import CommandSpec.Usage.Reader

/-!
# Docs/Reader — reading documentation

The documentation of a command is a text of paragraphs.  The first is the usage; each later one
opens with a header, written `# Header` or `Header:`, and is one of three known sections or is
passed over. A known section stands once at most, and the arguments section documents exactly the
arguments of the usage.
-/

namespace CommandSpec

/-- The sections that are known. -/
inductive Section where
  | summary | arguments | examples
  deriving DecidableEq, Repr

/-- The section that a header names, in lower case. -/
def Section.ofHeader? (header : String) : Option Section :=
  if ["description", "overview", "summary"].contains header then some .summary
  else if ["arguments", "parameters"].contains header then some .arguments
  else if header = "examples" then some .examples
  else none

/-- The name of a section in messages. -/
def Section.name : Section → String
  | .summary => "summary"
  | .arguments => "arguments"
  | .examples => "examples"

/-- Why a text is no documentation. -/
inductive DocsFault where
  /-- There is no text. -/
  | missing
  /-- The usage has no short description. -/
  | undescribed (command : String)
  /-- A paragraph after the first opens with no header. -/
  | headless (line : String)
  /-- A section stands twice. -/
  | repeatedSection (which : Section)
  /-- An argument is documented twice. -/
  | repeatedEntry (name : String)
  /-- An arguments section has a text and no entry. -/
  | noEntries
  /-- The documented arguments are not those of the usage. -/
  | mismatch (command : String) (expected found : List String)
  deriving DecidableEq, Repr

/-- What is reported of a text that is no documentation. -/
def DocsFault.message : DocsFault → String
  | missing => "missing doc comment for command"
  | undescribed command => "missing command description for " ++ Text.quoted command
  | headless line => "paragraph missing header: " ++ Text.quoted line
  | repeatedSection which => "multiple " ++ which.name ++ " sections found"
  | repeatedEntry name => "duplicate argument description " ++ Text.quoted name
  | noEntries => "unexpected argument description format"
  | mismatch command expected found =>
    "mismatched argument descriptions for " ++ Text.quoted command ++ " (expected " ++
      Text.quotedList expected ++ ", found " ++ Text.quotedList found ++ ")"

/-- A documentation fault as a fault. -/
def DocsFault.fault (e : DocsFault) : Fault :=
  match e with
  | mismatch _ expected found =>
    .documentation e.message (expected.map .text) (found.map .text)
  | _ => .documentation e.message [] []

/-- A usage fault as a fault. -/
def UsageFault.fault (e : UsageFault) : Fault := .usageSyntax e.message

namespace Docs

open Text Logged

/-! ## The arguments section -/

/-- The documented arguments, by name, after those that have been `found`. -/
def gatherEntries (found : List (String × String)) :
    List (List Char × List Char) → Except DocsFault (List (String × String))
  | [] => .ok found
  | (name, text) :: more =>
    let name := String.ofList name
    if (found.lookup name).isSome then .error (.repeatedEntry name)
    else gatherEntries (found ++ [(name, .ofList (relaxedChars text))]) more

/-- Whether two lists have the same members. -/
def sameMembers (xs ys : List String) : Bool := xs.all ys.contains && ys.all xs.contains

/-- **An arguments section** for the arguments of a usage, whose order the result has. -/
def readArguments (usage : Usage) (text : String) : Except DocsFault (List ArgumentDoc) := do
  let found ← gatherEntries [] (entries text.toList)
  if !allBlank text.toList && found.isEmpty then throw .noEntries
  let names := found.map (·.1)
  unless sameMembers names usage.names do
    throw (.mismatch usage.canonical usage.names names)
  return usage.arguments.map fun a => ⟨a.name, a.isRequired, (found.lookup a.name).getD ""⟩

/-! ## Headers -/

/-- What follows the last line end among the blanks in front, if there is a line end among them. -/
def afterLineEnd? : List Char → Option (List Char)
  | [] => none
  | c :: cs =>
    if isBlank c then
      match afterLineEnd? cs with
      | some rest => some rest
      | none => if c = '\n' then some cs else none
    else none

/-- The header of a paragraph, and the body below it. -/
def header? (paragraph : List Char) : Option (List Char × List Char) :=
  match trimLeft paragraph with
  | '#' :: cs =>
    match (trimLeft cs).span (!isBlank ·) with
    | ([], _) => none
    | (word, rest) => (afterLineEnd? rest).map (word, ·)
  | s =>
    match s.span isWord with
    | ([], _) => none
    | (word, rest) =>
      match trimLeft rest with
      | ':' :: after => (afterLineEnd? after).map (word, ·)
      | _ => none

/-! ## The documentation of a command -/

/-- The sections that have been read. -/
structure Sections where
  summary : Option String
  args : Option (List ArgumentDoc)
  examples : Option String

/-- Read one section after those that have been read. -/
def readSection (usage : Usage) (sections : Sections) (paragraph : List Char) :
    Logged Sections := do
  let some (word, body) := header? paragraph
    | throw (DocsFault.headless (.ofList ((splitLines (trim paragraph)).headD []))).fault
  let header := lower (.ofList word)
  match Section.ofHeader? header with
  | some .summary =>
    if sections.summary.isSome then throw (DocsFault.repeatedSection .summary).fault
    return { sections with summary := some (.ofList (relaxedChars body)) }
  | some .arguments =>
    if sections.args.isSome then throw (DocsFault.repeatedSection .arguments).fault
    let args ← check DocsFault.fault (readArguments usage (.ofList body))
    return { sections with args := some args }
  | some .examples =>
    if sections.examples.isSome then throw (DocsFault.repeatedSection .examples).fault
    return { sections with examples := some (.ofList (trimLineFeeds (dedented body))) }
  | none =>
    log (.ignoredSection header usage.canonical)
    return sections

/-- The paragraphs of a documentation text, its margin removed, with their lines kept. -/
def paragraphsOf (text : String) : List (List Char) :=
  (lineGroups (splitLines (cleaned text.toList))).map verbatim

/-- Read a usage paragraph. -/
def readUsage (paragraph : List Char) : Logged Usage := do
  let usage ← check UsageFault.fault (Usage.ofParagraph? (.ofList paragraph))
  log (.parsedUsage usage.canonical usage.arity)
  return usage

/-- **The documentation of a command.**  A usage without arguments needs no arguments section. -/
def read (text : Option String) : Logged CommandDocs := do
  match paragraphsOf (text.getD "") with
  | [] => throw DocsFault.missing.fault
  | first :: more =>
    let usage ← readUsage first
    let sections ← more.foldlM (readSection usage) ⟨none, none, none⟩
    if allBlank usage.desc.toList then throw (DocsFault.undescribed usage.canonical).fault
    let args ← match sections.args with
      | some args => pure args
      | none => check DocsFault.fault (readArguments usage "")
    return ⟨usage, sections.summary, args, sections.examples⟩

/-- The documentation of a command, without the log. -/
def ofText? (text : Option String) : Except Fault CommandDocs := (read text).result.1

/-- **The summary of a family**: its paragraphs, one line each; `none` when there is no text. -/
def setSummary (text : Option String) : Option String :=
  let ls := text.map fun t => (lineGroups (splitLines (cleaned t.toList))).map flowed
  match ls.map unlines with
  | none | some [] => none
  | some summary => some (.ofList (trim summary))

end Docs

end CommandSpec
