import CommandSpec.Fold.Plain
import CommandSpec.Command.Declared
import CommandSpec.Command.Help
import CommandSpec.Command.Reader
import CommandSpec.Log
import CommandSpec.Styled.Fault
import CommandSpec.Styled.Help
import CommandSpec.Styled.Layout

/-!
# Tinygit — a small program made of documented commands

A version control program with two commands that do nothing but show what they were given, and a
third that shows help.  `runOn` is the whole program: from its arguments to what it prints on a
console.
-/

namespace CommandSpec.Tinygit

/-! ## Its commands -/

/-- The type that a declaration makes; a root type stands for one that is refused. -/
def declared (serial : Nat) (d : Declaration) : CommandType :=
  match (CommandType.declare serial d).result.1 with
  | .ok t => t
  | .error _ => .root .command

/-- A field of plain text. -/
def textField (attr : String) : String × BodyEntry :=
  (attr, .field ⟨.function .text, false⟩)

/-- Push a branch. -/
def push : CommandType := declared 0 {
  name := ⟨"Push", "Git.Push"⟩
  bases := [.root .command]
  doc := some "\n        `push <branch> [--force]` Push a branch.\n
        # Arguments
        branch: The branch to push.
        --force: Anything non-empty forces the push.
        "
  body := [textField "branch", textField "force"]
  extras := []
  delegates := false }

/-- Show the status. -/
def status : CommandType := declared 1 {
  name := ⟨"Status", "Git.Status"⟩
  bases := [.root .command]
  doc := some "`(status|st)` Show the working tree status."
  body := []
  extras := []
  delegates := false }

/-- The commands of version control. -/
def git : CommandType := declared 2 {
  name := ⟨"Git", "Git"⟩
  bases := [.root .family]
  doc := some "Version control, the tiny edition."
  body := [("Push", .member push), ("Status", .member status)]
  extras := []
  delegates := false }

/-- The command that shows help for one of the others. -/
def help : CommandType := declared 3 {
  name := ⟨"Help", "Help"⟩
  bases := [.root .command]
  doc := some "\n    `help [command...]` Show help for a command.\n
    # Arguments
    command: The command to describe.
    "
  body := [("command", .field ⟨.type git, true⟩)]
  extras := []
  delegates := false }

/-- All commands. -/
def cli : CommandType := declared 4 {
  name := ⟨"Cli", "Cli"⟩
  bases := [.root .family]
  doc := some "Version control, the tiny edition."
  body := []
  extras := [.type push, .type status, .type help]
  delegates := false }

/-! ## Running it -/

/-- What a run leaves behind. -/
structure Outcome where
  status : Nat
  /-- The lines on standard output. -/
  out : List String
  /-- The lines on standard error, log lines apart. -/
  err : List String
  level : LogLevel

/-- Arguments without the switch that turns the log on, and whether it was there.  Only a list can
begin with the switch. -/
def verbose : Datum → Except Misuse (Bool × Datum)
  | .list (.text "-v" :: args) | .list (.text "--verbose" :: args) => .ok (true, .list args)
  | .list args => .ok (false, .list args)
  | .text line => .ok (false, .text line)
  | .record _ => .error (.notHashable "slice")
  | d => .error (.notIndexable d.kindName)

/-- Without arguments, help is shown. -/
def orHelp (args : Datum) : Datum := if args.truthy then args else .list [.text "help"]

/-- How a fault is shown. -/
def faultLines (console : Console) (host : Host) (e : Fault) : List String :=
  console.lines (Styled.report host ⟨true, false, true⟩ e)

/-- The help for a path; without a path, for all of version control. -/
def helpLines (console : Console) (host : Host) (path : Option CommandPath) :
    Except Fault (List String) := do
  let found ← match path with
    | none => git.rootTopic
    | some p => git.topicOf p
  return console.lines (Styled.display host ⟨true, false⟩ git.name.hyphenated found.topic)

/-- What is shown for a value: the help that it asks for, or the value itself. -/
def valueLines (console : Console) (host : Host) : Value → Except Fault (List String)
  | v@(.command id fields) =>
    if some id.serial = help.serial? then
      match fields with
      | [(_, .path p)] => helpLines console host (some p)
      | _ => helpLines console host none
    else .ok [v.shownWith { typeName := TypeName.short }]
  | v => .ok [v.shownWith { typeName := TypeName.short }]

/-- What a parsed value or a fault leaves behind; only the faults of commands are shown. -/
def outcome (console : Console) (host : Host) (level : LogLevel) :
    Except Fault Value → Except Fault Outcome
  | .ok v => (valueLines console host v).map fun out => ⟨0, out, [], level⟩
  | .error e =>
    if e.isCommandFault then .ok ⟨1, [], faultLines console host e, level⟩ else .error e

/-- **The program.**  Its arguments are a list of texts, or a line of them; other arguments are an
error. -/
def runOn (console : Console) (host : Host) (args : Datum) : Except Fault Outcome := do
  let (isVerbose, args) ← (verbose args).mapError Misuse.fault
  let tokens ← (Tokens.of? (.plain (orHelp args))).mapError Misuse.fault
  outcome console host (if isVerbose then LogLevel.debug else 0) (cli.parse tokens)

/-- The program on a wide console. -/
def run (host : Host) (args : Datum) : Except Fault Outcome := runOn .wide host args

/-- The program as its own host. -/
def host : Host := { Host.plain with program := some (.plain "tinygit") }

end CommandSpec.Tinygit
