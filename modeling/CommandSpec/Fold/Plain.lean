import CommandSpec.Fold.Help
import CommandSpec.Fold.Suggested
import CommandSpec.Topic.Making

/-!
# Fold/Plain — faults and topics as plain text

Faults become messages of one line in English, topics become help texts.
-/

namespace CommandSpec.Plain

/-! ## Faults -/

/-- Names between single quotes, set off by commas. -/
def options (names : List String) : String :=
  ", ".intercalate (names.map fun n => "'" ++ n ++ "'")

/-- The message for a token that begins no identifier.  It names what may have been meant, or else
what there is. -/
def noIdMatch (suggest : Bool) (given : FaultPart) (available : List Datum) : String :=
  let message := "Not sure what you mean by " ++ given.shown ++ "."
  let meant := suggested suggest given available
  if !meant.isEmpty then message ++ "  Did you mean: " ++ options meant
  else if !available.isEmpty then
    message ++ "  Available options are: " ++ options (available.map Datum.plain)
  else message

/-- Faults as messages; `suggest` says whether unknown names are compared with those that exist. -/
def faults (suggest : Bool) : FaultFolder String where
  noIdMatch := noIdMatch suggest
  ambiguousId candidates given :=
    "Not sure what you mean by " ++ given.shown ++ ".  Could be: " ++ options candidates
  incompletePath available := "Incomplete command path, expected one of: " ++ options available
  trailingPath extra := "Unexpected extra path argument " ++ extra.shown
  noInput := ""
  missingRequired cmd arg :=
    "Missing required argument '" ++ arg.plain ++ "' to command '" ++ cmd.plain ++ "'"
  badConvert cmd arg inner :=
    "Couldn't parse argument '" ++ arg.plain ++ "' of command '" ++ cmd.plain ++ "': " ++ inner
  trailing cmd extra := "Unexpected extra argument " ++ extra.shown ++ " to '" ++ cmd.plain ++ "'"
  subcommand cmd inner := "Subcommand '" ++ cmd.plain ++ "' failed: " ++ inner
  other e := e.notice

/-! ## Topics -/

/-- Lines below a heading, each indented. -/
def listing (heading : String) (lines : List String) : String :=
  heading ++ "".intercalate (lines.map ("\n  " ++ ·))

/-- A usage as one line of its parts. -/
def usageLine (ids : List String) (args : List String) : String :=
  " ".intercalate (Usage.clause ids :: args)

/-- Topics as help texts. -/
def help : HelpFolder String String String String String String where
  argumentUsage := ArgumentUsage.spelling
  longUsage ids args desc := "USAGE: " ++ usageLine ids args ++ "\n" ++ desc
  shortUsage ids args desc := usageLine ids args ++ ": " ++ desc
  argumentDesc name isRequired desc :=
    name ++ (if isRequired then "" else " (optional)") ++ ": " ++ desc
  commandDesc summary args examples :=
    "\n\n".intercalate <|
      (summary.toList.map ("SUMMARY\n" ++ ·)) ++
        (if args.isEmpty then [] else [listing "ARGUMENTS" args]) ++
        examples.toList.map ("EXAMPLES\n\n" ++ ·)
  commandTopic usage desc :=
    if usage ≠ "" && desc ≠ "" then usage ++ "\n\n" ++ desc else usage ++ desc
  familyTopic summary commands :=
    let text := (summary.map Fragment.text).getD ""
    if commands.isEmpty then text
    else (if text = "" then "" else text ++ "\n\n") ++ listing "COMMANDS" commands
  customTopic text := text

/-- **What comes of the parts of a topic.**  A custom topic, and a summary that stands alone, are
handed on as they are; a list is extended by the characters of a text. -/
def ofParts : TopicParts → Except Misuse Datum
  | .command usage desc => do
    return .text (help.fold (.command (← usage.joined) (← desc.joined)))
  | .family (.fragment summary) commands => do
    return .text (help.fold (.family summary (← commands.mapM UsageParts.joined)))
  | .family (.datum summary) commands => do
    let below := help.fold (.family none (← commands.mapM UsageParts.joined))
    if !summary.truthy then return .text below
    if below = "" then return summary
    match summary with
    | .list items => return .list (items ++ Datum.characters ("\n\n" ++ below))
    | d => throw (.notExtended d.kindName)
  | .custom d => .ok d

end CommandSpec.Plain
