import CommandSpec.Fold.Suggested
import CommandSpec.Styled.Markup
import CommandSpec.Styled.Palette

/-!
# Styled/Fault — faults as styled text

The messages are those of the plain folder (`Fold/Plain`), with what the user typed, the names of
commands and arguments, and the options each in their style.  `report` puts a header above the
message and the host's hint below it.
-/

namespace CommandSpec.Styled

open StyledText (assemble unstyled)

/-- How faults are shown. -/
structure FaultOptions where
  colourful : Bool
  fancy : Bool
  suggest : Bool

/-- The options that a record gives to a call, which knows no others. -/
def FaultOptions.ofRecord? (call : String) (record : List (String × Datum)) :
    Except Misuse FaultOptions :=
  let chosen (name : String) (default : Bool) : Bool :=
    (record.lookup name).elim default Datum.truthy
  match Misuse.optionFault? call ["colorful", "fancy", "suggest"] (record.map (·.1)) with
  | some e => .error e
  | none => .ok ⟨chosen "colorful" true, chosen "fancy" false, chosen "suggest" true⟩

/-- The look of faults. -/
def faultLook (host : Host) (o : FaultOptions) : Look := .of o.colourful host faultStyles

/-- A part of a fault as it is shown, in the style of a key. -/
def faultPart (look : Look) (key : String) (p : FaultPart) : StyledText := look.part key p.shown

/-- Names as they are shown, set off by commas. -/
def optionList (look : Look) (names : List Datum) : StyledText :=
  .join (unstyled ", ") (names.map fun n => faultPart look "option" (.datum n))

/-- The message for a token that begins no identifier. -/
def noIdMatch (look : Look) (suggest : Bool) (given : FaultPart) (available : List Datum) :
    StyledText :=
  let message :=
    assemble [unstyled "Not sure what you mean by ", faultPart look "token" given, unstyled "."]
  let meant := suggested suggest given available
  if !meant.isEmpty then
    assemble [message, unstyled "  Did you mean: ", optionList look (meant.map .text)]
  else if !available.isEmpty then
    assemble [message, unstyled "  Available options are: ", optionList look available]
  else message

/-- Faults as styled messages. -/
def faults (look : Look) (suggest : Bool) : FaultFolder StyledText where
  noIdMatch := noIdMatch look suggest
  ambiguousId candidates given :=
    assemble [unstyled "Not sure what you mean by ", faultPart look "token" given,
      unstyled ".  Could be: ", optionList look (candidates.map .text)]
  incompletePath available :=
    assemble [unstyled "Incomplete command path, expected one of: ",
      optionList look (available.map .text)]
  trailingPath extra :=
    assemble [unstyled "Unexpected extra path argument ", faultPart look "token" extra]
  noInput := unstyled ""
  missingRequired cmd arg :=
    assemble [unstyled "Missing required argument ", faultPart look "command" arg,
      unstyled " to command ", faultPart look "command" cmd]
  badConvert cmd arg inner :=
    assemble [unstyled "Couldn't parse argument ", faultPart look "command" arg,
      unstyled " of command ", faultPart look "command" cmd, unstyled ": ", inner]
  trailing cmd extra :=
    assemble [unstyled "Unexpected extra argument ", faultPart look "token" extra,
      unstyled " to ", faultPart look "command" cmd]
  subcommand cmd inner :=
    assemble [unstyled "Subcommand ", faultPart look "command" cmd, unstyled " failed: ", inner]
  other e := unstyled e.notice

/-- The styled message of a fault. -/
def message (host : Host) (o : FaultOptions) (e : Fault) : StyledText :=
  (faults (faultLook host o) o.suggest).fold e

/-- The title of a fault: the words of its kind. -/
def title (e : Fault) : String := Text.spaced ' ' ((e.kind.dropSuffix "Error").toString)

/-- The header of a fault: the host's name, the code and the title. -/
def header (host : Host) (look : Look) (e : Fault) : StyledText :=
  let program := match host.program with
    | some p => if p.isEmpty then [] else [look.fragment "prog-name" p, unstyled " — "]
    | none => []
  let code := match e.code? with
    | some c => [look.part "code" (host.label c), unstyled " | "]
    | none => []
  assemble ([unstyled "[ "] ++ program ++ code ++
    [look.part "error-title" (title e), unstyled " ]"])

/-- The host's hint for a fault, behind an arrow. -/
def hint? (host : Host) (look : Look) (e : Fault) : Option StyledText :=
  match e.code?.bind host.hint? with
  | some h =>
    if h.isEmpty then none
    else some (assemble [look.part "hint-arrow" " → ", look.fragment "hint" h])
  | none => none

/-- **The whole report of a fault.** -/
def report (host : Host) (o : FaultOptions) (e : Fault) : Markup :=
  let look := faultLook host o
  let body := (message host o e).stylize (look.style "error-message") :: (hint? host look e).toList
  if o.fancy then .panel (.group (body.map .text)) (header host look e)
  else .group ((header host look e :: body).map .text)

end CommandSpec.Styled
