import CommandSpec.Fold.Help
import CommandSpec.Misuse
import CommandSpec.Styled.Markup
import CommandSpec.Styled.Palette
import CommandSpec.Text.Case
import CommandSpec.Usage.Printer

/-!
# Styled/Help — help topics as styled text

A command shows its usage and its description in sections, a family shows a table of its commands.
-/

namespace CommandSpec.Styled

open StyledText (assemble unstyled)

/-- How help topics are shown. -/
structure HelpOptions where
  colourful : Bool
  fancy : Bool

/-- The options that a record gives to a call, which knows no others. -/
def HelpOptions.ofRecord? (call : String) (record : List (String × Datum)) :
    Except Misuse HelpOptions :=
  let chosen (name : String) (default : Bool) : Bool :=
    (record.lookup name).elim default Datum.truthy
  match Misuse.optionFault? call ["colorful", "fancy"] (record.map (·.1)) with
  | some e => .error e
  | none => .ok ⟨chosen "colorful" true, chosen "fancy" false⟩

/-- The look of help topics. -/
def helpLook (host : Host) (o : HelpOptions) : Look := .of o.colourful host helpStyles

/-- The identifiers and arguments of a usage. -/
def usageLine (look : Look) (ids : List String) (args : List StyledText) : StyledText :=
  .join (unstyled " ") (look.part "command-id" (Usage.clause ids) :: args)

/-- A labelled section of a description. -/
def labelled (look : Look) (label : String) (body : StyledText) : StyledText :=
  assemble [look.part "section-label" label, unstyled ":\n", body]

/-- Help topics as markup. -/
def help (look : Look) :
    HelpFolder StyledText StyledText (StyledText × StyledText) StyledText StyledText Markup where
  argumentUsage name isRequired isRest :=
    look.part (if isRest then "rest-metavar" else "metavar")
      (ArgumentUsage.spelling name isRequired isRest)
  longUsage ids args desc :=
    assemble [look.part "usage-label" "usage", unstyled ": ", usageLine look ids args,
      unstyled "\n", look.part "description" desc]
  shortUsage ids args desc := (usageLine look ids args, look.part "description" desc)
  argumentDesc name isRequired desc :=
    assemble ([unstyled "  ", look.part "argument-name" name] ++
      (if isRequired then [] else [look.part "optional" " (optional)"]) ++
      [unstyled ": ", look.part "argument-description" desc])
  commandDesc summary args examples :=
    .join (unstyled "\n\n") <|
      (summary.toList.map fun s => labelled look "summary" (look.part "description" s)) ++
        (if args.isEmpty then [] else [labelled look "arguments" (.join (unstyled "\n") args)]) ++
        examples.toList.map fun s => labelled look "examples" (look.part "example" s)
  commandTopic usage desc :=
    if desc.plain = "" then .text usage else .group [.text usage, .text (unstyled ""), .text desc]
  familyTopic summary commands :=
    .group <|
      (summary.toList.filter (!·.isEmpty)).map (fun s => .text (look.fragment "description" s)) ++
        if commands.isEmpty then []
        else [.table ⟨look.part "section-label" "commands", look.style "commands-table", commands⟩]
  customTopic text := .text (unstyled text)

/-- The title of a framed help text. -/
def frameTitle (title : Option String) : String :=
  let words := match title with
    | none | some "" => "help"
    | some t => t ++ " help"
  "[ " ++ Text.upper words ++ " ]"

/-- **The whole help text for a topic.** -/
def display (host : Host) (o : HelpOptions) (title : Option String) (topic : Topic) : Markup :=
  let look := helpLook host o
  let body := (help look).fold topic
  if o.fancy then .panel body (look.part "panel-title" (frameTitle title)) else body

end CommandSpec.Styled
