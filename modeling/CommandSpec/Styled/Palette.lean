import CommandSpec.Datum
import CommandSpec.Fault.Code
import CommandSpec.Styled.Fragment

/-!
# Styled/Palette — the styles of the parts, and what a host may settle

Each kind of part has a key, and a **palette** gives a style for the key.  The program that uses the
library is its **host**: it may give itself a name, name the fault codes, add a hint to each, and
replace styles.
-/

namespace CommandSpec

/-- What a host settles. -/
structure Host where
  program : Option Fragment
  codes : List (FaultCode × Datum)
  hints : List (FaultCode × Option Fragment)
  styles : List (String × String)

namespace Host

/-- A host that settles nothing. -/
def plain : Host := ⟨none, [], [], []⟩

/-- The label of a code: what the host calls it, or its number. -/
def label (h : Host) (code : FaultCode) : String :=
  match h.codes.lookup code with
  | some d => d.plain
  | none => toString code.number

/-- The hint for a code. -/
def hint? (h : Host) (code : FaultCode) : Option Fragment := (h.hints.lookup code).join

end Host

/-- How parts are shown: whether with styles, and with which. -/
structure Look where
  colourful : Bool
  styles : List (String × String)

namespace Look

/-- A look with default styles, some of which the host replaces. -/
def of (colourful : Bool) (host : Host) (defaults : List (String × String)) : Look :=
  ⟨colourful, host.styles ++ defaults⟩

/-- The style for a key; an unknown key has none. -/
def style (look : Look) (key : String) : String :=
  if look.colourful then (look.styles.lookup key).getD "" else ""

/-- A part of the kind of a key. -/
def part (look : Look) (key s : String) : StyledText := .of (look.style key) s

/-- A fragment in the place of a part. -/
def fragment (look : Look) (key : String) : Fragment → StyledText
  | .plain s => look.part key s
  | .styled t => if look.colourful then t else .unstyled t.plain

end Look

/-- The default styles of faults. -/
def faultStyles : List (String × String) := [
  ("prog-name", "bold #E6E6F0"),
  ("code", "bold #00E5FF"),
  ("error-title", "bold #FF4DA6"),
  ("error-message", "#C8C8D0"),
  ("token", "bold #FFD600"),
  ("command", "bold #36C5F0"),
  ("option", "bold #22C55E"),
  ("hint-arrow", "#9CE19C dim"),
  ("hint", "italic #9CE19C")]

/-- The default styles of help topics. -/
def helpStyles : List (String × String) := [
  ("usage-label", "bold #00E6FF"),
  ("command-id", "bold #FF4D94"),
  ("metavar", "bold #FFD600"),
  ("rest-metavar", "bold italic #FFD600"),
  ("description", "italic #A3A3A3"),
  ("section-label", "bold #FFFFFF"),
  ("argument-name", "bold #36C5F0"),
  ("argument-description", "#9CA3AF"),
  ("optional", "#737373"),
  ("example", "#E5E7EB"),
  ("commands-table", "#4B5563"),
  ("panel-title", "bold #FF4D94")]

end CommandSpec
