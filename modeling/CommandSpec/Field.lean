import CommandSpec.Text.Alphanumeric
import CommandSpec.Usage
import CommandSpec.Value

/-!
# Field — where the arguments of a usage are stored

Each argument of a usage becomes a field of the command's values.  Its **attribute** is the name it
is stored under, its **mode** says how many tokens it takes, and its **converter** makes a value of
each token.
-/

namespace CommandSpec

/-- How many tokens a field takes. -/
inductive FieldMode where
  | required | optional | restRequired | restOptional
  deriving DecidableEq, Repr

namespace FieldMode

/-- The mode of an argument. -/
def ofArgument (a : ArgumentUsage) : FieldMode :=
  match a.isRequired, a.isRest with
  | true, false => required
  | false, false => optional
  | true, true => restRequired
  | false, true => restOptional

/-- Whether the field needs a token. -/
def isRequired : FieldMode → Bool
  | required | restRequired => true
  | optional | restOptional => false

/-- Whether the field takes all tokens that are left. -/
def isRest : FieldMode → Bool
  | restRequired | restOptional => true
  | required | optional => false

/-- The name of a mode. -/
def label : FieldMode → String
  | required => "required"
  | optional => "optional"
  | restRequired => "rest-required"
  | restOptional => "rest-optional"

theorem isRequired_ofArgument (a : ArgumentUsage) : (ofArgument a).isRequired = a.isRequired := by
  obtain ⟨_, r, s⟩ := a
  cases r <;> cases s <;> rfl

theorem isRest_ofArgument (a : ArgumentUsage) : (ofArgument a).isRest = a.isRest := by
  obtain ⟨_, r, s⟩ := a
  cases r <;> cases s <;> rfl

end FieldMode

/-- The attribute of an argument: its name without the hyphens in front, and with an underscore for
each character that is no word character. -/
def attributeName (argument : String) : String :=
  .ofList ((argument.toList.dropWhile (· = '-')).map fun c => if Text.isWord c then c else '_')

/-- **A method that is called with a stream**, as it goes on from what it has seen: it ends, it logs
an event, or it asks the stream for its next token, which it consumes or leaves. -/
inductive Method where
  | done (outcome : Except Fault Value)
  | log (event : Event) (more : Method)
  | next (more : Except Misuse (Option String) → Method)
  | peek (more : Except Misuse (Option String) → Method)

/-- A function from tokens to values, with the events it logs, and the name it goes by.  Whatever
can be called may be one, and so it may have methods, as a command type has. -/
structure Converter where
  label : String
  convert : String → Except Fault Value × List Event
  /-- What it has for a method of that name that reads a stream. -/
  reader? : String → Option Method := fun _ => none
  /-- What it has for the method that gives help for a path. -/
  help? : Option (CommandPath → Except Fault Value) := none
  /-- What is wrong with asking it for anything else. -/
  lacks : String → Misuse := .noAttribute "function"

/-- The converter that keeps a token as it is. -/
def Converter.text : Converter where
  label := "str"
  convert token := (.ok (.text token), [])

/-- A field that takes one token. -/
structure PlainField where
  name : String
  attr : String
  converter : Converter

/-- A field of a command, as it is described to others. -/
structure Field where
  name : String
  attr : String
  mode : FieldMode
  isPath : Bool
  delegates : Bool
  deriving DecidableEq, Repr

end CommandSpec
