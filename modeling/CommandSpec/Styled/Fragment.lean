import CommandSpec.Styled.Text

/-!
# Styled/Fragment — a text that may bring styles of its own

Where the library asks its host for a text, the host may give a plain one, which is shown in the
style of the place where it stands, or a styled one, which is shown as it is.
-/

namespace CommandSpec

/-- A plain text, or one with styles of its own. -/
inductive Fragment where
  | plain (s : String)
  | styled (t : StyledText)
  deriving DecidableEq, Repr

namespace Fragment

/-- The characters of a fragment. -/
def text : Fragment → String
  | plain s => s
  | styled t => t.plain

/-- Whether nothing is in a fragment. -/
def isEmpty (f : Fragment) : Bool := f.text = ""

end Fragment

end CommandSpec
