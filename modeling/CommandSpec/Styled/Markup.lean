import CommandSpec.Styled.Text

/-!
# Styled/Markup — what is laid out on a console

A markup is a text, several markups one below the other, a framed markup with a title, or a table of
two columns.
-/

namespace CommandSpec

/-- A table of two columns, whose title stands on the left. -/
structure StyledTable where
  title : StyledText
  style : String
  rows : List (StyledText × StyledText)

/-- Something to lay out. -/
inductive Markup where
  | text (t : StyledText)
  | group (items : List Markup)
  | panel (child : Markup) (title : StyledText)
  | table (t : StyledTable)

end CommandSpec
