import CommandSpec.Styled.Markup
import CommandSpec.Text.CellWidth
import CommandSpec.Text.Lines

/-!
# Styled/Layout — markup as lines of plain text

A markup has the lines that a console without colours shows where each of them fits.  A table has a
rounded frame, a blank on either side of each cell, and its title above it.  What a console makes of
lines that are too long for it is for the console to say (`Console`).
-/

namespace CommandSpec

namespace Layout

/-- A text with spaces at its end, up to a width. -/
def padded (width : Nat) (s : String) : String := s ++ "".pushn ' ' (width - s.length)

/-- The lines of a text, their tabs filled up. -/
def textLines (s : String) : List String :=
  (Text.splitAt '\n' s.toList).map fun line => .ofList (Text.tabbed line)

/-- A line of a frame around two columns. -/
def rule (left cross right : String) (widths : Nat × Nat) : String :=
  left ++ "".pushn '─' (widths.1 + 2) ++ cross ++ "".pushn '─' (widths.2 + 2) ++ right

/-- The lines of a table. -/
def tableLines (t : StyledTable) : List String :=
  let rows := t.rows.map fun r => (r.1.plain, r.2.plain)
  let widths := rows.foldl (fun w r => (max w.1 r.1.length, max w.2 r.2.length)) (0, 0)
  let body := rows.map fun r =>
    "│ " ++ padded widths.1 r.1 ++ " │ " ++ padded widths.2 r.2 ++ " │"
  padded (widths.1 + widths.2 + 7) t.title.plain ::
    rule "╭" "┬" "╮" widths :: body ++ [rule "╰" "┴" "╯" widths]

mutual

/-- **The lines of a markup.**  The title of a frame stands on a line of its own. -/
def lines : Markup → List String
  | .text t => textLines t.plain
  | .group items => linesOfAll items
  | .panel child title => title.plain :: lines child
  | .table t => tableLines t

/-- The lines of several markups, one below the other. -/
def linesOfAll : List Markup → List String
  | [] => []
  | m :: ms => lines m ++ linesOfAll ms

end

end Layout

/-- **A console without colours.**  It may fold the lines of a markup, but shows some if there are
any. -/
structure Console where
  lines : Markup → List String
  lines_ne_nil : ∀ m, Layout.lines m ≠ [] → lines m ≠ []

/-- A console that is wide enough for every line. -/
def Console.wide : Console := ⟨Layout.lines, fun _ => id⟩

end CommandSpec
