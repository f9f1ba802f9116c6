import CommandSpec.Text.Blank
import CommandSpec.Text.Lines

/-!
# Text/Margin — removing the indentation that lines share

Documentation is written indented.  `cleaned` removes the margin of a whole documentation text,
whose first line stands apart because it follows an opening quote; `dedented` removes what all
lines of a block begin with.
-/

namespace CommandSpec.Text

/-- Tabs filled up with spaces to the next multiple of eight columns, from the given column on. -/
def expandTabsFrom (column : Nat) : List Char → List Char
  | [] => []
  | c :: cs =>
    if c = '\t' then
      List.replicate (8 - column % 8) ' ' ++ expandTabsFrom (column + (8 - column % 8)) cs
    else c :: expandTabsFrom (if c = '\n' || c = '\r' then 0 else column + 1) cs

/-- How many blanks a line begins with. -/
def indentation (l : List Char) : Nat := (l.takeWhile isBlank).length

/-- The least indentation of the lines that are not blank, if there is such a line. -/
def margin? (ls : List (List Char)) : Option Nat :=
  ((ls.filter (!allBlank ·)).map indentation).min?

/-- Drop the empty lines at both ends. -/
def dropEmptyEnds (ls : List (List Char)) : List (List Char) :=
  ((ls.dropWhile List.isEmpty).reverse.dropWhile List.isEmpty).reverse

/-- Remove the margin of the lines after the first; the first loses all its indentation. -/
def removeMargin : List (List Char) → List (List Char)
  | [] => []
  | l :: ls => trimLeft l :: ls.map (·.drop ((margin? ls).getD 0))

/-- A documentation text without its margin, its tabs and the empty lines around it. -/
def cleaned (s : List Char) : List Char :=
  unlines (dropEmptyEnds (removeMargin (splitAt '\n' (expandTabsFrom 0 s))))

/-! ## Blocks without a first line apart -/

/-- Spaces and tabs, which alone count as the indentation of a block. -/
def isIndent (c : Char) : Bool := c = ' ' || c = '\t'

/-- The longest common beginning. -/
def commonFront : List Char → List Char → List Char
  | a :: as, b :: bs => if a = b then a :: commonFront as bs else []
  | _, _ => []

/-- What the lines of a block that hold more than indentation all begin with. -/
def sharedIndent (ls : List (List Char)) : List Char :=
  match (ls.filter (!·.all isIndent)).map (·.takeWhile isIndent) with
  | [] => []
  | i :: is => is.foldl commonFront i

/-- A block without the indentation that its lines share; lines of indentation alone
become empty. -/
def dedented (s : List Char) : List Char :=
  let ls := splitAt '\n' s
  let shared := sharedIndent ls
  unlines (ls.map fun l => if l.all isIndent then [] else l.drop shared.length)

/-- Drop the line feeds at both ends. -/
def trimLineFeeds (s : List Char) : List Char :=
  ((s.dropWhile (· = '\n')).reverse.dropWhile (· = '\n')).reverse

end CommandSpec.Text
