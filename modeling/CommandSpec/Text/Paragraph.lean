import CommandSpec.Text.Blank

/-!
# Text/Paragraph — lines grouped into paragraphs

A paragraph is a maximal group of consecutive lines that are not blank.  Blank lines only set
paragraphs apart: however many there are, no paragraph is empty.
-/

namespace CommandSpec.Text

/-- The group that has been gathered, if it holds a line. -/
def flushGroup (group : List (List Char)) : List (List (List Char)) :=
  if group.isEmpty then [] else [group]

/-- The groups of lines that are not blank, the first of which goes on from `group`. -/
def lineGroupsFrom (group : List (List Char)) : List (List Char) → List (List (List Char))
  | [] => flushGroup group
  | l :: ls =>
    if allBlank l then flushGroup group ++ lineGroupsFrom [] ls
    else lineGroupsFrom (group ++ [l]) ls

/-- The maximal groups of consecutive lines that are not blank. -/
def lineGroups (ls : List (List Char)) : List (List (List Char)) := lineGroupsFrom [] ls

/-- A group with its lines kept, each ended by a line feed. -/
def verbatim (group : List (List Char)) : List Char := group.flatMap (· ++ ['\n'])

/-- A group on one line: its lines are trimmed and a space stands between them. -/
def flowed (group : List (List Char)) : List Char := [' '].intercalate (group.map trim)

/-- The paragraphs among some lines, on one line each. -/
def paragraphs (ls : List String) : List String :=
  (lineGroups (ls.map String.toList)).map fun g => .ofList (flowed g)

/-- The paragraphs among some lines, with their lines kept. -/
def verbatimParagraphs (ls : List String) : List String :=
  (lineGroups (ls.map String.toList)).map fun g => .ofList (verbatim g)

end CommandSpec.Text
