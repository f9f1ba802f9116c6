import CommandSpec.Text.Blank

/-!
# Text/Relaxed — a text brought onto one line

`relaxed` trims a text and writes every run of blanks that breaks the line as one space.  Runs of
blanks inside a line stay as they are, and no word is lost.
-/

namespace CommandSpec.Text

/-- Each maximal run of blanks becomes a single space when a line feed is in it. -/
def joinLines : List Char → List Char
  | [] => []
  | c :: cs =>
    if isBlank c then
      let run := c :: cs.takeWhile isBlank
      (if run.contains '\n' then [' '] else run) ++ joinLines (cs.dropWhile isBlank)
    else c :: joinLines cs
termination_by s => s.length
decreasing_by
  · exact Nat.lt_succ_of_le (length_dropWhile_le _ _)
  · exact Nat.lt_succ_self _

/-- A text on one line. -/
def relaxedChars (s : List Char) : List Char := joinLines (trim s)

/-- A text on one line. -/
def relaxed (s : String) : String := .ofList (relaxedChars s.toList)

end CommandSpec.Text
