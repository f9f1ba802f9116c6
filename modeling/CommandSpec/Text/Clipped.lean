/-!
# Text/Clipped — the beginning of a text

A name that is too long for a message is cut to a number of bytes of UTF-8.  A character that would
be cut in two is replaced.
-/

namespace CommandSpec.Text

/-- The characters that fit into `n` bytes; one that fits in part is replaced. -/
def clippedChars (n : Nat) : List Char → List Char
  | [] => []
  | c :: cs =>
    if c.utf8Size ≤ n then c :: clippedChars (n - c.utf8Size) cs
    else if n = 0 then []
    else ['\uFFFD']

/-- The beginning of a text that fits into `n` bytes. -/
def clipped (n : Nat) (s : String) : String := .ofList (clippedChars n s.toList)

end CommandSpec.Text
