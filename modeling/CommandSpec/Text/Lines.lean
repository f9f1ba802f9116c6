/-!
# Text/Lines — cutting a text at its line ends

Two notions of a line are used.  `splitLines` knows every line end of Unicode and makes no empty
line of a final one; `splitAt` cuts at each occurrence of one character, and so has one piece more
than there are cuts.
-/

namespace CommandSpec.Text

/-- Characters that end a line. -/
def isLineEnd (c : Char) : Bool :=
  let n := c.toNat
  (0x0A ≤ n && n ≤ 0x0D) || (0x1C ≤ n && n ≤ 0x1E) || n == 0x85 || n == 0x2028 || n == 0x2029

/-- Put a character in front of the first line. -/
def consLine (c : Char) : List (List Char) → List (List Char)
  | [] => [[c]]
  | l :: ls => (c :: l) :: ls

/-- The lines of a text, without their ends; a carriage return and the line feed after it are one
end. -/
def splitLines : List Char → List (List Char)
  | [] => []
  | '\r' :: '\n' :: cs => [] :: splitLines cs
  | c :: cs => if isLineEnd c then [] :: splitLines cs else consLine c (splitLines cs)

/-- The pieces of a text between the occurrences of one character. -/
def splitAt (b : Char) : List Char → List (List Char)
  | [] => [[]]
  | c :: cs => if c = b then [] :: splitAt b cs else consLine c (splitAt b cs)

/-- Lines joined by line feeds. -/
def unlines (ls : List (List Char)) : List Char := ['\n'].intercalate ls

theorem splitAt_ne_nil (b : Char) : ∀ s, splitAt b s ≠ []
  | [] => by simp [splitAt]
  | c :: cs => by
    rw [splitAt]
    split
    · simp
    · cases h : splitAt b cs <;> simp [consLine]

end CommandSpec.Text
