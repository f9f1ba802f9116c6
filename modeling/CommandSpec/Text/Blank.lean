/-!
# Text/Blank — blank characters, trimming and words

A character is **blank** when Unicode counts it as white space.  The scanners of the library skip
blanks, the readers trim them, and a text is blank when nothing else is in it.  Texts are lists of
characters here, so that every scan is a recursion on the text.
-/

namespace CommandSpec.Text

/-- Blank characters: the Unicode white space and the four ASCII separators. -/
def isBlank (c : Char) : Bool :=
  let n := c.toNat
  (0x09 ≤ n && n ≤ 0x0D) || (0x1C ≤ n && n ≤ 0x20) || n == 0x85 || n == 0xA0 || n == 0x1680 ||
    (0x2000 ≤ n && n ≤ 0x200A) || n == 0x2028 || n == 0x2029 || n == 0x202F || n == 0x205F ||
    n == 0x3000

/-- A text is blank when all of it is. -/
def allBlank (s : List Char) : Bool := s.all isBlank

/-- Drop the blanks in front. -/
def trimLeft (s : List Char) : List Char := s.dropWhile isBlank

/-- Drop the blanks at the end. -/
def trimRight : List Char → List Char
  | [] => []
  | c :: cs =>
    match trimRight cs with
    | [] => if isBlank c then [] else [c]
    | d :: ds => c :: d :: ds

/-- Drop the blanks at both ends. -/
def trim (s : List Char) : List Char := trimRight (trimLeft s)

/-- The words of a text: its maximal runs of characters that are not blank. -/
def words : List Char → List (List Char)
  | [] => []
  | c :: cs =>
    if isBlank c then words cs
    else match cs, words cs with
      | [], ws => [c] :: ws
      | d :: _, ws =>
        if isBlank d then [c] :: ws
        else match ws with
          | [] => [[c]]
          | w :: ws => (c :: w) :: ws

/-! ## First lemmas -/

theorem length_dropWhile_le {α : Type _} (p : α → Bool) :
    ∀ s : List α, (s.dropWhile p).length ≤ s.length
  | [] => Nat.le_refl _
  | c :: cs => by
    rw [List.dropWhile_cons]
    split
    · exact Nat.le_succ_of_le (length_dropWhile_le p cs)
    · exact Nat.le_refl _

theorem length_trimLeft_le (s : List Char) : (trimLeft s).length ≤ s.length :=
  length_dropWhile_le _ s

/-- **Where dropping blanks stops, no blank stands.** -/
theorem isBlank_head_trimLeft :
    ∀ {s : List Char} {c : Char} {r : List Char}, trimLeft s = c :: r → isBlank c = false
  | [], _, _, h => by simp [trimLeft] at h
  | a :: as, c, r, h => by
    rw [trimLeft, List.dropWhile_cons] at h
    split at h
    · exact isBlank_head_trimLeft h
    · next ha => cases h; simpa using ha

/-- The blanks of ASCII are blanks. -/
theorem isBlank_of_isWhitespace {c : Char} (h : c.isWhitespace = true) : isBlank c = true := by
  simp only [Char.isWhitespace, Bool.or_eq_true, decide_eq_true_eq] at h
  rcases h with ((rfl | rfl) | rfl) | rfl <;> rfl

end CommandSpec.Text
