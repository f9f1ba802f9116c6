import CommandSpec.Text.Blank

/-!
# Docs/Entry — the entries of an arguments section

An entry is a name at the start of a line, a colon, and a text that goes on to the next entry.  The
blanks in front of the name, around the colon and before the text belong to no part.  Since they may
hold line ends, an entry without a text reaches into the next line, whose start then lies inside it
unless that line is not indented.
-/

namespace CommandSpec.Docs

open Text

/-- The head of an entry: its name, whether the text after it begins at the start of a line, and
that text with all that follows. -/
structure EntryHead where
  name : List Char
  atLineStart : Bool
  rest : List Char

/-- Whether a text ends in a line feed. -/
def endsLine (s : List Char) : Bool := s.getLast? = some '\n'

/-- The head of the entry that begins at the start of a line, or after the blanks there.  The name
goes up to the first colon after its first character, which may be a colon itself. -/
def entryHead? (s : List Char) : Option EntryHead :=
  match trimLeft s with
  | [] => none
  | c :: cs =>
    let inName (d : Char) : Bool := d ≠ ':' && d ≠ '\n'
    match trimLeft (cs.dropWhile inName) with
    | ':' :: after =>
      some ⟨c :: trimRight (cs.takeWhile inName), endsLine (after.takeWhile isBlank),
        trimLeft after⟩
    | _ => none

/-- The rest after the head of an entry is shorter. -/
theorem length_of_entryHead? {s : List Char} {e : EntryHead} (h : entryHead? s = some e) :
    e.rest.length < s.length := by
  unfold entryHead? at h
  split at h
  · simp at h
  · next c cs hs =>
    dsimp only at h
    split at h
    · next after hc =>
      have h₁ := length_trimLeft_le s
      have h₂ := length_trimLeft_le (cs.dropWhile fun d => d ≠ ':' && d ≠ '\n')
      have h₃ := length_dropWhile_le (fun d => d ≠ ':' && d ≠ '\n') cs
      have h₄ := length_trimLeft_le after
      rw [hs] at h₁
      rw [hc] at h₂
      simp only [List.length_cons] at h₁ h₂
      cases h
      show (trimLeft after).length < s.length
      omega
    · simp at h

/-- The head of an entry where one may begin. -/
def entryHeadAt? (atLineStart : Bool) (s : List Char) : Option EntryHead :=
  if atLineStart then entryHead? s else none

theorem length_of_entryHeadAt? {b : Bool} {s : List Char} {e : EntryHead}
    (h : entryHeadAt? b s = some e) : e.rest.length < s.length := by
  cases b
  · simp [entryHeadAt?] at h
  · exact length_of_entryHead? h

/-- The text before the first entry, and the entries with their texts. -/
def entriesFrom (atLineStart : Bool) (s : List Char) :
    List Char × List (List Char × List Char) :=
  match s with
  | [] => ([], [])
  | c :: cs =>
    match _h : entryHeadAt? atLineStart (c :: cs) with
    | some e =>
      let more := entriesFrom e.atLineStart e.rest
      ([], (e.name, more.1) :: more.2)
    | none =>
      let more := entriesFrom (c = '\n') cs
      (c :: more.1, more.2)
termination_by s.length
decreasing_by
  · exact length_of_entryHeadAt? ‹_›
  · exact Nat.lt_succ_self _

/-- The entries of an arguments section, each with its text. -/
def entries (s : List Char) : List (List Char × List Char) := (entriesFrom true s).2

end CommandSpec.Docs
