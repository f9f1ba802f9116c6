import CommandSpec.Proofs.Text.Relaxed
import CommandSpec.Proofs.Text.Runs

/-!
# Proofs/Text/OneLine — a text on one line keeps its words

Bringing a text onto one line works run by run (`joinLines_append_run`): a run of blanks with a line
feed in it becomes a space, and every other run stays as it is.  So the words stay, in their order,
and no blank comes to an end of the text.  What is on one line already is kept whole
(`relaxed_eq_self`), so doing it twice is doing it once.
-/

namespace CommandSpec.Text

variable {s t r g : List Char} {b : Bool}

/-! ## Run by run -/

/-- A run of a text, as it is on one line. -/
def runOnOneLine (r : List Char) : List Char := if '\n' ∈ r then [' '] else r

theorem runOnOneLine_of_not_blank (hr : ∀ c ∈ r, isBlank c = false) : runOnOneLine r = r :=
  if_neg fun h => absurd (hr _ h) (by decide)

theorem runOnOneLine_ne_nil (h : r ≠ []) : runOnOneLine r ≠ [] := by
  rw [runOnOneLine]
  split
  · exact List.cons_ne_nil _ _
  · exact h

/-- A run of blanks stays one, and so does a run of other characters. -/
theorem isBlank_of_mem_runOnOneLine (hr : ∀ c ∈ r, isBlank c = b) :
    ∀ c ∈ runOnOneLine r, isBlank c = b := by
  rw [runOnOneLine]
  split
  · next h =>
    rw [← hr _ h]
    exact List.forall_mem_singleton.2 rfl
  · exact hr

/-- **A run is brought onto one line by itself.** -/
theorem joinLines_append_run (hne : r ≠ []) (hr : ∀ c ∈ r, isBlank c = b)
    (hs : ∀ c ∈ s.head?, isBlank c = !b) : joinLines (r ++ s) = runOnOneLine r ++ joinLines s := by
  cases b with
  | true =>
    obtain ⟨c, g, rfl⟩ := List.exists_cons_of_ne_nil hne
    obtain ⟨hc, hg⟩ := List.forall_mem_cons.1 hr
    rw [joinLines_run_append hc (allBlank_iff.2 hg) (trimLeft_eq_self hs), runOnOneLine]
    simp only [List.contains_iff_mem]
  | false =>
    have hlast : trimRight r = r := by
      rw [trimRight_eq_reverse, trimLeft_eq_self, List.reverse_reverse]
      exact fun c hc => hr c (List.mem_reverse.1 (List.mem_of_mem_head? hc))
    have hmem : '\n' ∉ r := fun h => absurd (hr _ h) (by decide)
    rw [joinLines_append hlast, joinLines_of_not_mem hmem, runOnOneLine_of_not_blank hr]

theorem head?_joinLines (h : ∀ c ∈ s.head?, isBlank c = b) :
    ∀ c ∈ (joinLines s).head?, isBlank c = b := by
  induction s using runs_induction isBlank with
  | nil =>
    rw [joinLines_nil]
    exact h
  | run b' r s hne hr hs =>
    obtain rfl : b' = b := by
      obtain ⟨c, r, rfl⟩ := List.exists_cons_of_ne_nil hne
      rw [← hr c List.mem_cons_self, ← h c rfl]
    rw [joinLines_append_run hne hr hs, List.head?_append_of_ne_nil _ (runOnOneLine_ne_nil hne)]
    exact fun c hc => isBlank_of_mem_runOnOneLine hr c (List.mem_of_mem_head? hc)

theorem getLast?_joinLines (h : ∀ c ∈ s.getLast?, isBlank c = false) :
    ∀ c ∈ (joinLines s).getLast?, isBlank c = false := by
  induction s using runs_induction isBlank with
  | nil =>
    rw [joinLines_nil]
    exact h
  | run b r s hne hr hs ih =>
    rw [joinLines_append_run hne hr hs]
    by_cases hs0 : s = []
    · rw [hs0, List.append_nil] at h
      rw [hs0, joinLines_nil, List.append_nil]
      obtain rfl : b = false := by
        rw [← hr _ (List.getLast_mem hne), h _ (List.getLast_mem_getLast? hne)]
      exact fun c hc => isBlank_of_mem_runOnOneLine hr c (List.mem_of_mem_getLast? hc)
    · rw [List.getLast?_append_of_ne_nil _ hs0] at h
      rw [List.getLast?_append_of_ne_nil _ (mt eq_nil_of_joinLines hs0)]
      exact ih h

/-- **The runs of a text on one line** are those of the text, each on one line. -/
theorem runs_joinLines (s : List Char) :
    runs isBlank (joinLines s) = (runs isBlank s).map runOnOneLine := by
  induction s using runs_induction isBlank with
  | nil =>
    rw [joinLines_nil]
    rfl
  | run b r s hne hr hs ih =>
    rw [joinLines_append_run hne hr hs, runs_append (runOnOneLine_ne_nil hne)
      (isBlank_of_mem_runOnOneLine hr) (head?_joinLines hs), ih, runs_append hne hr hs,
      List.map_cons]

/-! ## Words -/

theorem words_joinLines (s : List Char) : words (joinLines s) = words s := by
  induction s using runs_induction isBlank with
  | nil => rw [joinLines_nil]
  | run b r s hne hr hs ih =>
    rw [joinLines_append_run hne hr hs]
    cases b with
    | true =>
      rw [words_append_of_allBlank (allBlank_iff.2 (isBlank_of_mem_runOnOneLine hr)), ih,
        words_append_of_allBlank (allBlank_iff.2 hr)]
    | false =>
      rw [runOnOneLine_of_not_blank hr, words_append ⟨hne, hr⟩ (head?_joinLines hs), ih,
        words_append ⟨hne, hr⟩ hs]

/-! ## The law -/

/-- **A text is another one on one line**: it has no line feed and no blanks at its ends, it has the
words of the other, and between them the same blanks, or a space where these break the line. -/
structure IsOneLineOf (t s : List Char) : Prop where
  not_mem : '\n' ∉ t
  isTrimmed : IsTrimmed t
  words : words t = words s
  runs : runs isBlank t = (runs isBlank (trim s)).map runOnOneLine

theorem isOneLineOf_relaxedChars (s : List Char) : IsOneLineOf (relaxedChars s) s where
  not_mem := not_mem_relaxedChars s
  isTrimmed := ⟨head?_joinLines (isTrimmed_trim s).head, getLast?_joinLines (isTrimmed_trim s).last⟩
  words := (words_joinLines _).trans (words_trim s)
  runs := runs_joinLines (trim s)

/-- A text that is on one line already is kept. -/
theorem relaxed_eq_self {s : String} (hmem : '\n' ∉ s.toList) (h : IsTrimmed s.toList) :
    relaxed s = s := by
  rw [relaxed, relaxedChars, h.trim_eq, joinLines_of_not_mem hmem, String.ofList_toList]

/-- **Relaxing brings a text onto one line, and keeps what is on one line.** -/
theorem relaxed_isOneLineOf (s : String) :
    IsOneLineOf (relaxed s).toList s.toList ∧ relaxed (relaxed s) = relaxed s := by
  have h : IsOneLineOf (relaxed s).toList s.toList := by
    rw [relaxed, String.toList_ofList]
    exact isOneLineOf_relaxedChars s.toList
  exact ⟨h, relaxed_eq_self h.not_mem h.isTrimmed⟩

end CommandSpec.Text
