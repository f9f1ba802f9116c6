import CommandSpec.Proofs.Text.Blank

/-!
# Proofs/Text/Words — the words of a text are its maximal runs without blanks

`HasWords` says which lists are the words of a text: each word goes on to the next blank or to the
end, and nothing but blanks is left out.  A text has exactly one such list, the one that `words`
reads off (`hasWords_iff`).  What holds of a text is shown word by word (`word_induction`).
-/

namespace CommandSpec.Text

variable {g s t w : List Char} {c : Char} {ws : List (List Char)}

/-- A word: a run that is not empty and has no blank in it. -/
def IsWord (w : List Char) : Prop := w ≠ [] ∧ ∀ c ∈ w, isBlank c = false

/-- **The words of a text**, in order. -/
inductive HasWords : List Char → List (List Char) → Prop where
  | nil : HasWords [] []
  | blank {c : Char} {s : List Char} {ws : List (List Char)} :
      isBlank c = true → HasWords s ws → HasWords (c :: s) ws
  | word {w s : List Char} {ws : List (List Char)} :
      IsWord w → EndsWord s → HasWords s ws → HasWords (w ++ s) (w :: ws)

/-- **Induction on the words of a text**: a blank comes next, or a word that ends. -/
@[elab_as_elim] theorem word_induction {motive : List Char → Prop} (nil : motive [])
    (blank : ∀ c s, isBlank c = true → motive s → motive (c :: s))
    (word : ∀ w s, IsWord w → EndsWord s → motive s → motive (w ++ s)) (s : List Char) :
    motive s := by
  match s with
  | [] => exact nil
  | c :: cs =>
    cases hc : isBlank c with
    | true => exact blank c cs hc (word_induction nil blank word cs)
    | false =>
      have hw : IsWord (c :: cs.takeWhile (!isBlank ·)) := by
        refine ⟨List.cons_ne_nil _ _, List.forall_mem_cons.2 ⟨hc, fun d hd => ?_⟩⟩
        simpa using List.mem_takeWhile_imp hd
      have hword := word _ _ hw (endsWord_dropWhile cs)
        (word_induction nil blank word (cs.dropWhile (!isBlank ·)))
      rwa [List.cons_append, List.takeWhile_append_dropWhile] at hword
termination_by s.length
decreasing_by
  · exact Nat.lt_succ_of_le (length_dropWhile_le _ _)
  · exact Nat.lt_succ_self _

/-! ## The words that are read off -/

@[simp] theorem words_nil : words [] = [] := rfl

theorem words_cons_of_isBlank (hc : isBlank c = true) : words (c :: s) = words s := by
  rw [words.eq_def]
  exact if_pos hc

/-- **A word is read as a whole.** -/
theorem words_append (hw : IsWord w) (hs : EndsWord s) : words (w ++ s) = w :: words s := by
  obtain ⟨hne, hw⟩ := hw
  induction w with
  | nil => exact absurd rfl hne
  | cons c cs ih =>
    obtain ⟨hc, hcs⟩ := List.forall_mem_cons.1 hw
    rw [List.cons_append, words.eq_def]
    cases cs with
    | nil =>
      cases s with
      | nil => simp [hc]
      | cons d ds => simp [hc, hs d rfl]
    | cons d ds =>
      have hrest : words (d :: (ds ++ s)) = (d :: ds) :: words s := ih (List.cons_ne_nil d ds) hcs
      simp [hc, hcs d List.mem_cons_self, hrest]

theorem hasWords_words (s : List Char) : HasWords s (words s) := by
  induction s using word_induction with
  | nil => exact .nil
  | blank c s hc ih =>
    rw [words_cons_of_isBlank hc]
    exact .blank hc ih
  | word w s hw hs ih =>
    rw [words_append hw hs]
    exact .word hw hs ih

/-! ## Blanks between words -/

theorem words_append_of_allBlank (hg : allBlank g = true) : words (g ++ s) = words s := by
  induction g with
  | nil => rfl
  | cons c g ih =>
    rw [allBlank_cons, Bool.and_eq_true] at hg
    rw [List.cons_append, words_cons_of_isBlank hg.1, ih hg.2]

theorem words_of_allBlank (hg : allBlank g = true) : words g = [] := by
  rw [← List.append_nil g, words_append_of_allBlank hg, words_nil]

/-- **Where a word ends, a text may be cut.** -/
theorem words_append_of_endsWord (ht : EndsWord t) : words (s ++ t) = words s ++ words t := by
  induction s using word_induction with
  | nil => rfl
  | blank c s hc ih =>
    rw [List.cons_append, words_cons_of_isBlank hc, words_cons_of_isBlank hc, ih]
  | word w s hw hs ih =>
    have hst : EndsWord (s ++ t) := by
      cases s with
      | nil => exact ht
      | cons c s => exact hs
    rw [List.append_assoc, words_append hw hst, ih, words_append hw hs, List.cons_append]

theorem words_trimLeft (s : List Char) : words (trimLeft s) = words s := by
  obtain ⟨g, hg, hs⟩ := exists_blank_append_trimLeft s
  conv_rhs => rw [hs, words_append_of_allBlank hg]

/-- **Trimming keeps the words.** -/
theorem words_trim (s : List Char) : words (trim s) = words s := by
  obtain ⟨g, g', hg, hg', hs⟩ := exists_blank_append_trim s
  conv_rhs => rw [hs, words_append_of_endsWord (endsWord_of_allBlank hg'),
    words_append_of_allBlank hg, words_of_allBlank hg', List.append_nil]

/-- A blank between two texts sets their words apart. -/
theorem words_append_cons (hc : isBlank c = true) (s t : List Char) :
    words (s ++ c :: t) = words s ++ words t := by
  have hend : EndsWord (c :: t) := by
    rintro d ⟨⟩
    exact hc
  rw [words_append_of_endsWord hend, words_cons_of_isBlank hc]

/-! ## The law -/

/-- **A text has one list of words.** -/
theorem hasWords_iff : HasWords s ws ↔ words s = ws := by
  constructor
  · intro h
    induction h with
    | nil => rfl
    | blank hc _ ih => rw [words_cons_of_isBlank hc, ih]
    | word hw hs _ ih => rw [words_append hw hs, ih]
  · rintro rfl
    exact hasWords_words s

end CommandSpec.Text
