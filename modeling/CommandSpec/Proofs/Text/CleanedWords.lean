import CommandSpec.Proofs.Text.Cleaned
import CommandSpec.Proofs.Text.Runs

/-!
# Proofs/Text/CleanedWords — a text keeps its words on the way to its paragraphs

A documentation text is expanded, cut into lines, moved to the left, cut at other line ends, and its
lines are grouped and joined again.  Each of these steps puts blanks in the place of blanks, so the
words stay in their order: over a cleaned text (`words_cleaned`), over its lines
(`flatMap_words_splitLines`), and over their groups (`flatMap_words_lineGroups`).
-/

namespace CommandSpec.Text

variable {s t w : List Char} {ls : List (List Char)} {c : Char} {n : Nat}

/-! ## Tabs -/

/-- Tabs are filled up between words only. -/
theorem exists_expandTabsFrom_append (hw : ∀ c ∈ w, isBlank c = false) (column : Nat) :
    ∃ column', expandTabsFrom column (w ++ s) = w ++ expandTabsFrom column' s := by
  induction w generalizing column with
  | nil => exact ⟨column, rfl⟩
  | cons c w ih =>
    obtain ⟨hc, hw⟩ := List.forall_mem_cons.1 hw
    have htab : c ≠ '\t' := by
      rintro rfl
      cases hc
    rw [List.cons_append, expandTabsFrom, if_neg htab]
    exact (ih hw _).imp fun _ h => congrArg (c :: ·) h

theorem EndsWord.expandTabsFrom (hs : EndsWord s) (column : Nat) :
    EndsWord (expandTabsFrom column s) := by
  cases s with
  | nil => exact hs
  | cons c s =>
    rw [Text.expandTabsFrom]
    split
    · obtain ⟨n, hn⟩ : ∃ n, 8 - column % 8 = n + 1 :=
        Nat.exists_eq_succ_of_ne_zero (by have := Nat.mod_lt column (by decide : 0 < 8); omega)
      rw [hn]
      rintro d ⟨⟩
      rfl
    · exact hs

theorem words_expandTabsFrom (s : List Char) (column : Nat) :
    words (expandTabsFrom column s) = words s := by
  induction s using word_induction generalizing column with
  | nil => rfl
  | blank c s hc ih =>
    rw [expandTabsFrom, words_cons_of_isBlank hc]
    split
    · rw [words_append_of_allBlank allBlank_replicate, ih]
    · rw [words_cons_of_isBlank hc, ih]
  | word w s hw hs ih =>
    obtain ⟨column', h⟩ := exists_expandTabsFrom_append hw.2 column
    rw [h, words_append hw (hs.expandTabsFrom column'), ih, words_append hw hs]

/-! ## Lines -/

/-- **The words of joined pieces** are those of the pieces, if a blank stands between them. -/
theorem words_intercalate (hc : isBlank c = true) (ps : List (List Char)) :
    words ([c].intercalate ps) = ps.flatMap words := by
  induction ps with
  | nil => rfl
  | cons p ps ih =>
    cases ps with
    | nil => rw [List.intercalate_singleton, List.flatMap_singleton]
    | cons q ps =>
      rw [List.intercalate_cons_cons, List.append_assoc, List.singleton_append,
        words_append_cons hc, ih]
      rfl

theorem words_unlines (ls : List (List Char)) : words (unlines ls) = ls.flatMap words :=
  words_intercalate rfl ls

theorem flatMap_words_splitAt (s : List Char) : (splitAt '\n' s).flatMap words = words s := by
  rw [← words_unlines, unlines, intercalate_splitAt]

/-- A word goes in front of the first line of what follows. -/
theorem splitLines_append_word (hw : IsWord w) (s : List Char) :
    splitLines (w ++ s) = (w ++ (splitLines s).headD []) :: (splitLines s).tail := by
  obtain ⟨hne, hw⟩ := hw
  induction w with
  | nil => exact absurd rfl hne
  | cons c w ih =>
    obtain ⟨hc, hw⟩ := List.forall_mem_cons.1 hw
    have hend : isLineEnd c = false := Bool.eq_false_iff.2 fun h => by
      rw [isBlank_of_isLineEnd h] at hc
      cases hc
    have hr : c ≠ '\r' := by
      rintro rfl
      cases hc
    rw [List.cons_append, splitLines_cons hr, if_neg (by simp [hend])]
    by_cases hnil : w = []
    · rw [hnil, List.nil_append]
      cases splitLines s <;> rfl
    · rw [ih hnil hw]
      rfl

/-- The first line of a text begins as the text does. -/
theorem headD_splitLines_isPrefix (s : List Char) : (splitLines s).headD [] <+: s := by
  fun_induction splitLines s with
  | case1 => exact List.prefix_rfl
  | case2 cs ih => exact List.nil_prefix
  | case3 c cs _ hend ih => exact List.nil_prefix
  | case4 c cs _ hend ih =>
    cases h : splitLines cs with
    | nil => exact List.cons_prefix_cons.2 ⟨rfl, List.nil_prefix⟩
    | cons l ls =>
      rw [h] at ih
      exact List.cons_prefix_cons.2 ⟨rfl, ih⟩

theorem EndsWord.of_prefix (hs : EndsWord s) (ht : t <+: s) : EndsWord t := by
  obtain ⟨r, rfl⟩ := ht
  cases t with
  | nil => exact endsWord_of_allBlank allBlank_nil
  | cons c t => exact hs

theorem flatMap_words_consLine (hc : isBlank c = true) (ls : List (List Char)) :
    (consLine c ls).flatMap words = ls.flatMap words := by
  cases ls with
  | nil => rw [consLine, List.flatMap_singleton, words_cons_of_isBlank hc, words_nil]; rfl
  | cons l ls =>
    rw [consLine, List.flatMap_cons, List.flatMap_cons, words_cons_of_isBlank hc]

/-- A blank in front of a text brings no word into its lines. -/
theorem flatMap_words_splitLines_cons (hc : isBlank c = true) (s : List Char) :
    (splitLines (c :: s)).flatMap words = (splitLines s).flatMap words := by
  rw [splitLines.eq_def (c :: s)]
  split
  · next h => cases h
  · next cs h =>
    -- the line feed behind a carriage return is a line end of its own to what follows
    obtain ⟨rfl, rfl⟩ := List.cons.inj h
    rw [splitLines_cons (by decide), if_pos (by decide)]
  · next d cs _ h =>
    obtain ⟨rfl, rfl⟩ := List.cons.inj h
    split
    · rfl
    · exact flatMap_words_consLine hc _

/-- **The lines of a text have its words.** -/
theorem flatMap_words_splitLines (s : List Char) : (splitLines s).flatMap words = words s := by
  induction s using word_induction with
  | nil => rfl
  | blank c s hc ih => rw [flatMap_words_splitLines_cons hc, ih, words_cons_of_isBlank hc]
  | word w s hw hs ih =>
    have hhead : EndsWord ((splitLines s).headD []) := hs.of_prefix (headD_splitLines_isPrefix s)
    rw [splitLines_append_word hw, List.flatMap_cons, words_append hw hhead, words_append hw hs,
      List.cons_append, ← ih]
    cases splitLines s <;> rfl

/-! ## Groups of lines -/

theorem flatMap_words_of_blank (h : ∀ l ∈ ls, allBlank l = true) : ls.flatMap words = [] :=
  List.flatMap_eq_nil_iff.2 fun l hl => words_of_allBlank (h l hl)

/-- **Only lines without words belong to no group.** -/
theorem flatMap_words_lineGroups (ls : List (List Char)) :
    (lineGroups ls).flatMap (·.flatMap words) = ls.flatMap words := by
  induction ls using runs_induction allBlank with
  | nil => rfl
  | run b g ls hne hg hls ih =>
    rw [List.flatMap_append]
    cases b with
    | true => rw [lineGroups_blank_append hg, ih, flatMap_words_of_blank hg, List.nil_append]
    | false => rw [lineGroups, lineGroupsFrom_append hg, List.nil_append,
        lineGroupsFrom_of_head? hne hls, List.flatMap_cons, ih]

/-! ## Cleaned texts -/

/-- What stands behind a part of the indentation of a line has the words of the line. -/
theorem words_drop_of_le (h : n ≤ indentation s) : words (s.drop n) = words s := by
  conv_rhs => rw [← List.take_append_drop n s, words_append_of_allBlank (allBlank_take_of_le h)]

theorem flatMap_words_removeMargin (ls : List (List Char)) :
    (removeMargin ls).flatMap words = ls.flatMap words := by
  cases ls with
  | nil => rfl
  | cons l ls =>
    have hmore : ∀ k ∈ ls, words (k.drop ((margin? ls).getD 0)) = words k := by
      intro k hk
      cases hblank : allBlank k with
      | false => exact words_drop_of_le (margin?_getD_le hk hblank)
      | true =>
        rw [words_of_allBlank hblank, words_of_allBlank ((allBlank_drop_margin hk).trans hblank)]
    rw [removeMargin, List.flatMap_cons, List.flatMap_cons, words_trimLeft, List.flatMap_map,
      List.flatMap_congr hmore]

/-- **A text keeps its words when its margin is removed.** -/
theorem words_cleaned (s : List Char) : words (cleaned s) = words s := by
  rw [cleaned, words_unlines, ← flatMap_words_lineGroups, lineGroups_dropEmptyEnds,
    flatMap_words_lineGroups, flatMap_words_removeMargin, flatMap_words_splitAt,
    words_expandTabsFrom]

end CommandSpec.Text
