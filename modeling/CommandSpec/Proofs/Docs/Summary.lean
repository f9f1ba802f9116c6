import CommandSpec.Docs.Reader
import CommandSpec.Proofs.Text.CleanedWords

/-!
# Proofs/Docs/Summary — the summary of a family has every word, and a line for each paragraph

The summary of a family is its documentation text with each paragraph on one line.  No paragraph is
empty, none begins or ends with a blank, and none holds a line feed (`isTrimmed_flowed`,
`not_mem_flowed`), so trimming the whole takes nothing away and cutting it at line feeds gives the
paragraphs back.  The words are those of the text because cleaning and grouping keep them.
-/

namespace CommandSpec

namespace Text

variable {s p q : List Char} {ls ps g : List (List Char)} {c : Char}

/-! ## Lines and their groups -/

/-- No line end is left in a line. -/
theorem isLineEnd_of_mem_splitLines (s : List Char) :
    ∀ l ∈ splitLines s, ∀ c ∈ l, isLineEnd c = false := by
  fun_induction splitLines s with
  | case1 => exact List.forall_mem_nil _
  | case2 cs ih => exact List.forall_mem_cons.2 ⟨List.forall_mem_nil _, ih⟩
  | case3 c cs _ hend ih => exact List.forall_mem_cons.2 ⟨List.forall_mem_nil _, ih⟩
  | case4 c cs _ hend ih =>
    have hc : isLineEnd c = false := by simpa using hend
    cases h : splitLines cs with
    | nil => exact List.forall_mem_singleton.2 (List.forall_mem_singleton.2 hc)
    | cons l ls =>
      rw [h] at ih
      obtain ⟨hl, hls⟩ := List.forall_mem_cons.1 ih
      exact List.forall_mem_cons.2 ⟨List.forall_mem_cons.2 ⟨hc, hl⟩, hls⟩

theorem mem_of_mem_lineGroups {l : List Char} (hg : g ∈ lineGroups ls) (hl : l ∈ g) : l ∈ ls := by
  rw [lineGroups_eq_runs] at hg
  rw [← List.flatten_splitBy (fun x y => allBlank x == allBlank y) ls]
  exact List.mem_flatten_of_mem (List.mem_filter.1 hg).1 hl

/-! ## Joined pieces -/

theorem IsTrimmed.append_cons (hp : IsTrimmed p) (hp0 : p ≠ []) (hq : IsTrimmed q) (hq0 : q ≠ []) :
    IsTrimmed (p ++ c :: q) where
  head := by
    rw [List.head?_append_of_ne_nil _ hp0]
    exact hp.head
  last := by
    rw [List.getLast?_append_of_ne_nil _ (List.cons_ne_nil c q), List.getLast?_cons_of_ne_nil hq0]
    exact hq.last

/-- **Joined pieces have no blanks at their ends** if no piece has, and none is empty. -/
theorem intercalate_isTrimmed (hps : ps ≠ []) (h : ∀ p ∈ ps, p ≠ [] ∧ IsTrimmed p) :
    [c].intercalate ps ≠ [] ∧ IsTrimmed ([c].intercalate ps) := by
  induction ps with
  | nil => exact absurd rfl hps
  | cons p ps ih =>
    obtain ⟨⟨hp0, hp⟩, hmore⟩ := List.forall_mem_cons.1 h
    cases ps with
    | nil =>
      rw [List.intercalate_singleton]
      exact ⟨hp0, hp⟩
    | cons q ps =>
      obtain ⟨hne, htrim⟩ := ih (List.cons_ne_nil q ps) hmore
      rw [List.intercalate_cons_cons, List.append_assoc, List.singleton_append]
      exact ⟨List.append_ne_nil_of_left_ne_nil hp0 _, hp.append_cons hp0 htrim hne⟩

/-- **A paragraph on one line** is not empty and has no blanks at its ends. -/
theorem isTrimmed_flowed (hg : g ≠ []) (h : ∀ l ∈ g, allBlank l = false) :
    flowed g ≠ [] ∧ IsTrimmed (flowed g) :=
  intercalate_isTrimmed (by simpa using hg) <|
    List.forall_mem_map.2 fun l hl =>
      ⟨mt trim_eq_nil_iff.1 (Bool.eq_false_iff.1 (h l hl)), isTrimmed_trim l⟩

theorem not_mem_flowed (h : ∀ l ∈ g, '\n' ∉ l) : '\n' ∉ flowed g := fun hmem => by
  rcases mem_intercalate_singleton hmem with hc | ⟨p, hp, hc⟩
  · exact absurd hc (by decide)
  · obtain ⟨l, hl, rfl⟩ := List.mem_map.1 hp
    exact h l hl (mem_of_mem_trim hc)

theorem words_flowed (g : List (List Char)) : words (flowed g) = g.flatMap words := by
  rw [flowed, words_intercalate rfl, List.flatMap_map]
  exact List.flatMap_congr fun l _ => words_trim l

end Text

namespace Docs

open Text

variable {text : String}

/-- The paragraphs of a family's documentation, one line each. -/
def summaryLines (text : String) : List (List Char) :=
  (lineGroups (splitLines (cleaned text.toList))).map flowed

theorem summaryLines_eq_nil_iff : summaryLines text = [] ↔ allBlank text.toList = true := by
  rw [summaryLines, List.map_eq_nil_iff, lineGroups_eq_nil_iff, all_allBlank_splitLines,
    allBlank_cleaned]

theorem summaryLines_isTrimmed : ∀ p ∈ summaryLines text, p ≠ [] ∧ IsTrimmed p :=
  List.forall_mem_map.2 fun g hg =>
    isTrimmed_flowed (lineGroups_spec g hg).1 (lineGroups_spec g hg).2

theorem not_mem_of_mem_summaryLines : ∀ p ∈ summaryLines text, '\n' ∉ p :=
  List.forall_mem_map.2 fun _ hg => not_mem_flowed fun _ hl hmem =>
    absurd (isLineEnd_of_mem_splitLines _ _ (mem_of_mem_lineGroups hg hl) _ hmem) (by decide)

theorem flatMap_words_summaryLines (text : String) :
    (summaryLines text).flatMap words = words text.toList := by
  rw [summaryLines, List.flatMap_map, List.flatMap_congr fun g _ => words_flowed g,
    flatMap_words_lineGroups, flatMap_words_splitLines, words_cleaned]

/-- **A summary is its lines**: there is nothing to trim. -/
theorem setSummary_eq (text : String) : setSummary (some text) =
    if summaryLines text = [] then none else some (.ofList (unlines (summaryLines text))) := by
  rw [setSummary, Option.map_some, Option.map_some, ← summaryLines]
  split
  · next h => cases h
  · next h =>
    have hnil : unlines (summaryLines text) = [] := Option.some.inj h
    exact (if_pos <| Decidable.not_not.1 fun hne =>
      (intercalate_isTrimmed hne summaryLines_isTrimmed).1 hnil).symm
  · next summary hne h =>
    obtain rfl := Option.some.inj h
    have hlines : summaryLines text ≠ [] := fun h0 => hne (by rw [h0]; rfl)
    rw [if_neg hlines, unlines,
      (intercalate_isTrimmed hlines summaryLines_isTrimmed).2.trim_eq]

/-- **The summary of a family** is there unless the text is blank.  It has the words of the text in
their order, and one line for each maximal group of lines that are not blank. -/
theorem setSummary_keeps (text : String) :
    (setSummary (some text) = none ↔ ∀ c ∈ text.toList, isBlank c = true) ∧
    ((∀ c ∈ text.toList, isBlank c = true) ∨
      ∃ summary, setSummary (some text) = some summary ∧
        words summary.toList = words text.toList ∧
        splitAt '\n' summary.toList =
          ((runs allBlank (splitLines (cleaned text.toList))).filter (!·.all allBlank)).map
            fun group => [' '].intercalate (group.map trim)) := by
  rw [← allBlank_iff, ← summaryLines_eq_nil_iff, setSummary_eq]
  by_cases h : summaryLines text = []
  · exact ⟨iff_of_true (if_pos h) h, .inl h⟩
  · rw [if_neg h]
    refine ⟨iff_of_false (Option.some_ne_none _) h, .inr ⟨_, rfl, ?_, ?_⟩⟩
    · rw [String.toList_ofList, words_unlines, flatMap_words_summaryLines]
    · rw [String.toList_ofList, unlines, splitAt_intercalate h not_mem_of_mem_summaryLines,
        summaryLines, lineGroups_eq_runs]
      rfl

end Docs

end CommandSpec
