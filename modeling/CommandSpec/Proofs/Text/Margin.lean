import CommandSpec.Proofs.Text.Blank
import CommandSpec.Proofs.Text.Paragraph
import CommandSpec.Text.Margin

/-!
# Proofs/Text/Margin — indentation that is put in front and taken away

A text whose lines below the first are indented alike has the groups of the lines that are not
(`lineGroups_cleaned`).  A block with a line that is not indented keeps all its indentation
(`trimLineFeeds_dedented`).
-/

namespace CommandSpec.Text

variable {l : List Char} {ls : List (List Char)} {m : Nat}

/-- A line behind a margin; a blank line stays as it is. -/
def indented (m : Nat) (l : List Char) : List Char :=
  if allBlank l then l else List.replicate m ' ' ++ l

/-- A line holds no line end; a **plain** one no tab either. -/
def IsPlain (l : List Char) : Prop := ∀ c ∈ l, c ≠ '\t' ∧ isLineEnd c = false

instance (l : List Char) : Decidable (IsPlain l) :=
  List.decidableBAll (fun c => c ≠ '\t' ∧ isLineEnd c = false) l

theorem IsPlain.not_mem (h : IsPlain l) : '\n' ∉ l := fun hc =>
  absurd (h _ hc).2 (by decide)

theorem IsPlain.drop (h : IsPlain l) (n : Nat) : IsPlain (l.drop n) := fun c hc =>
  h c (List.mem_of_mem_drop hc)

theorem expandTabsFrom_of_not_mem :
    ∀ {s : List Char} (column : Nat), '\t' ∉ s → expandTabsFrom column s = s
  | [], _, _ => rfl
  | c :: cs, column, h => by
    obtain ⟨hc, hcs⟩ : '\t' ≠ c ∧ '\t' ∉ cs := by simpa using h
    rw [expandTabsFrom, if_neg (Ne.symm hc), expandTabsFrom_of_not_mem _ hcs]

/-! ## The margin of a text -/

theorem allBlank_replicate : allBlank (List.replicate m ' ') = true :=
  List.all_replicate.trans (by simp [isBlank])

theorem allBlank_indented : allBlank (indented m l) = allBlank l := by
  rw [indented]
  split
  · rfl
  · rw [allBlank_append, allBlank_replicate, Bool.true_and]

theorem indentation_indented (hl : allBlank l = false) :
    indentation (indented m l) = m + indentation l := by
  rw [indented, if_neg (by simp [hl]), indentation, indentation,
    List.takeWhile_append_of_pos (allBlank_iff.1 allBlank_replicate), List.length_append,
    List.length_replicate]

theorem drop_indented (hl : allBlank l = false) : (indented m l).drop m = l := by
  rw [indented, if_neg (by simp [hl]), List.drop_left' List.length_replicate]

/-- **The margin is found again** when one of the lines behind it has no indentation of its own. -/
theorem margin?_map_indented (hl : l ∈ ls) (hblank : allBlank l = false)
    (hi : indentation l = 0) : margin? (ls.map (indented m)) = some m := by
  rw [margin?, List.min?_eq_some_iff]
  constructor
  · refine List.mem_map.2 ⟨indented m l, List.mem_filter.2 ⟨List.mem_map_of_mem hl, ?_⟩, ?_⟩
    · rw [allBlank_indented, hblank]
      rfl
    · rw [indentation_indented hblank, hi, Nat.add_zero]
  · intro n hn
    obtain ⟨k, hk, rfl⟩ := List.mem_map.1 hn
    obtain ⟨hk, hkb⟩ := List.mem_filter.1 hk
    obtain ⟨j, -, rfl⟩ := List.mem_map.1 hk
    rw [allBlank_indented, Bool.not_eq_true'] at hkb
    rw [indentation_indented hkb]
    exact Nat.le_add_right m _

/-- Whether the lines below the first of a text tell its margin: one of them has no indentation of
its own, or all are blank. -/
def TellMargin (ls : List (List Char)) : Prop :=
  (∀ l ∈ ls, allBlank l = true) ∨ ∃ l ∈ ls, allBlank l = false ∧ indentation l = 0

/-- **Only blank lines change** when a margin is put in front and removed again. -/
theorem lineGroupsFrom_removed {g : List (List Char)} (h : TellMargin ls) :
    lineGroupsFrom g ((ls.map (indented m)).map
      (·.drop ((margin? (ls.map (indented m))).getD 0))) = lineGroupsFrom g ls := by
  rw [List.map_map]
  refine lineGroupsFrom_map (fun k _ hk => ?_) fun k hk hkb => ?_
  · exact allBlank_iff.2 fun c hc =>
      allBlank_iff.1 (allBlank_indented.trans hk) c (List.mem_of_mem_drop hc)
  · rcases h with h | ⟨l, hl, hblank, hi⟩
    · rw [h k hk] at hkb
      cases hkb
    · rw [margin?_map_indented hl hblank hi]
      exact drop_indented hkb

theorem IsPlain.indented (h : IsPlain l) : IsPlain (indented m l) := by
  intro c hc
  rw [Text.indented] at hc
  split at hc
  · exact h c hc
  · rcases List.mem_append.1 hc with hc | hc
    · rw [List.eq_of_mem_replicate hc]
      decide
    · exact h c hc

/-- The lines of a text without tabs are brought to their margin, and nothing else is done. -/
theorem lineGroups_cleaned_unlines (hl : trimLeft l = l) (hplain : IsPlain l)
    (h : ∀ k ∈ ls, IsPlain k) :
    lineGroups (splitLines (cleaned (unlines (l :: ls)))) =
      lineGroups (l :: ls.map (·.drop ((margin? ls).getD 0))) := by
  have hall : ∀ k ∈ l :: ls, IsPlain k := List.forall_mem_cons.2 ⟨hplain, h⟩
  have htabs : '\t' ∉ unlines (l :: ls) := by
    intro ht
    rcases mem_intercalate_singleton ht with ht | ⟨k, hk, ht⟩
    · exact absurd ht (by decide)
    · exact (hall k hk _ ht).1 rfl
  have hcut : splitAt '\n' (unlines (l :: ls)) = l :: ls :=
    splitAt_intercalate (by simp) fun k hk => (hall k hk).not_mem
  rw [cleaned, expandTabsFrom_of_not_mem 0 htabs, hcut, lineGroups_splitLines_unlines,
    lineGroups_dropEmptyEnds, removeMargin, hl]
  intro k hk c hc
  have hk := mem_of_mem_dropEmptyEnds hk
  rw [removeMargin, hl] at hk
  rcases List.mem_cons.1 hk with rfl | hk
  · exact (hplain c hc).2
  · obtain ⟨j, hj, rfl⟩ := List.mem_map.1 hk
    exact ((h j hj).drop _ c hc).2

/-- **A text behind a margin has the groups of its lines.** -/
theorem lineGroups_cleaned (hl : trimLeft l = l) (h : TellMargin ls)
    (hplain : ∀ k ∈ l :: ls, IsPlain k) :
    lineGroups (splitLines (cleaned (unlines (l :: ls.map (indented m))))) =
      lineGroups (l :: ls) := by
  obtain ⟨hpl, hpls⟩ := List.forall_mem_cons.1 hplain
  have hind : ∀ k ∈ ls.map (indented m), IsPlain k := by
    intro k hk
    obtain ⟨j, hj, rfl⟩ := List.mem_map.1 hk
    exact (hpls j hj).indented
  rw [lineGroups_cleaned_unlines hl hpl hind, lineGroups, lineGroups]
  cases hlb : allBlank l with
  | false => rw [lineGroupsFrom_cons hlb, lineGroupsFrom_cons hlb, lineGroupsFrom_removed h]
  | true =>
    rw [lineGroupsFrom_cons_blank hlb, lineGroupsFrom_cons_blank hlb, lineGroups, lineGroups,
      lineGroupsFrom_removed h]

/-! ## The indentation of a block -/

@[simp] theorem commonFront_nil (s : List Char) : commonFront s [] = [] := by
  cases s <;> rfl

theorem foldl_commonFront_of_mem :
    ∀ {is : List (List Char)} {i : List Char}, [] ∈ i :: is → is.foldl commonFront i = []
  | [], i, h => (List.mem_singleton.1 h).symm
  | j :: is, i, h => by
    rw [List.foldl_cons]
    refine foldl_commonFront_of_mem ?_
    rcases List.mem_cons.1 h with rfl | h
    · exact List.mem_cons_self ..
    · rcases List.mem_cons.1 h with rfl | h
      · rw [commonFront_nil]
        exact List.mem_cons_self ..
      · exact List.mem_cons_of_mem _ h

/-- Whether a line begins with a space or a tab. -/
def startsIndented (l : List Char) : Bool := l.head?.any isIndent

theorem takeWhile_isIndent_of_not (h : startsIndented l = false) : l.takeWhile isIndent = [] := by
  cases l with
  | nil => rfl
  | cons c cs => exact List.takeWhile_cons_of_neg (by simpa [startsIndented] using h)

theorem isBlank_of_isIndent {c : Char} (h : isIndent c = true) : isBlank c = true := by
  simp only [isIndent, Bool.or_eq_true, decide_eq_true_eq] at h
  rcases h with rfl | rfl <;> rfl

theorem not_all_isIndent (h : allBlank l = false) : l.all isIndent = false := by
  rw [Bool.eq_false_iff] at h ⊢
  intro hall
  exact h (allBlank_iff.2 fun c hc => isBlank_of_isIndent (List.all_eq_true.1 hall c hc))

theorem sharedIndent_of_mem (hl : l ∈ ls) (hblank : allBlank l = false)
    (h : startsIndented l = false) : sharedIndent ls = [] := by
  have hmem : [] ∈ (ls.filter (!·.all isIndent)).map (·.takeWhile isIndent) := by
    refine List.mem_map.2 ⟨l, List.mem_filter.2 ⟨hl, ?_⟩, takeWhile_isIndent_of_not h⟩
    rw [not_all_isIndent hblank]
    rfl
  rw [sharedIndent]
  split
  · rfl
  · next heq => exact foldl_commonFront_of_mem (heq ▸ hmem)

/-- A block with a line that is not indented is left as it is. -/
theorem dedented_verbatim (hplain : ∀ k ∈ ls, IsPlain k) (hblank : ∀ k ∈ ls, allBlank k = false)
    (hl : l ∈ ls) (h : startsIndented l = false) : dedented (verbatim ls) = verbatim ls := by
  have hcut : splitAt '\n' (verbatim ls) = ls ++ [[]] := by
    rw [verbatim_eq_unlines]
    refine splitAt_intercalate (by simp) fun k hk => ?_
    rcases List.mem_append.1 hk with hk | hk
    · exact (hplain k hk).not_mem
    · rw [List.mem_singleton.1 hk]
      exact List.not_mem_nil
  have hshared := sharedIndent_of_mem (List.mem_append_left [[]] hl) (hblank l hl) h
  rw [dedented, hcut, hshared, verbatim_eq_unlines]
  refine congrArg unlines ((List.map_congr_left fun k hk => ?_).trans (List.map_id _))
  rcases List.mem_append.1 hk with hk | hk
  · rw [if_neg (by simp [not_all_isIndent (hblank k hk)])]
    rfl
  · rw [List.mem_singleton.1 hk]
    rfl

/-- What stands between its first and its last character, when these are no line feeds, has no line
feed at its ends. -/
theorem trimLineFeeds_append_singleton {s r r' : List Char} {c d : Char} (hs : s = c :: r)
    (hs' : s = r' ++ [d]) (hc : c ≠ '\n') (hd : d ≠ '\n') : trimLineFeeds (s ++ ['\n']) = s := by
  have hfront : (s ++ ['\n']).dropWhile (· = '\n') = s ++ ['\n'] := by
    rw [hs, List.cons_append]
    exact List.dropWhile_cons_of_neg (by simpa using hc)
  change List.rdropWhile (· = '\n') ((s ++ ['\n']).dropWhile (· = '\n')) = s
  rw [hfront, List.rdropWhile_concat_pos _ _ _ (by simp), hs',
    List.rdropWhile_concat_neg _ _ _ (by simpa using hd)]

/-- **A block keeps its lines as they are**, but for the line feed after the last one. -/
theorem trimLineFeeds_dedented (hplain : ∀ k ∈ ls, IsPlain k)
    (hblank : ∀ k ∈ ls, allBlank k = false) (hl : l ∈ ls) (h : startsIndented l = false) :
    trimLineFeeds (dedented (verbatim ls)) = unlines ls := by
  have hls : ls ≠ [] := List.ne_nil_of_mem hl
  have hne (k) (hk : k ∈ ls) : k ≠ [] := fun h0 => by
    have hkb := hblank k hk
    rw [h0] at hkb
    cases hkb
  have hmem (k) (hk : k ∈ ls) (c) (hc : c ∈ k) : c ≠ '\n' := fun h0 =>
    (hplain k hk).not_mem (h0 ▸ hc)
  rw [dedented_verbatim hplain hblank hl h, verbatim_eq_unlines, unlines_append_singleton hls]
  obtain ⟨k, ks, hk⟩ := List.exists_cons_of_ne_nil hls
  obtain ⟨c, cs, hc⟩ := List.exists_cons_of_ne_nil (hne k (by simp [hk]))
  obtain ⟨r, hr⟩ := prefix_unlines_cons k ks
  obtain ⟨js, j, hj⟩ := (List.eq_nil_or_concat ls).resolve_left hls
  obtain ⟨ds, d, hd⟩ := (List.eq_nil_or_concat j).resolve_left (hne j (by simp [hj]))
  obtain ⟨r', hr'⟩ := suffix_unlines_append js j
  have hfront : unlines ls = c :: (cs ++ r) := by rw [hk, ← hr, hc, List.cons_append]
  have hback : unlines ls = r' ++ ds ++ [d] := by
    rw [hj, List.concat_eq_append, ← hr', hd, List.concat_eq_append, List.append_assoc]
  exact trimLineFeeds_append_singleton hfront hback (hmem k (by simp [hk]) c (by simp [hc]))
    (hmem j (by simp [hj]) d (by simp [hd]))

end CommandSpec.Text
