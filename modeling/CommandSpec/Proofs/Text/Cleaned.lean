import CommandSpec.Proofs.Text.Margin

/-!
# Proofs/Text/Cleaned — what is left when a margin is removed

A text is expanded, cut into lines, moved to the left, and cut again at other line ends.  None of
these steps takes away anything but blanks: a text is blank exactly when its lines are, before and
after (`allBlank_cleaned`, `all_allBlank_splitLines`).  So a text that is not blank has a paragraph
(`lineGroups_eq_nil_iff`), and every paragraph has a line with more than blanks on it
(`lineGroups_spec`).
-/

namespace CommandSpec.Text

variable {l s : List Char} {ls g : List (List Char)} {n : Nat}

/-! ## Tabs and lines -/

@[simp] theorem allBlank_expandTabsFrom (column : Nat) (s : List Char) :
    allBlank (expandTabsFrom column s) = allBlank s := by
  induction s generalizing column with
  | nil => rfl
  | cons c cs ih =>
    rw [expandTabsFrom]
    by_cases hc : c = '\t'
    · rw [if_pos hc, allBlank_append, allBlank_replicate, Bool.true_and, ih, allBlank_cons, hc]
      rfl
    · rw [if_neg hc, allBlank_cons, allBlank_cons, ih]

theorem all_allBlank_consLine (c : Char) (ls : List (List Char)) :
    (consLine c ls).all allBlank = (isBlank c && ls.all allBlank) := by
  cases ls with
  | nil => rw [consLine, List.all_cons, allBlank_cons, allBlank_nil, Bool.and_true]
  | cons l ls => rw [consLine, List.all_cons, List.all_cons, allBlank_cons, Bool.and_assoc]

/-- A text is blank when its pieces are, if it is cut at blanks. -/
theorem all_allBlank_splitAt {b : Char} (hb : isBlank b = true) (s : List Char) :
    (splitAt b s).all allBlank = allBlank s := by
  induction s with
  | nil => rfl
  | cons c cs ih =>
    by_cases hc : c = b
    · rw [hc, splitAt_cons_self, List.all_cons, ih, allBlank_cons, hb]
      rfl
    · rw [splitAt_cons_of_ne hc, all_allBlank_consLine, ih, allBlank_cons]

theorem allBlank_unlines (ls : List (List Char)) : allBlank (unlines ls) = ls.all allBlank := by
  induction ls with
  | nil => rfl
  | cons l ls ih =>
    by_cases hls : ls = []
    · rw [hls, unlines, List.intercalate_singleton, List.all_cons, List.all_nil, Bool.and_true]
    · rw [unlines_cons l hls, allBlank_append, allBlank_cons, ih, List.all_cons]
      rfl

/-- Line ends are blank. -/
theorem isBlank_of_isLineEnd {c : Char} (h : isLineEnd c = true) : isBlank c = true := by
  simp only [isLineEnd, Bool.or_eq_true, Bool.and_eq_true, decide_eq_true_eq, beq_iff_eq] at h
  simp only [isBlank, Bool.or_eq_true, Bool.and_eq_true, decide_eq_true_eq, beq_iff_eq]
  omega

/-- **A text is blank when its lines are**, wherever it is cut. -/
theorem all_allBlank_splitLines (s : List Char) : (splitLines s).all allBlank = allBlank s := by
  fun_induction splitLines s with
  | case1 => rfl
  | case2 cs ih => rw [List.all_cons, ih]; rfl
  | case3 c cs _ hend ih =>
    rw [List.all_cons, ih, allBlank_cons, isBlank_of_isLineEnd hend]
    rfl
  | case4 c cs _ _ ih => rw [all_allBlank_consLine, ih, allBlank_cons]

/-! ## The margin -/

/-- A part of the indentation is blank. -/
theorem allBlank_take_of_le (h : n ≤ indentation l) : allBlank (l.take n) = true := by
  refine allBlank_iff.2 fun c hc => ?_
  have htaken : l.take n <+: l.takeWhile isBlank :=
    List.prefix_of_prefix_length_le (List.take_prefix n l) (List.takeWhile_prefix isBlank)
      ((List.length_take_le n l).trans h)
  exact List.mem_takeWhile_imp (htaken.subset hc)

/-- What stands behind a part of the indentation decides whether a line is blank. -/
theorem allBlank_drop_of_le (h : n ≤ indentation l) : allBlank (l.drop n) = allBlank l := by
  rw [← List.take_append_drop n l, allBlank_append, allBlank_take_of_le h, Bool.true_and,
    List.take_append_drop]

/-- The margin is a part of the indentation of each line that is not blank. -/
theorem margin?_getD_le (hl : l ∈ ls) (hblank : allBlank l = false) :
    (margin? ls).getD 0 ≤ indentation l := by
  have hmem : indentation l ∈ (ls.filter (!allBlank ·)).map indentation :=
    List.mem_map_of_mem (List.mem_filter.2 ⟨hl, by rw [hblank]; rfl⟩)
  cases hm : margin? ls with
  | none => exact Nat.zero_le _
  | some m => exact (List.min?_eq_some_iff.1 hm).2 _ hmem

theorem allBlank_drop_margin (hl : l ∈ ls) :
    allBlank (l.drop ((margin? ls).getD 0)) = allBlank l := by
  cases hblank : allBlank l with
  | false => rw [allBlank_drop_of_le (margin?_getD_le hl hblank), hblank]
  | true => exact allBlank_iff.2 fun c hc => allBlank_iff.1 hblank c (List.mem_of_mem_drop hc)

theorem all_allBlank_removeMargin (ls : List (List Char)) :
    (removeMargin ls).all allBlank = ls.all allBlank := by
  cases ls with
  | nil => rfl
  | cons l ls =>
    have hmore : (ls.map (·.drop ((margin? ls).getD 0))).all allBlank = ls.all allBlank := by
      rw [List.all_map, Bool.eq_iff_iff, List.all_eq_true, List.all_eq_true]
      exact forall₂_congr fun k hk => iff_of_eq (congrArg (· = true) (allBlank_drop_margin hk))
    rw [removeMargin, List.all_cons, allBlank_trimLeft, hmore, List.all_cons]

/-! ## Paragraphs -/

/-- **Lines have no paragraph exactly when they are all blank.** -/
theorem lineGroupsFrom_eq_nil_iff :
    lineGroupsFrom g ls = [] ↔ g = [] ∧ ls.all allBlank = true := by
  induction ls generalizing g with
  | nil => cases g <;> simp [lineGroupsFrom, flushGroup]
  | cons l ls ih =>
    cases hl : allBlank l with
    | false => simp [lineGroupsFrom_cons hl, ih, hl]
    | true =>
      rw [lineGroupsFrom_cons_blank hl, List.append_eq_nil_iff, lineGroups, ih, List.all_cons, hl]
      cases g <;> simp [flushGroup]

theorem lineGroups_eq_nil_iff : lineGroups ls = [] ↔ ls.all allBlank = true :=
  lineGroupsFrom_eq_nil_iff.trans (and_iff_right rfl)

/-- **A paragraph has lines, and none of them is blank.** -/
theorem lineGroupsFrom_spec (hg : ∀ l ∈ g, allBlank l = false) :
    ∀ p ∈ lineGroupsFrom g ls, p ≠ [] ∧ ∀ l ∈ p, allBlank l = false := by
  have hflush : ∀ p ∈ flushGroup g, p ≠ [] ∧ ∀ l ∈ p, allBlank l = false := by
    intro p hp
    rw [flushGroup] at hp
    split at hp
    · cases hp
    · next hne =>
      obtain rfl := List.mem_singleton.1 hp
      exact ⟨fun h => hne (List.isEmpty_iff.2 h), hg⟩
  induction ls generalizing g with
  | nil => exact hflush
  | cons l ls ih =>
    cases hl : allBlank l with
    | false =>
      rw [lineGroupsFrom_cons hl]
      have hmore : ∀ k ∈ g ++ [l], allBlank k = false :=
        List.forall_mem_append.2 ⟨hg, List.forall_mem_singleton.2 hl⟩
      refine ih hmore fun p hp => ?_
      rw [flushGroup, if_neg (by simp), List.mem_singleton] at hp
      exact hp ▸ ⟨by simp, hmore⟩
    | true =>
      rw [lineGroupsFrom_cons_blank hl]
      refine List.forall_mem_append.2 ⟨hflush, ih (fun _ h => nomatch h) fun _ h => nomatch h⟩

theorem lineGroups_spec : ∀ p ∈ lineGroups ls, p ≠ [] ∧ ∀ l ∈ p, allBlank l = false :=
  lineGroupsFrom_spec fun _ h => nomatch h

/-! ## Cleaned texts -/

theorem all_allBlank_dropEmptyEnds (ls : List (List Char)) :
    (dropEmptyEnds ls).all allBlank = ls.all allBlank := by
  rw [Bool.eq_iff_iff, ← lineGroups_eq_nil_iff, lineGroups_dropEmptyEnds, lineGroups_eq_nil_iff]

/-- **Nothing but blanks is taken away with the margin.** -/
theorem allBlank_cleaned (s : List Char) : allBlank (cleaned s) = allBlank s := by
  rw [cleaned, allBlank_unlines, all_allBlank_dropEmptyEnds, all_allBlank_removeMargin,
    all_allBlank_splitAt rfl, allBlank_expandTabsFrom]

end CommandSpec.Text
