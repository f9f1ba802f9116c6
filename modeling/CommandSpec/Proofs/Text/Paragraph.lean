import CommandSpec.Proofs.Text.Lines
import CommandSpec.Text.Margin
import CommandSpec.Text.Paragraph
import Mathlib.Data.List.DropRight

/-!
# Proofs/Text/Paragraph — which lines make a paragraph

Blank lines end a group of lines and otherwise make no difference (`lineGroupsFrom_append_blank`,
`lineGroups_blank_append`, `lineGroupsFrom_cons_cons_blank`), nor does what a map does to them
(`lineGroupsFrom_map`).  A group without blank lines is kept as it is (`lineGroupsFrom_append`).
-/

namespace CommandSpec.Text

variable {g ls ms : List (List Char)} {l : List Char} {s : List Char}

theorem lineGroupsFrom_cons_blank (hl : allBlank l = true) :
    lineGroupsFrom g (l :: ls) = flushGroup g ++ lineGroups ls := by
  rw [lineGroupsFrom, if_pos hl]
  rfl

theorem lineGroupsFrom_cons (hl : allBlank l = false) :
    lineGroupsFrom g (l :: ls) = lineGroupsFrom (g ++ [l]) ls := by
  rw [lineGroupsFrom, if_neg (by simp [hl])]

/-- **Lines that are not blank go on with the group.** -/
theorem lineGroupsFrom_append (h : ∀ l ∈ ls, allBlank l = false) :
    lineGroupsFrom g (ls ++ ms) = lineGroupsFrom (g ++ ls) ms := by
  induction ls generalizing g with
  | nil => rw [List.nil_append, List.append_nil]
  | cons l ls ih =>
    rw [List.cons_append, lineGroupsFrom_cons (h l (List.mem_cons_self ..)),
      ih fun k hk => h k (List.mem_cons_of_mem l hk), List.append_assoc, List.singleton_append]

/-- Blank lines in front belong to no group. -/
theorem lineGroups_blank_append (h : ∀ l ∈ ls, allBlank l = true) :
    lineGroups (ls ++ ms) = lineGroups ms := by
  induction ls with
  | nil => rfl
  | cons l ls ih =>
    rw [List.cons_append, lineGroups, lineGroupsFrom_cons_blank (h l (List.mem_cons_self ..)),
      ih fun k hk => h k (List.mem_cons_of_mem l hk)]
    rfl

theorem lineGroups_of_blank (h : ∀ l ∈ ls, allBlank l = true) : lineGroups ls = [] := by
  rw [← List.append_nil ls, lineGroups_blank_append h]
  rfl

/-- Blank lines set a group apart. -/
theorem lineGroupsFrom_blank_append (hls : ls ≠ []) (h : ∀ l ∈ ls, allBlank l = true) :
    lineGroupsFrom g (ls ++ ms) = flushGroup g ++ lineGroups ms := by
  obtain ⟨l, ls, rfl⟩ := List.exists_cons_of_ne_nil hls
  rw [List.cons_append, lineGroupsFrom_cons_blank (h l (List.mem_cons_self ..)),
    lineGroups_blank_append fun k hk => h k (List.mem_cons_of_mem l hk)]

/-- What is in front of some lines takes part in no more than the group that they go on with. -/
theorem lineGroupsFrom_append_congr {ns : List (List Char)}
    (h : ∀ g, lineGroupsFrom g ms = lineGroupsFrom g ns) :
    lineGroupsFrom g (ls ++ ms) = lineGroupsFrom g (ls ++ ns) := by
  induction ls generalizing g with
  | nil => exact h g
  | cons l ls ih =>
    cases hl : allBlank l with
    | false =>
      rw [List.cons_append, List.cons_append, lineGroupsFrom_cons hl, lineGroupsFrom_cons hl, ih]
    | true =>
      rw [List.cons_append, List.cons_append, lineGroupsFrom_cons_blank hl,
        lineGroupsFrom_cons_blank hl, lineGroups, lineGroups, ih]

/-- **Two blank lines set apart what one does**, and no more. -/
theorem lineGroupsFrom_cons_cons_blank {j k : List Char} (hj : allBlank j = true)
    (hk : allBlank k = true) (hl : allBlank l = true) :
    lineGroupsFrom g (ls ++ j :: k :: ms) = lineGroupsFrom g (ls ++ l :: ms) := by
  refine lineGroupsFrom_append_congr fun g => ?_
  rw [lineGroupsFrom_cons_blank hj, lineGroupsFrom_cons_blank hl, lineGroups,
    lineGroupsFrom_cons_blank hk]
  rfl

/-- Blank lines at the end belong to no group. -/
theorem lineGroupsFrom_append_blank (h : ∀ l ∈ ms, allBlank l = true) :
    lineGroupsFrom g (ls ++ ms) = lineGroupsFrom g ls := by
  have hms (g : List (List Char)) : lineGroupsFrom g ms = lineGroupsFrom g [] := by
    cases ms with
    | nil => rfl
    | cons m ms =>
      rw [lineGroupsFrom_cons_blank (h m (List.mem_cons_self ..)),
        lineGroups_of_blank fun k hk => h k (List.mem_cons_of_mem m hk)]
      exact List.append_nil _
  rw [lineGroupsFrom_append_congr hms, List.append_nil]

/-- **Only blank lines may change** without a change of the groups. -/
theorem lineGroupsFrom_map {f : List Char → List Char}
    (hblank : ∀ l ∈ ls, allBlank l = true → allBlank (f l) = true)
    (hf : ∀ l ∈ ls, allBlank l = false → f l = l) :
    lineGroupsFrom g (ls.map f) = lineGroupsFrom g ls := by
  induction ls generalizing g with
  | nil => rfl
  | cons l ls ih =>
    have ih' (g) := ih (g := g) (fun k hk => hblank k (List.mem_cons_of_mem l hk))
      fun k hk => hf k (List.mem_cons_of_mem l hk)
    cases hl : allBlank l with
    | false =>
      rw [List.map_cons, hf l (List.mem_cons_self ..) hl, lineGroupsFrom_cons hl,
        lineGroupsFrom_cons hl, ih']
    | true =>
      rw [List.map_cons, lineGroupsFrom_cons_blank (hblank l (List.mem_cons_self ..) hl),
        lineGroupsFrom_cons_blank hl, lineGroups, lineGroups, ih']

/-! ## Empty lines at the ends -/

theorem dropEmptyEnds_eq (ls : List (List Char)) :
    dropEmptyEnds ls = (ls.dropWhile List.isEmpty).rdropWhile List.isEmpty := rfl

theorem mem_of_mem_dropEmptyEnds (h : l ∈ dropEmptyEnds ls) : l ∈ ls := by
  rw [dropEmptyEnds_eq] at h
  exact (List.dropWhile_suffix _).subset ((List.rdropWhile_prefix ..).subset h)

theorem lineGroups_dropEmptyEnds (ls : List (List Char)) :
    lineGroups (dropEmptyEnds ls) = lineGroups ls := by
  have hempty {l : List Char} (hl : l.isEmpty = true) : allBlank l = true := by
    rw [List.isEmpty_iff.1 hl]
    rfl
  conv_rhs => rw [← List.takeWhile_append_dropWhile (p := List.isEmpty) (l := ls)]
  rw [lineGroups_blank_append fun l hl => hempty (List.mem_takeWhile_imp hl), dropEmptyEnds_eq]
  conv_rhs => rw [← List.rdropWhile_append_rtakeWhile (p := List.isEmpty)
    (l := ls.dropWhile List.isEmpty)]
  exact (lineGroupsFrom_append_blank fun l hl => hempty (List.mem_rtakeWhile_imp hl)).symm

/-! ## The two notions of a line -/

theorem splitLines_cons {c : Char} (hc : c ≠ '\r') (s : List Char) :
    splitLines (c :: s) =
      if isLineEnd c then [] :: splitLines s else consLine c (splitLines s) := by
  rw [splitLines]
  rintro cs rfl
  exact absurd rfl hc

/-- The two notions of a line differ in an empty line at the end, when a line feed is the only line
end. -/
theorem splitAt_eq_splitLines (h : ∀ c ∈ s, isLineEnd c = true → c = '\n') :
    splitAt '\n' s = splitLines s ∨ splitAt '\n' s = splitLines s ++ [[]] := by
  induction s with
  | nil => exact .inr rfl
  | cons c cs ih =>
    have ih' := ih fun d hd => h d (List.mem_cons_of_mem c hd)
    have hend := h c (List.mem_cons_self ..)
    have hr : c ≠ '\r' := fun hc => absurd (hc ▸ hend (hc ▸ rfl)) (by decide)
    rw [splitLines_cons hr]
    by_cases hc : c = '\n'
    · rw [hc, splitAt_cons_self, if_pos (by decide)]
      exact ih'.imp (congrArg _) (congrArg _)
    · rw [splitAt_cons_of_ne hc, if_neg fun hl => hc (hend hl)]
      rcases ih' with hs | hs
      · exact .inl (by rw [hs])
      · rw [hs]
        cases splitLines cs with
        -- the last line is not empty any more
        | nil => exact .inl rfl
        | cons l ls => exact .inr rfl

/-- **Lines that are joined are grouped as they are.** -/
theorem lineGroups_splitLines_unlines (h : ∀ l ∈ ls, ∀ c ∈ l, isLineEnd c = false) :
    lineGroups (splitLines (unlines ls)) = lineGroups ls := by
  by_cases hls : ls = []
  · rw [hls]
    rfl
  · have hcut : splitAt '\n' (unlines ls) = ls := splitAt_intercalate hls fun l hl hc =>
      absurd (h l hl _ hc) (by decide)
    have hend : ∀ c ∈ unlines ls, isLineEnd c = true → c = '\n' := by
      intro c hc hl
      rcases mem_intercalate_singleton hc with hc | ⟨p, hp, hc⟩
      · exact hc
      · exact absurd hl (by simp [h p hp c hc])
    rcases splitAt_eq_splitLines hend with hs | hs
    · rw [← hs, hcut]
    · have hblank : lineGroups (splitLines (unlines ls) ++ [[]]) =
          lineGroups (splitLines (unlines ls)) :=
        lineGroupsFrom_append_blank fun l hl => List.mem_singleton.1 hl ▸ rfl
      rw [← hblank, ← hs, hcut]

/-! ## Lines that are kept -/

@[simp] theorem verbatim_nil : verbatim [] = [] := rfl

theorem verbatim_cons (l : List Char) (ls : List (List Char)) :
    verbatim (l :: ls) = l ++ '\n' :: verbatim ls := by
  rw [verbatim, List.flatMap_cons, List.append_assoc, List.singleton_append]
  rfl

theorem verbatim_append (ls ms : List (List Char)) :
    verbatim (ls ++ ms) = verbatim ls ++ verbatim ms := List.flatMap_append

theorem unlines_cons (l : List Char) (hls : ls ≠ []) :
    unlines (l :: ls) = l ++ '\n' :: unlines ls := by
  obtain ⟨k, ls, rfl⟩ := List.exists_cons_of_ne_nil hls
  rw [unlines, List.intercalate_cons_cons, List.append_assoc, List.singleton_append]
  rfl

/-- A group with its lines kept ends in an empty line. -/
theorem verbatim_eq_unlines (ls : List (List Char)) : verbatim ls = unlines (ls ++ [[]]) := by
  induction ls with
  | nil => rfl
  | cons l ls ih => rw [verbatim_cons, List.cons_append, unlines_cons l (by simp), ih]

theorem unlines_append_singleton (hls : ls ≠ []) (l : List Char) :
    unlines (ls ++ [l]) = unlines ls ++ '\n' :: l := by
  induction ls with
  | nil => exact absurd rfl hls
  | cons k ls ih =>
    rw [List.cons_append, unlines_cons k (by simp)]
    by_cases h : ls = []
    · rw [h]
      simp [unlines]
    · rw [unlines_cons k h, ih h, List.append_assoc, List.cons_append]

theorem prefix_unlines_cons (l : List Char) (ls : List (List Char)) : l <+: unlines (l :: ls) := by
  by_cases h : ls = []
  · exact ⟨[], by rw [h, unlines, List.intercalate_singleton, List.append_nil]⟩
  · rw [unlines_cons l h]
    exact List.prefix_append ..

theorem suffix_unlines_append (ls : List (List Char)) (l : List Char) :
    l <:+ unlines (ls ++ [l]) := by
  by_cases h : ls = []
  · exact ⟨[], by rw [h, unlines, List.nil_append, List.nil_append, List.intercalate_singleton]⟩
  · rw [unlines_append_singleton h]
    exact (List.suffix_cons ..).trans (List.suffix_append ..)

end CommandSpec.Text
