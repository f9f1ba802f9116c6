import CommandSpec.Proofs.Text.Blank
import CommandSpec.Proofs.Text.Paragraph
import CommandSpec.Text.Relaxed

/-!
# Proofs/Text/Relaxed — a text on one line, line by line

A text brought onto one line consists of its lines that are not blank, trimmed and with one space
between them (`relaxedChars_verbatim`).
-/

namespace CommandSpec.Text

variable {p s g l : List Char} {ls : List (List Char)} {c : Char}

theorem trimRight_of_cons (h : trimRight (c :: p) = c :: p) : trimRight p = p := by
  rw [trimRight] at h
  split at h
  · next hp =>
    split at h
    · cases h
    · obtain rfl : [] = p := List.tail_eq_of_cons_eq h
      rfl
  · next d ds hp => exact hp.trans (List.tail_eq_of_cons_eq h)

theorem joinLines_nil : joinLines [] = [] := by
  rw [joinLines.eq_def]

theorem joinLines_cons (c : Char) (s : List Char) : joinLines (c :: s) =
    if isBlank c then
      (if (c :: s.takeWhile isBlank).contains '\n' then [' '] else c :: s.takeWhile isBlank) ++
        joinLines (s.dropWhile isBlank)
    else c :: joinLines s := by
  rw [joinLines.eq_def]

theorem joinLines_cons_of_not_isBlank (hc : isBlank c = false) (s : List Char) :
    joinLines (c :: s) = c :: joinLines s := by
  rw [joinLines_cons, if_neg (by simp [hc])]

/-- A run of blanks goes up to where another character stands. -/
theorem joinLines_run_append (hc : isBlank c = true) (hg : allBlank g = true)
    (hs : trimLeft s = s) : joinLines (c :: g ++ s) =
      (if (c :: g).contains '\n' then [' '] else c :: g) ++ joinLines s := by
  have hrest : (g ++ s).dropWhile isBlank = s := (trimLeft_append_of_allBlank hg).trans hs
  rw [List.cons_append, joinLines_cons, if_pos hc, takeWhile_isBlank_append hg hs, hrest]

/-- **Induction on the runs of a text**: a character that is not blank, or a run of blanks that
ends, comes next. -/
@[elab_as_elim] theorem run_induction {motive : List Char → Prop} (nil : motive [])
    (cons : ∀ c s, isBlank c = false → motive s → motive (c :: s))
    (run : ∀ c g s, isBlank c = true → allBlank g = true → trimLeft s = s → motive s →
      motive (c :: g ++ s)) (s : List Char) : motive s := by
  induction s using joinLines.induct with
  | case1 => exact nil
  | case2 c cs hc ih =>
    have hrun := run c (cs.takeWhile isBlank) (trimLeft cs) hc List.all_takeWhile
      (List.dropWhile_idempotent ..) ih
    rwa [List.cons_append, trimLeft, List.takeWhile_append_dropWhile] at hrun
  | case3 c cs hc ih => exact cons c cs (by simpa using hc) ih

theorem eq_nil_of_joinLines (h : joinLines s = []) : s = [] := by
  cases s with
  | nil => rfl
  | cons c s =>
    rw [joinLines_cons] at h
    split at h
    · split at h <;> cases h
    · cases h

/-- A text whose last character is not blank is brought onto one line by itself, whatever
follows. -/
theorem joinLines_append (hp : trimRight p = p) :
    joinLines (p ++ s) = joinLines p ++ joinLines s := by
  induction p using run_induction with
  | nil => rw [joinLines_nil, List.nil_append, List.nil_append]
  | cons c p hc ih =>
    rw [List.cons_append, joinLines_cons_of_not_isBlank hc, joinLines_cons_of_not_isBlank hc,
      ih (trimRight_of_cons hp), List.cons_append]
  | run c g p hc hg hleft ih =>
    cases hblank : allBlank p with
    | true =>
      -- a run of blanks at the end would have been trimmed
      have hall : allBlank (c :: g ++ p) = true := by
        rw [allBlank_append, allBlank_cons, hc, hg, hblank]
        rfl
      rw [trimRight_eq_nil_iff.2 hall] at hp
      cases hp
    | false =>
      have hright : trimRight p = p := by
        rw [trimRight_append_of_not_allBlank hblank] at hp
        exact List.append_cancel_left hp
      have hleft' : trimLeft (p ++ s) = p ++ s := by
        rw [trimLeft_append_of_not_allBlank hblank, hleft]
      rw [List.append_assoc, joinLines_run_append hc hg hleft', joinLines_run_append hc hg hleft,
        ih hright, List.append_assoc]

/-- A text without line feeds is on one line. -/
theorem joinLines_of_not_mem (hs : '\n' ∉ s) : joinLines s = s := by
  induction s using run_induction with
  | nil => exact joinLines_nil
  | cons c s hc ih =>
    rw [joinLines_cons_of_not_isBlank hc, ih fun h => hs (List.mem_cons_of_mem c h)]
  | run c g s hc hg hleft ih =>
    have hrun : '\n' ∉ c :: g := fun h => hs (List.mem_append_left s h)
    rw [joinLines_run_append hc hg hleft, if_neg fun h => hrun (List.contains_iff_mem.1 h),
      ih fun h => hs (List.mem_append_right _ h)]

/-- **No line feed is left** on one line. -/
theorem not_mem_joinLines (s : List Char) : '\n' ∉ joinLines s := by
  induction s using run_induction with
  | nil =>
    rw [joinLines_nil]
    exact List.not_mem_nil
  | cons c s hc ih =>
    rw [joinLines_cons_of_not_isBlank hc]
    refine List.not_mem_cons_of_ne_of_not_mem (fun h => ?_) ih
    rw [← h] at hc
    cases hc
  | run c g s hc hg hleft ih =>
    rw [joinLines_run_append hc hg hleft, List.mem_append]
    refine not_or_intro ?_ ih
    split
    · decide
    · next hrun => exact fun h => hrun (List.contains_iff_mem.2 h)

theorem not_mem_relaxedChars (s : List Char) : '\n' ∉ relaxedChars s := not_mem_joinLines (trim s)

/-- Blanks with a line feed among them are one space between two lines. -/
theorem joinLines_gap_append (hg : allBlank g = true) (hmem : '\n' ∈ g) (hs : trimLeft s = s) :
    joinLines (g ++ s) = ' ' :: joinLines s := by
  obtain ⟨c, g, rfl⟩ := List.exists_cons_of_ne_nil (List.ne_nil_of_mem hmem)
  rw [allBlank_cons, Bool.and_eq_true] at hg
  rw [joinLines_run_append hg.1 hg.2 hs, if_pos (List.contains_iff_mem.2 hmem),
    List.singleton_append]

/-! ## Lines -/

theorem relaxedChars_trimLeft (s : List Char) : relaxedChars (trimLeft s) = relaxedChars s :=
  congrArg joinLines (trim_trimLeft s)

theorem relaxedChars_trimRight (s : List Char) : relaxedChars (trimRight s) = relaxedChars s := by
  obtain ⟨g, hg, hs⟩ := exists_trimRight_append_blank s
  conv_rhs => rw [hs, relaxedChars, trim_append_of_allBlank hg, ← relaxedChars]

theorem relaxedChars_of_allBlank (hs : allBlank s = true) : relaxedChars s = [] := by
  rw [relaxedChars, trim, trimLeft_eq_nil_iff.2 hs]
  exact joinLines_nil

/-- Nothing but blanks is lost when a text is brought onto one line. -/
theorem allBlank_of_relaxedChars (h : relaxedChars s = []) : allBlank s = true := by
  rw [← allBlank_trim, eq_nil_of_joinLines h]
  rfl

theorem allBlank_verbatim (ls : List (List Char)) : allBlank (verbatim ls) = ls.all allBlank := by
  induction ls with
  | nil => rfl
  | cons l ls ih => rw [verbatim_cons, allBlank_append, allBlank_cons, ih, List.all_cons]; rfl

/-- A line that is not blank, and what is below it, are one space apart. -/
theorem relaxedChars_append_lineFeed (hl : allBlank l = false) (hmem : '\n' ∉ l)
    (hs : allBlank s = false) :
    relaxedChars (l ++ '\n' :: s) = trim l ++ ' ' :: relaxedChars s := by
  obtain ⟨g, hg, hlg⟩ := exists_trimRight_append_blank (trimLeft l)
  obtain ⟨g', hg', hsg⟩ := exists_blank_append_trimLeft s
  have hgap : allBlank (g ++ '\n' :: g') = true := by
    rw [allBlank_append, allBlank_cons, hg, hg']
    rfl
  have hs' : allBlank (trimLeft s) = false := by
    rwa [hsg, allBlank_append, hg', Bool.true_and] at hs
  have htrim : trim (l ++ '\n' :: s) = trim l ++ (g ++ '\n' :: g' ++ trim s) := by
    rw [trim, trimLeft_append_of_not_allBlank hl, hlg, ← trim]
    conv_lhs => rw [hsg, List.append_assoc, ← List.cons_append, ← List.append_assoc g]
    rw [← List.append_assoc, trimRight_append_of_not_allBlank hs', ← trim, List.append_assoc]
  rw [relaxedChars, htrim, joinLines_append (trimRight_trim l),
    joinLines_of_not_mem fun h => hmem (mem_of_mem_trim h),
    joinLines_gap_append hgap (by simp) (trimLeft_trim s)]
  rfl

theorem flowed_cons (l : List Char) (hls : ls ≠ []) :
    flowed (l :: ls) = trim l ++ ' ' :: flowed ls := by
  obtain ⟨k, ls, rfl⟩ := List.exists_cons_of_ne_nil hls
  rw [flowed, List.map_cons, List.map_cons, List.intercalate_cons_cons, List.append_assoc,
    List.singleton_append]
  rfl

theorem filter_not_blank_eq_nil_iff :
    ls.filter (!allBlank ·) = [] ↔ allBlank (verbatim ls) = true := by
  rw [List.filter_eq_nil_iff, allBlank_verbatim, List.all_eq_true]
  exact forall₂_congr fun l _ => by rw [Bool.not_eq_true, Bool.not_eq_false']

/-- A single line on one line is trimmed. -/
theorem relaxedChars_line (hl : '\n' ∉ l) (hs : allBlank s = true) :
    relaxedChars (l ++ '\n' :: s) = trim l := by
  have hgap : allBlank ('\n' :: s) = true := by
    rw [allBlank_cons, hs]
    rfl
  rw [relaxedChars, trim_append_of_allBlank hgap,
    joinLines_of_not_mem fun h => hl (mem_of_mem_trim h)]

/-- **A text on one line** is made of its lines that are not blank. -/
theorem relaxedChars_verbatim (h : ∀ l ∈ ls, '\n' ∉ l) :
    relaxedChars (verbatim ls) = flowed (ls.filter (!allBlank ·)) := by
  induction ls with
  | nil => exact joinLines_of_not_mem List.not_mem_nil
  | cons l ls ih =>
    obtain ⟨hl, hls⟩ := List.forall_mem_cons.1 h
    have ih := ih hls
    rw [verbatim_cons]
    cases hblank : allBlank l with
    | true =>
      have hgap : allBlank (l ++ ['\n']) = true := by
        rw [allBlank_append, hblank]
        rfl
      rw [List.append_cons, List.filter_cons_of_neg (by simp [hblank]), ← ih, relaxedChars,
        trim_of_allBlank_append hgap]
      rfl
    | false =>
      rw [List.filter_cons_of_pos (by simp [hblank])]
      by_cases hrest : ls.filter (!allBlank ·) = []
      · rw [hrest, relaxedChars_line hl (filter_not_blank_eq_nil_iff.1 hrest), flowed,
          List.map_singleton, List.intercalate_singleton]
      · have hbelow : allBlank (verbatim ls) = false :=
          Bool.eq_false_iff.2 fun h => hrest (filter_not_blank_eq_nil_iff.2 h)
        rw [relaxedChars_append_lineFeed hblank hl hbelow, flowed_cons l hrest, ih]

theorem relaxedChars_verbatim_of_not_blank (h : ∀ l ∈ ls, '\n' ∉ l)
    (hblank : ∀ l ∈ ls, allBlank l = false) : relaxedChars (verbatim ls) = flowed ls := by
  rw [relaxedChars_verbatim h, List.filter_eq_self.2 fun l hl => by simp [hblank l hl]]

end CommandSpec.Text
