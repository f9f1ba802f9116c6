import CommandSpec.Proofs.Text.Margin
import CommandSpec.Proofs.Text.Relaxed
import Mathlib.Data.List.Chain

/-!
# Proofs/Text/Widened — spaces in front of lines

A text is **widened** when spaces are put in front of some of its lines (`Widened`).  This adds
blanks where others may stand, and nothing else: what is left in front and at the end of a text when
its blanks are dropped is widened too, and a text brought onto one line stays what it was
(`Widened.relaxedChars_eq`).  A text whose lines are indented (`behindMargin`) is widened
(`widened_behindMargin`), and no line of it below the first stands flush (`hasMargin_behindMargin`).
-/

namespace CommandSpec.Text

variable {b : Bool} {c : Char} {s t : List Char}

theorem trimRight_cons (c : Char) (s : List Char) :
    trimRight (c :: s) = if allBlank (c :: s) then [] else c :: trimRight s := by
  cases hblank : allBlank (c :: s) with
  | true => rw [trimRight_eq_nil_iff.2 hblank, if_pos rfl]
  | false =>
    rw [if_neg Bool.false_ne_true, trimRight]
    split
    · next hs =>
      rw [allBlank_cons, trimRight_eq_nil_iff.1 hs, Bool.and_true] at hblank
      rw [if_neg (by simp [hblank]), hs]
    · next hs => rw [hs]

/-- **Spaces in front of lines**: the second text is the first with spaces put in front of some of
its lines.  The first line counts where the text begins at the start of a line. -/
inductive Widened : Bool → List Char → List Char → Prop
  | nil (b : Bool) : Widened b [] []
  | cons (b : Bool) (c : Char) {s t : List Char} (h : Widened (c = '\n') s t) :
      Widened b (c :: s) (c :: t)
  | space {s t : List Char} (h : Widened true s t) : Widened true s (' ' :: t)

namespace Widened

theorem refl (b : Bool) (s : List Char) : Widened b s s := by
  induction s generalizing b with
  | nil => exact .nil b
  | cons c s ih => exact .cons b c (ih _)

/-- What is widened in the middle of a line is so at its start. -/
theorem of_false (b : Bool) (h : Widened false s t) : Widened b s t := by
  cases h with
  | nil => exact .nil b
  | cons _ c h => exact .cons b c h

theorem mono (h : Widened b s t) : Widened true s t := by
  cases h with
  | nil => exact .nil true
  | cons _ c h => exact .cons true c h
  | space h => exact .space h

theorem spaces (n : Nat) (h : Widened true s t) : Widened true s (List.replicate n ' ' ++ t) := by
  induction n with
  | zero => exact h
  | succ n ih => exact .space ih

/-- All spaces that are put in front of a text can be taken off. -/
theorem exists_spaces (h : Widened b s t) :
    ∃ n t', t = List.replicate n ' ' ++ t' ∧ Widened false s t' ∧ (b = false → n = 0) := by
  induction h with
  | nil b => exact ⟨0, [], rfl, .nil false, fun _ => rfl⟩
  | cons b c h => exact ⟨0, _, rfl, .cons false c h, fun _ => rfl⟩
  | space h ih =>
    obtain ⟨n, t', rfl, h', -⟩ := ih
    exact ⟨n + 1, t', rfl, h', fun h => by cases h⟩

/-- Spaces may be put in front of the text again. -/
theorem of_spaces {n : Nat} (h : Widened false s t) (hn : b = false → n = 0) :
    Widened b s (List.replicate n ' ' ++ t) := by
  cases b with
  | false =>
    rw [hn rfl]
    exact h
  | true => exact (h.of_false true).spaces n

/-! ## Blanks -/

theorem allBlank_eq (h : Widened b s t) : allBlank t = allBlank s := by
  induction h with
  | nil => rfl
  | cons b c h ih => rw [allBlank_cons, allBlank_cons, ih]
  | space h ih => rw [allBlank_cons, ih]; rfl

/-- What is left when the blanks in front are dropped is widened in the middle of its line. -/
theorem trimLeft (h : Widened b s t) : Widened false (trimLeft s) (trimLeft t) := by
  induction h with
  | nil => exact .nil false
  | cons b c h ih =>
    cases hc : isBlank c with
    | true =>
      rw [trimLeft_cons_of_isBlank hc, trimLeft_cons_of_isBlank hc]
      exact ih
    | false =>
      rw [trimLeft_cons_of_not_isBlank hc, trimLeft_cons_of_not_isBlank hc]
      exact .cons false c h
  | space h ih =>
    rw [trimLeft_cons_of_isBlank (c := ' ') rfl]
    exact ih

theorem trimRight (h : Widened b s t) : Widened b (Text.trimRight s) (Text.trimRight t) := by
  induction h with
  | nil b => exact .nil b
  | cons b c h ih =>
    rw [trimRight_cons, trimRight_cons, (Widened.cons b c h).allBlank_eq]
    split
    · exact .nil b
    · exact .cons b c ih
  | @space s t h ih =>
    rw [trimRight_cons]
    split
    · next hblank =>
      rw [(Widened.space h).allBlank_eq] at hblank
      rw [trimRight_eq_nil_iff.2 hblank]
      exact .nil true
    · exact .space ih

/-! ## Runs of characters -/

variable {p : Char → Bool}

/-- A run of characters without a line feed stays as it is. -/
theorem takeWhile_eq (h : Widened false s t) (hs : '\n' ∉ s.takeWhile p) :
    t.takeWhile p = s.takeWhile p := by
  induction s generalizing t with
  | nil =>
    cases h
    rfl
  | cons c s ih =>
    cases h with
    | cons _ _ h =>
      cases hp : p c with
      | false => rw [List.takeWhile_cons_of_neg (by simp [hp]),
          List.takeWhile_cons_of_neg (by simp [hp])]
      | true =>
        rw [List.takeWhile_cons_of_pos hp, List.mem_cons, not_or] at hs
        rw [decide_eq_false (Ne.symm hs.1)] at h
        rw [List.takeWhile_cons_of_pos hp, List.takeWhile_cons_of_pos hp, ih h hs.2]

/-- What comes after a run of characters without a line feed is widened. -/
theorem dropWhile (h : Widened false s t) (hp : p '\n' = false) :
    Widened false (s.dropWhile p) (t.dropWhile p) := by
  induction s generalizing t with
  | nil =>
    cases h
    exact .nil false
  | cons c s ih =>
    cases h with
    | cons _ _ h =>
      cases hc : p c with
      | false =>
        rw [List.dropWhile_cons_of_neg (by simp [hc]), List.dropWhile_cons_of_neg (by simp [hc])]
        exact .cons false c h
      | true =>
        have hne : c ≠ '\n' := fun h => by simp [h, hp] at hc
        rw [decide_eq_false hne] at h
        rw [List.dropWhile_cons_of_pos hc, List.dropWhile_cons_of_pos hc]
        exact ih h

/-- Spaces end no line. -/
theorem mem_takeWhile_isBlank_iff (h : Widened b s t) :
    '\n' ∈ t.takeWhile isBlank ↔ '\n' ∈ s.takeWhile isBlank := by
  induction h with
  | nil => rfl
  | cons b c h ih =>
    cases hc : isBlank c with
    | false => rw [List.takeWhile_cons_of_neg (by simp [hc]),
        List.takeWhile_cons_of_neg (by simp [hc])]
    | true => rw [List.takeWhile_cons_of_pos hc, List.takeWhile_cons_of_pos hc, List.mem_cons,
        List.mem_cons, ih]
  | space h ih =>
    rw [List.takeWhile_cons_of_pos rfl, List.mem_cons, or_iff_right (by decide), ih]

/-! ## A text on one line -/

theorem joinLines_eq (h : Widened false s t) : joinLines t = joinLines s := by
  induction s using joinLines.induct generalizing t with
  | case1 =>
    cases h
    rfl
  | case2 c s hc ih =>
    cases h with
    | @cons _ _ _ t h =>
      have hrest : joinLines (t.dropWhile isBlank) = joinLines (s.dropWhile isBlank) :=
        ih h.trimLeft
      have hmem : '\n' ∈ c :: t.takeWhile isBlank ↔ '\n' ∈ c :: s.takeWhile isBlank := by
        rw [List.mem_cons, List.mem_cons, h.mem_takeWhile_isBlank_iff]
      rw [joinLines_cons, joinLines_cons, if_pos hc, if_pos hc, hrest]
      by_cases hs : '\n' ∈ c :: s.takeWhile isBlank
      · rw [if_pos (List.contains_iff_mem.2 hs), if_pos (List.contains_iff_mem.2 (hmem.2 hs))]
      · rw [if_neg (mt List.contains_iff_mem.1 hs),
          if_neg (mt List.contains_iff_mem.1 (mt hmem.1 hs))]
        rw [List.mem_cons, not_or] at hs
        rw [decide_eq_false (Ne.symm hs.1)] at h
        rw [h.takeWhile_eq hs.2]
  | case3 c s hc ih =>
    have hc : isBlank c = false := by simpa using hc
    have hne : c ≠ '\n' := by
      rintro rfl
      cases hc
    cases h with
    | cons _ _ h =>
      rw [decide_eq_false hne] at h
      rw [joinLines_cons_of_not_isBlank hc, joinLines_cons_of_not_isBlank hc, ih h]

/-- **Spaces in front of lines make no difference to a text on one line.** -/
theorem relaxedChars_eq (h : Widened b s t) : relaxedChars t = relaxedChars s :=
  h.trimLeft.trimRight.joinLines_eq

end Widened

/-! ## Indented texts -/

variable {k : Nat} {l : List Char} {ls : List (List Char)}

/-- A text whose lines are indented; blank lines stay as they are. -/
def behindMargin (k : Nat) (s : List Char) : List Char :=
  unlines ((splitAt '\n' s).map (indented k))

theorem Widened.line (l : List Char) (h : Widened true s t) :
    Widened b (l ++ '\n' :: s) (l ++ '\n' :: t) := by
  induction l generalizing b with
  | nil => exact .cons b '\n' h
  | cons c l ih => exact .cons b c ih

theorem Widened.indented (h : Widened true (l ++ s) (l ++ t)) :
    Widened true (l ++ s) (indented k l ++ t) := by
  rw [Text.indented]
  split
  · exact h
  · rw [List.append_assoc]
    exact h.spaces k

/-- **Indenting a text puts spaces in front of its lines.** -/
theorem widened_behindMargin (k : Nat) (s : List Char) : Widened true s (behindMargin k s) := by
  have hlines : ∀ ls, Widened true (unlines ls) (unlines (ls.map (Text.indented k))) := by
    intro ls
    induction ls with
    | nil => exact .nil true
    | cons l ls ih =>
      by_cases hls : ls = []
      · rw [hls, List.map_singleton, unlines, unlines, List.intercalate_singleton,
          List.intercalate_singleton]
        simpa only [List.append_nil] using Widened.indented (k := k) (.refl true (l ++ []))
      · rw [List.map_cons, unlines_cons l hls, unlines_cons _ (by simpa using hls)]
        exact Widened.indented (.line l ih)
  have hs := hlines (splitAt '\n' s)
  rwa [unlines, intercalate_splitAt] at hs

/-- **A text has a margin** when no line of it below the first stands flush: what follows a line
feed is blank. -/
def HasMargin (s : List Char) : Prop := s.IsChain fun c d => c = '\n' → isBlank d = true

theorem hasMargin_of_not_mem (h : '\n' ∉ s) : HasMargin s := by
  induction s with
  | nil => exact .nil
  | cons c s ih =>
    rw [List.mem_cons, not_or] at h
    exact List.isChain_cons.2 ⟨fun _ _ hc => absurd hc.symm h.1, ih h.2⟩

theorem hasMargin_unlines (hmem : ∀ l ∈ ls, '\n' ∉ l)
    (h : ∀ l ∈ ls, ∀ c ∈ l.head?, isBlank c = true) :
    HasMargin (unlines ls) ∧ ∀ c ∈ (unlines ls).head?, isBlank c = true := by
  induction ls with
  | nil => exact ⟨.nil, fun c hc => by cases hc⟩
  | cons l ls ih =>
    obtain ⟨hl, hls⟩ := List.forall_mem_cons.1 hmem
    obtain ⟨hhead, hheads⟩ := List.forall_mem_cons.1 h
    by_cases hnil : ls = []
    · rw [hnil, unlines, List.intercalate_singleton]
      exact ⟨hasMargin_of_not_mem hl, hhead⟩
    · obtain ⟨hmargin, hfirst⟩ := ih hls hheads
      rw [unlines_cons l hnil]
      refine ⟨List.isChain_append.2 ⟨hasMargin_of_not_mem hl,
        List.isChain_cons.2 ⟨fun c hc _ => hfirst c hc, hmargin⟩, fun c hc _ _ hcn => ?_⟩, ?_⟩
      · exact absurd (hcn ▸ List.mem_of_getLast? hc) hl
      · cases l with
        | nil => exact fun c hc => by cases hc; rfl
        | cons c l => exact hhead

/-- **An indented text has a margin.** -/
theorem hasMargin_behindMargin (hk : 0 < k) (s : List Char) : HasMargin (behindMargin k s) := by
  refine (hasMargin_unlines (List.forall_mem_map.2 fun l hl => ?_)
    (List.forall_mem_map.2 fun l _ => ?_)).1
  · rw [indented]
    split
    · exact not_mem_of_mem_splitAt hl
    · rw [List.mem_append, not_or]
      exact ⟨fun h => absurd (List.eq_of_mem_replicate h) (by decide), not_mem_of_mem_splitAt hl⟩
  · obtain ⟨n, rfl⟩ := Nat.exists_eq_succ_of_ne_zero hk.ne'
    rw [indented]
    split
    · next hblank => exact fun c hc => allBlank_iff.1 hblank c (List.mem_of_mem_head? hc)
    · intro c hc
      cases hc
      rfl

theorem behindMargin_zero (s : List Char) : behindMargin 0 s = s := by
  have hzero : indented 0 = id := funext fun l => by rw [indented]; split <;> rfl
  rw [behindMargin, hzero, List.map_id, unlines, intercalate_splitAt]

end CommandSpec.Text
