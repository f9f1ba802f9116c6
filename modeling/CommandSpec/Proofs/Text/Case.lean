import CommandSpec.Text.Case
import Mathlib.Data.List.TakeWhile

/-!
# Proofs/Text/Case — the lower case of a beginning

Each character is lowered by itself, but a capital sigma is lowered by its place in its word.  So
the lower case of a beginning of a text is a beginning of its lower case, unless the text goes on in
the word that the beginning closes with a sigma (`lowerChars_prefix_iff`).
-/

namespace CommandSpec.Text

variable {before p rest : List Char}

/-- The lower case of one character, which stands between two parts of its text. -/
def lowerBetween (before : List Char) (c : Char) (after : List Char) : List Char :=
  if c = 'Σ' then [if nextIsCased before && !nextIsCased after then 'ς' else 'σ'] else lowerChar c

theorem lowerFrom_cons (before : List Char) (c : Char) (cs : List Char) :
    lowerFrom before (c :: cs) = lowerBetween before c cs ++ lowerFrom (c :: before) cs := rfl

/-! ## Looking on inside a word -/

theorem nextIsCased_of_ignorable (h : p.all isCaseIgnorable = true) : nextIsCased p = false := by
  rw [nextIsCased, List.dropWhile_eq_nil_iff.2 (List.all_eq_true.1 h)]

/-- What is looked through does not hide what follows. -/
theorem nextIsCased_append_of_ignorable (h : p.all isCaseIgnorable = true) :
    nextIsCased (p ++ rest) = nextIsCased rest := by
  rw [nextIsCased, List.dropWhile_append_of_pos (List.all_eq_true.1 h), nextIsCased]

/-- Where something else comes first, what follows does not matter. -/
theorem nextIsCased_append_of_not_ignorable (h : p.all isCaseIgnorable = false) :
    nextIsCased (p ++ rest) = nextIsCased p := by
  have hne : p.dropWhile isCaseIgnorable ≠ [] := fun hnil =>
    absurd (List.all_eq_true.2 (List.dropWhile_eq_nil_iff.1 hnil)) (by rw [h]; decide)
  obtain ⟨c, cs, hcs⟩ := List.exists_cons_of_ne_nil hne
  rw [nextIsCased, List.dropWhile_append, hcs, nextIsCased, hcs]
  rfl

/-! ## The sigma that ends a beginning -/

/-- **A beginning closes with a sigma that the text goes on from**: a cased letter stands before the
sigma in its word, none after it in the beginning, and one where the text goes on. -/
def ClosesSigma (p rest : List Char) : Prop :=
  ∃ a b, p = a ++ 'Σ' :: b ∧ b.all isCaseIgnorable = true ∧ nextIsCased a.reverse = true ∧
    nextIsCased rest = true

/-- The same behind some other characters, nearest first. -/
def ClosesSigmaAfter (before p rest : List Char) : Prop :=
  ∃ a b, p = a ++ 'Σ' :: b ∧ b.all isCaseIgnorable = true ∧
    nextIsCased (a.reverse ++ before) = true ∧ nextIsCased rest = true

theorem closesSigmaAfter_nil_iff : ClosesSigmaAfter [] p rest ↔ ClosesSigma p rest := by
  simp only [ClosesSigmaAfter, ClosesSigma, List.append_nil]

theorem not_closesSigmaAfter_nil : ¬ ClosesSigmaAfter before [] rest := by
  rintro ⟨a, b, h, -⟩
  exact List.append_ne_nil_of_right_ne_nil a (List.cons_ne_nil _ _) h.symm

/-- The sigma is the first character, or stands behind it. -/
theorem closesSigmaAfter_cons {c : Char} {cs : List Char} :
    ClosesSigmaAfter before (c :: cs) rest ↔
      (c = 'Σ' ∧ cs.all isCaseIgnorable = true ∧ nextIsCased before = true ∧
        nextIsCased rest = true) ∨ ClosesSigmaAfter (c :: before) cs rest := by
  constructor
  · rintro ⟨a, b, h, hb, hbefore, hrest⟩
    cases a with
    | nil =>
      obtain ⟨rfl, rfl⟩ := List.cons.inj h
      exact .inl ⟨rfl, hb, hbefore, hrest⟩
    | cons d a =>
      obtain ⟨rfl, rfl⟩ := List.cons.inj h
      rw [List.reverse_cons, List.append_assoc] at hbefore
      exact .inr ⟨a, b, rfl, hb, hbefore, hrest⟩
  · rintro (⟨rfl, hcs, hbefore, hrest⟩ | ⟨a, b, rfl, hb, hbefore, hrest⟩)
    · exact ⟨[], cs, rfl, hcs, hbefore, hrest⟩
    · refine ⟨c :: a, b, rfl, hb, ?_, hrest⟩
      rw [List.reverse_cons, List.append_assoc]
      exact hbefore

/-- A character is lowered alike in a beginning and in the whole, unless it is a sigma that closes
the beginning. -/
theorem lowerBetween_eq_iff {c : Char} {cs : List Char} :
    lowerBetween before c cs = lowerBetween before c (cs ++ rest) ↔
      ¬(c = 'Σ' ∧ cs.all isCaseIgnorable = true ∧ nextIsCased before = true ∧
        nextIsCased rest = true) := by
  by_cases hc : c = 'Σ'
  · cases hcs : cs.all isCaseIgnorable with
    | true =>
      rw [lowerBetween, lowerBetween, if_pos hc, if_pos hc, nextIsCased_of_ignorable hcs,
        nextIsCased_append_of_ignorable hcs]
      cases nextIsCased before <;> cases nextIsCased rest <;> simp [hc]
    | false =>
      rw [lowerBetween, lowerBetween, nextIsCased_append_of_not_ignorable hcs]
      simp
  · rw [lowerBetween, lowerBetween, if_neg hc, if_neg hc]
    simp [hc]

theorem length_lowerBetween (before after after' : List Char) (c : Char) :
    (lowerBetween before c after).length = (lowerBetween before c after').length := by
  unfold lowerBetween
  split <;> rfl

theorem lowerFrom_prefix_iff :
    lowerFrom before p <+: lowerFrom before (p ++ rest) ↔ ¬ ClosesSigmaAfter before p rest := by
  induction p generalizing before with
  | nil => exact iff_of_true (List.nil_prefix) not_closesSigmaAfter_nil
  | cons c cs ih =>
    rw [List.cons_append, lowerFrom_cons, lowerFrom_cons, closesSigmaAfter_cons, not_or,
      ← lowerBetween_eq_iff, ← ih]
    constructor
    · rintro ⟨more, h⟩
      rw [List.append_assoc] at h
      obtain ⟨hhead, htail⟩ := List.append_inj h (length_lowerBetween ..)
      exact ⟨hhead, more, htail⟩
    · rintro ⟨hhead, htail⟩
      rw [← hhead]
      exact (List.prefix_append_right_inj _).2 htail

/-- **The lower case of a beginning begins the lower case of the whole**, unless it closes with a
sigma that the text goes on from. -/
theorem lowerChars_prefix_iff :
    lowerChars p <+: lowerChars (p ++ rest) ↔ ¬ ClosesSigma p rest :=
  lowerFrom_prefix_iff.trans (not_congr closesSigmaAfter_nil_iff)

end CommandSpec.Text
