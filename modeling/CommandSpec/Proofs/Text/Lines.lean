import CommandSpec.Text.Lines
import Mathlib.Data.List.Basic

/-!
# Proofs/Text/Lines — cutting a text and joining the pieces

Cutting a text at a character and joining pieces that are free of it are inverse to each other
(`intercalate_splitAt`, `splitAt_intercalate`).
-/

namespace CommandSpec.Text

variable {b c : Char}

theorem splitAt_cons_self (b : Char) (s : List Char) : splitAt b (b :: s) = [] :: splitAt b s := by
  rw [splitAt, if_pos rfl]

theorem splitAt_cons_of_ne (h : c ≠ b) (s : List Char) :
    splitAt b (c :: s) = consLine c (splitAt b s) := by
  rw [splitAt, if_neg h]

/-- A text without the character is one piece. -/
theorem splitAt_of_not_mem : ∀ {s : List Char}, b ∉ s → splitAt b s = [s]
  | [], _ => rfl
  | c :: cs, h => by
    obtain ⟨hc, hcs⟩ : b ≠ c ∧ b ∉ cs := by simpa using h
    rw [splitAt_cons_of_ne (Ne.symm hc), splitAt_of_not_mem hcs]
    rfl

/-- The first piece goes up to the first occurrence. -/
theorem splitAt_append_cons {p : List Char} (h : b ∉ p) (s : List Char) :
    splitAt b (p ++ b :: s) = p :: splitAt b s := by
  induction p with
  | nil => exact splitAt_cons_self b s
  | cons c cs ih =>
    obtain ⟨hc, hcs⟩ : b ≠ c ∧ b ∉ cs := by simpa using h
    rw [List.cons_append, splitAt_cons_of_ne (Ne.symm hc), ih hcs]
    rfl

/-- What is in joined pieces is what joins them, or is in a piece. -/
theorem mem_intercalate_singleton :
    ∀ {ps : List (List Char)}, c ∈ [b].intercalate ps → c = b ∨ ∃ p ∈ ps, c ∈ p
  | [], h => by simp at h
  | [p], h => .inr ⟨p, List.mem_cons_self .., by simpa using h⟩
  | p :: q :: ps, h => by
    rw [List.intercalate_cons_cons, List.mem_append, List.mem_append, List.mem_singleton] at h
    rcases h with (h | h) | h
    · exact .inr ⟨p, List.mem_cons_self .., h⟩
    · exact .inl h
    · rcases mem_intercalate_singleton h with h | ⟨r, hr, h⟩
      · exact .inl h
      · exact .inr ⟨r, List.mem_cons_of_mem p hr, h⟩

theorem mem_intercalate_of_mem {p : List Char} :
    ∀ {ps : List (List Char)}, p ∈ ps → c ∈ p → c ∈ [b].intercalate ps
  | [q], hp, hc => by
    obtain rfl := List.mem_singleton.1 hp
    simpa using hc
  | q :: r :: ps, hp, hc => by
    rw [List.intercalate_cons_cons, List.mem_append, List.mem_append]
    rcases List.mem_cons.1 hp with rfl | hp
    · exact .inl (.inl hc)
    · exact .inr (mem_intercalate_of_mem hp hc)

/-- **Cutting gives the pieces back** that have been joined. -/
theorem splitAt_intercalate :
    ∀ {ps : List (List Char)}, ps ≠ [] → (∀ p ∈ ps, b ∉ p) → splitAt b ([b].intercalate ps) = ps
  | [], h, _ => absurd rfl h
  | [p], _, hp => by
    rw [List.intercalate_singleton, splitAt_of_not_mem (hp p (List.mem_cons_self ..))]
  | p :: q :: ps, _, hp => by
    rw [List.intercalate_cons_cons, List.append_assoc, List.singleton_append,
      splitAt_append_cons (hp p (List.mem_cons_self ..)),
      splitAt_intercalate (List.cons_ne_nil q ps) fun r hr => hp r (List.mem_cons_of_mem p hr)]

/-- **Joining gives the text back** that has been cut. -/
theorem intercalate_splitAt (b : Char) : ∀ s : List Char, [b].intercalate (splitAt b s) = s
  | [] => rfl
  | c :: cs => by
    have ih := intercalate_splitAt b cs
    cases h : splitAt b cs with
    | nil => exact absurd h (splitAt_ne_nil b cs)
    | cons p ps =>
      rw [h] at ih
      by_cases hc : c = b
      · rw [hc, splitAt_cons_self, h, List.intercalate_cons_cons, ih]
        rfl
      · rw [splitAt_cons_of_ne hc, h, consLine]
        cases ps with
        | nil => simpa using ih
        | cons q qs => rw [List.intercalate_cons_cons, List.cons_append, List.cons_append,
            ← List.intercalate_cons_cons, ih]

theorem not_mem_of_mem_splitAt : ∀ {s p : List Char}, p ∈ splitAt b s → b ∉ p
  | [], p, h => by simp_all [splitAt]
  | c :: cs, p, h => by
    by_cases hc : c = b
    · rw [hc, splitAt_cons_self] at h
      rcases List.mem_cons.1 h with rfl | h
      · exact List.not_mem_nil
      · exact not_mem_of_mem_splitAt h
    · rw [splitAt_cons_of_ne hc] at h
      cases hs : splitAt b cs with
      | nil => exact absurd hs (splitAt_ne_nil b cs)
      | cons q qs =>
        have hq : ∀ r ∈ q :: qs, b ∉ r := fun r hr => not_mem_of_mem_splitAt (hs ▸ hr)
        rw [hs, consLine] at h
        rcases List.mem_cons.1 h with rfl | h
        · exact List.not_mem_cons_of_ne_of_not_mem (Ne.symm hc) (hq q (List.mem_cons_self ..))
        · exact hq p (List.mem_cons_of_mem q h)

end CommandSpec.Text
