/-!
# Repeat — the first repetition in a list

Names that must differ are checked from left to right; what is reported is the first that has stood
before.
-/

namespace CommandSpec

/-- The first item that repeats an earlier one, or one of those `seen` before. -/
def firstRepeatAfter? {α : Type} [BEq α] (seen : List α) : List α → Option α
  | [] => none
  | x :: xs => if seen.contains x then some x else firstRepeatAfter? (x :: seen) xs

/-- The first item of a list that repeats an earlier one. -/
def firstRepeat? {α : Type} [BEq α] (xs : List α) : Option α := firstRepeatAfter? [] xs

theorem firstRepeatAfter?_eq_none_iff {α : Type} [BEq α] [LawfulBEq α] {seen xs : List α} :
    firstRepeatAfter? seen xs = none ↔ xs.Nodup ∧ ∀ x ∈ xs, x ∉ seen := by
  induction xs generalizing seen with
  | nil => simp [firstRepeatAfter?]
  | cons x xs ih =>
    by_cases h : x ∈ seen
    · simp [firstRepeatAfter?, h]
    · simp only [firstRepeatAfter?, List.contains_iff_mem, h, if_false, ih, List.nodup_cons,
        List.mem_cons]
      grind

/-- **Nothing repeats exactly when all items differ.** -/
theorem firstRepeat?_eq_none_iff {α : Type} [BEq α] [LawfulBEq α] {xs : List α} :
    firstRepeat? xs = none ↔ xs.Nodup := by
  simp [firstRepeat?, firstRepeatAfter?_eq_none_iff]

end CommandSpec
