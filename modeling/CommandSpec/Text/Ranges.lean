/-!
# Text/Ranges — classes of characters as lists of code point ranges

A character class past ASCII is data: an ascending list of inclusive ranges.  `inRanges` asks
whether a character lies in one of them.
-/

namespace CommandSpec.Text

/-- Whether the code point of `c` lies in one of the inclusive ranges. -/
def inRanges (ranges : List (Nat × Nat)) (c : Char) : Bool :=
  ranges.any fun r => r.1 ≤ c.toNat && c.toNat ≤ r.2

/-- **Membership is membership in some range.** -/
theorem inRanges_iff {ranges : List (Nat × Nat)} {c : Char} :
    inRanges ranges c = true ↔ ∃ r ∈ ranges, r.1 ≤ c.toNat ∧ c.toNat ≤ r.2 := by
  simp [inRanges]

end CommandSpec.Text
