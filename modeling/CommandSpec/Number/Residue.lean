/-!
# Number/Residue — numbers modulo a Mersenne prime

Numbers of different kinds that are equal are told to be alike by their **residue**, a whole number
below `2 ^ 61 - 1` under the sign of the number.  A fraction whose denominator is a power of two has
one too, because two has an inverse (`shiftLeft_mul_inverse`).  A whole number that is small enough
is its own residue (`residue_intCast`).
-/

namespace CommandSpec.Number

/-- The prime that residues are taken by, `2 ^ 61 - 1`. -/
def modulus : Nat := 1 <<< 61 - 1

/-- The inverse of `2 ^ k` modulo the prime: `2 ^ 61` is one more than the prime. -/
def inverseOfTwoPow (k : Nat) : Nat := 1 <<< (61 - k % 61)

/-- **The residue of a number** whose denominator is a power of two. -/
def residue (x : Rat) : Int :=
  let r := x.num.natAbs * inverseOfTwoPow x.den.log2 % modulus
  if x.num < 0 then -r else r

/-- Dividing by a power of two undoes multiplying by it. -/
theorem shiftLeft_mul_inverse (k : Nat) : 1 <<< k * inverseOfTwoPow k % modulus = 1 := by
  have hk : k + (61 - k % 61) = 61 * (k / 61 + 1) := by omega
  rw [inverseOfTwoPow, Nat.one_shiftLeft, Nat.one_shiftLeft, ← Nat.pow_add, hk, Nat.pow_mul,
    Nat.pow_mod]
  change Nat.pow 1 (k / 61 + 1) % modulus = 1
  rw [show Nat.pow 1 (k / 61 + 1) = 1 from Nat.one_pow _]
  rfl

/-- A whole number below the prime is its own residue. -/
theorem residue_intCast {n : Int} (h : n.natAbs < modulus) : residue n = n := by
  have h61 : inverseOfTwoPow 0 % modulus = 1 := rfl
  have hr : n.natAbs * inverseOfTwoPow 0 % modulus = n.natAbs := by
    rw [Nat.mul_mod, h61, Nat.mul_one, Nat.mod_mod, Nat.mod_eq_of_lt h]
  have hd : (n : Rat).den.log2 = 0 := by rw [Rat.den_intCast, Nat.log2_def]; rfl
  simp only [residue, hd, Rat.num_intCast, hr]
  split <;> omega

end CommandSpec.Number
