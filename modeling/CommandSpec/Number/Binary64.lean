/-!
# Number/Binary64 — rounding a rational number to the nearest double

Scores and decimal numbers are held as doubles.  The value of a double is a rational number:
`nearest` rounds an exact result to the closest number with fifty-three significant binary digits, a
tie to the even neighbour, and every later comparison is exact.  Where more can be seen than a
value, a number is held as a `Double`: it keeps its sign apart from its magnitude, because zero has
a sign too, and past the largest magnitude it is infinite.
-/

namespace CommandSpec.Number

/-- The closest integer; a half goes to the even neighbour. -/
def roundHalfEven (x : Rat) : Int :=
  let below := x.floor
  let part := x - below
  if part < 1 / 2 then below
  else if 1 / 2 < part then below + 1
  else if below % 2 = 0 then below
  else below + 1

/-- The exponent `e` of a positive number: it lies from `2 ^ e` up to the double of that. -/
def binaryExponent (x : Rat) : Int :=
  let e : Int := (x.num.natAbs.log2 : Int) - (x.den.log2 : Int)
  if x < (2 : Rat) ^ e then e - 1 else e

/-- The distance of neighbouring doubles around a number; it shrinks no further below
`2 ^ -1022`. -/
def spacing (x : Rat) : Rat := (2 : Rat) ^ (max (binaryExponent x.abs) (-1022) - 52)

/-- **The double nearest to a number.**  The exponent has no upper limit. -/
def nearest (x : Rat) : Rat :=
  if x = 0 then 0 else roundHalfEven (x / spacing x) * spacing x

/-- A double: a finite number, of which zero has a sign too, an infinity, or no number at all. -/
inductive Double where
  | finite (isNegative : Bool) (magnitude : Rat)
  | infinite (isNegative : Bool)
  | nan
  deriving DecidableEq, Repr

namespace Double

/-- The magnitude from which on a double is infinite. -/
def limit : Rat := (2 : Rat) ^ (1024 : Nat)

/-- The double nearest to a magnitude with a sign. -/
def nearest (isNegative : Bool) (magnitude : Rat) : Double :=
  let m := Number.nearest magnitude.abs
  if m < limit then finite isNegative m else infinite isNegative

/-- The double nearest to a number; zero has no sign. -/
def ofRat (x : Rat) : Double := nearest (x < 0) x

/-- The number that a finite double stands for. -/
def value? : Double → Option Rat
  | finite isNegative m => some (if isNegative then -m else m)
  | _ => none

/-- Whether a double is one of the two zeros. -/
def isZero (x : Double) : Bool := x.value? = some 0

/-- The text of a sign. -/
def sign (isNegative : Bool) : String := if isNegative then "-" else ""

/-- Both zeros stand for the same number. -/
theorem isZero_finite (isNegative : Bool) (m : Rat) :
    (finite isNegative m).isZero = decide (m = 0) := by
  cases isNegative with
  | false => simp [isZero, value?]
  | true =>
    have : (-m = 0) ↔ m = 0 :=
      ⟨fun h => by rw [← Rat.neg_neg m, h]; rfl, fun h => by rw [h]; rfl⟩
    simp [isZero, value?, this]

end Double

end CommandSpec.Number
