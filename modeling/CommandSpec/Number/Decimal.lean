import CommandSpec.Number.Binary64

/-!
# Number/Decimal — decimal notation

Two notations for doubles.  `fixed` writes a given count of places.  `shortest` writes the fewest
digits that read back as the same double, positionally from `0.0001` up to `10 ^ 16` and with an
exponent beyond.
-/

namespace CommandSpec.Number

/-- The decimal digits of a natural number, with zeros in front up to a width. -/
def paddedDigits (width n : Nat) : String :=
  let digits := toString n
  "".pushn '0' (width - digits.length) ++ digits

/-- A number that is not negative to the given places after the point; a half in the last place goes
to the even digit. -/
def fixedMagnitude (places : Nat) (x : Rat) : String :=
  let unit := Nat.pow 10 places
  let n := (roundHalfEven (x * unit)).toNat
  toString (n / unit) ++ "." ++ paddedDigits places (n % unit)

/-- A double, whose magnitude is written as given. -/
def signed (magnitude : Rat → String) : Double → String
  | .finite isNegative m => Double.sign isNegative ++ magnitude m
  | .infinite isNegative => Double.sign isNegative ++ "inf"
  | .nan => "nan"

/-- A double to the given places after the point. -/
def fixed (places : Nat) (x : Double) : String := signed (fixedMagnitude places) x

/-- The exponent of a positive number in base ten. -/
def decimalExponent (x : Rat) : Int :=
  let e : Int := (toString x.num.natAbs).length - (toString x.den).length
  if x < (10 : Rat) ^ e then e - 1 else e

/-- The integer whose multiple of `unit` is next to the double `x` and reads back as it.  If both
neighbours on the grid of `unit` do, it is the closer one, and of two equally close ones the even
one. -/
def readBack? (x unit : Rat) : Option Nat :=
  let below := (x / unit).floor
  let ok (n : Int) : Bool := nearest (n * unit) = x
  match ok below, ok (below + 1) with
  | true, true => some (roundHalfEven (x / unit)).toNat
  | true, false => some below.toNat
  | false, true => some (below + 1).toNat
  | false, false => none

/-- The fewest significant digits that read back, as an integer and the exponent of its
last digit. -/
def shortestDigits (x : Rat) : Nat × Int :=
  let e := decimalExponent x
  let grids := (List.range 17).map fun (n : Nat) => e - n
  match grids.findSome? fun g => (readBack? x ((10 : Rat) ^ g)).map (·, g) with
  | some found => found
  | none => (0, 0)

/-- The digits of an integer without the zeros at its end, and how many those were. -/
def splitZeros : (fuel n : Nat) → Nat × Nat
  | 0, n => (n, 0)
  | fuel + 1, n =>
    if n ≠ 0 && n % 10 = 0 then
      let r := splitZeros fuel (n / 10)
      (r.1, r.2 + 1)
    else (n, 0)

/-- A positive double in its shortest notation. -/
def shortestPositive (x : Rat) : String :=
  let found := shortestDigits x
  let stripped := splitZeros 20 found.1
  let digits := toString stripped.1
  let last := found.2 + stripped.2
  let point : Int := digits.length + last
  if point ≤ -4 || 16 < point then
    let e := point - 1
    let mantissa := match digits.toList with
      | [d] => String.ofList [d]
      | d :: ds => .ofList (d :: '.' :: ds)
      | [] => ""
    mantissa ++ (if e < 0 then "e-" else "e+") ++ paddedDigits 2 e.natAbs
  else if point ≤ 0 then "0." ++ "".pushn '0' (-point).toNat ++ digits
  else if 0 ≤ last then digits ++ "".pushn '0' last.toNat ++ ".0"
  else .ofList (digits.toList.take point.toNat) ++ "." ++ .ofList (digits.toList.drop point.toNat)

/-- A double in its shortest notation. -/
def shortest (x : Double) : String :=
  signed (fun m => if m = 0 then "0.0" else shortestPositive m) x

end CommandSpec.Number
