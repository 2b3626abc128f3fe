/-
Finite binary doubles as exact numbers `±m · 2^q`, and rounding of ratios to them. Products and
quotients are formed exactly and rounded once, a tie going to the even significand.
-/
namespace QueryShell.Decimal

/-- A finite double: sign, significand and exponent of the unit in the last place. The significand
has 53 bits, or the exponent is the least one. -/
structure Double where
  negative : Bool
  significand : Nat
  exponent : Int
deriving DecidableEq, Repr

namespace Double

/-- The least exponent of a unit in the last place. -/
def leastExponent : Int := -1074

/-- The greatest exponent of a unit in the last place. -/
def greatestExponent : Int := 971

/-- Zero, with a sign. -/
def zero (negative : Bool) : Double := ⟨negative, 0, leastExponent⟩

def isZero (x : Double) : Bool := x.significand == 0

def neg (x : Double) : Double := { x with negative := !x.negative }

end Double

/-- The quotient rounded to a natural number, a half going to the even neighbour. -/
def roundDiv (num den : Nat) : Nat :=
  let q := num / den
  let r := num % den
  if 2 * r < den then q else if den < 2 * r then q + 1 else q + q % 2

/-- The ratio divided by a power of two. -/
def scale (num den : Nat) (e : Int) : Nat × Nat :=
  if 0 ≤ e then (num, den * Nat.pow 2 e.toNat) else (num * Nat.pow 2 (-e).toNat, den)

/-- The greatest `e` with `2^e ≤ num / den`, for a positive ratio. -/
def floorLog2 (num den : Nat) : Int :=
  let e : Int := (num.log2 : Int) - (den.log2 : Int)
  let (a, b) := scale num den e
  if b ≤ a then e else e - 1

namespace Double

/-- The double nearest to a ratio, or `none` when it is too great. -/
def ofRatio? (num den : Nat) : Option Double :=
  if num = 0 then some (zero false)
  else
    let q := max (floorLog2 num den - 52) leastExponent
    let (a, b) := scale num den q
    let m := roundDiv a b
    let (m, q) := if m = Nat.pow 2 53 then (Nat.pow 2 52, q + 1) else (m, q)
    if q ≤ greatestExponent then some ⟨false, m, q⟩ else none

/-- The magnitude as a ratio. -/
def ratio (x : Double) : Nat × Nat :=
  if 0 ≤ x.exponent then (x.significand * Nat.pow 2 x.exponent.toNat, 1)
  else (x.significand, Nat.pow 2 (-x.exponent).toNat)

/-- The rounded product of two magnitudes. -/
def mul? (x y : Double) : Option Double :=
  let (a, b) := x.ratio
  let (c, d) := y.ratio
  ofRatio? (a * c) (b * d)

/-- The rounded quotient of two magnitudes. -/
def div? (x y : Double) : Option Double :=
  let (a, b) := x.ratio
  let (c, d) := y.ratio
  ofRatio? (a * d) (b * c)

end Double

end QueryShell.Decimal
