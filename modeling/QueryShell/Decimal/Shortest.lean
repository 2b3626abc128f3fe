import QueryShell.Decimal.Double

/-
The shortest decimal that reads back as a given double: of the grids with 1, 2, … 17 digits the
first one with a point in the double's rounding interval, and on it the point nearest to the
double. A tie between two such points goes to the even one.
-/
namespace QueryShell.Decimal

/-- Compares the ratio `num / den` with `k · 10^e`. -/
def compareGrid (num den k : Nat) (e : Int) : Ordering :=
  if 0 ≤ e then compare num (k * Nat.pow 10 e.toNat * den)
  else compare (num * Nat.pow 10 (-e).toNat) (k * den)

/-- The number of decimal digits. -/
def digitCount (n : Nat) : Nat :=
  (Nat.toDigits 10 n).length

/-- The greatest `e` with `10^e ≤ num / den`, for a positive ratio. -/
def floorLog10 (num den : Nat) : Int :=
  let e : Int := (digitCount num : Int) - (digitCount den : Int)
  if compareGrid num den 1 e = .lt then e - 1 else e

namespace Double

/-- The reals that round to the double, as a quarter of a unit in the last place: the lower end,
the upper end, and whether the ends belong to it. Below a power of two the gap is half as wide. -/
def interval (x : Double) : Nat × Nat × Bool :=
  let m := x.significand
  let low := if m = Nat.pow 2 52 ∧ x.exponent ≠ leastExponent then 4 * m - 1 else 4 * m - 2
  (low, 4 * m + 2, m % 2 == 0)

/-- The decimal `k · 10^e` rounds to the double. -/
def covers (x : Double) (k : Nat) (e : Int) : Bool :=
  let (low, high, ends) := x.interval
  let (num, den) := ratio { x with significand := low, exponent := x.exponent - 2 }
  let (num', den') := ratio { x with significand := high, exponent := x.exponent - 2 }
  (match compareGrid num den k e with
    | .lt => true
    | .eq => ends
    | .gt => false) &&
  (match compareGrid num' den' k e with
    | .gt => true
    | .eq => ends
    | .lt => false)

/-- The point of the grid of step `10^e` that is nearest to the double among those that round to
it. -/
def onGrid? (x : Double) (e : Int) : Option Nat :=
  let (num, den) := x.ratio
  let (a, b) := if 0 ≤ e then (num, den * Nat.pow 10 e.toNat) else (num * Nat.pow 10 (-e).toNat, den)
  let k := a / b
  match x.covers k e, x.covers (k + 1) e with
  | true, true => some (roundDiv a b)
  | true, false => some k
  | false, true => some (k + 1)
  | false, false => none

/-- The first grid with a point in the interval, from `digits` digits on. -/
def search (x : Double) (top : Int) : Nat → Nat → Nat × Int
  | 0, _ => (0, 0)
  | fuel + 1, digits =>
    let e := top - digits + 1
    match x.onGrid? e with
    | some k => (k, e)
    | none => x.search top fuel (digits + 1)

/-- Takes the trailing zeros off a decimal. -/
def stripZeros : Nat → Nat → Int → Nat × Int
  | 0, k, e => (k, e)
  | fuel + 1, k, e => if k ≠ 0 ∧ k % 10 = 0 then stripZeros fuel (k / 10) (e + 1) else (k, e)

/-- The digits and exponent of the shortest decimal for a double that is not zero. Seventeen
digits always suffice. -/
def shortest (x : Double) : Nat × Int :=
  let (num, den) := x.ratio
  let (k, e) := x.search (floorLog10 num den) 17 1
  stripZeros (digitCount k) k e

end Double

end QueryShell.Decimal
