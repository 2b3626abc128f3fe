import QueryShell.Json.Basic
import QueryShell.Json.Tree

/-
Values out of JSON texts. Strings must be proper Unicode, numbers must not be too great, and arrays
and objects nest at most 127 deep.

A number that is not an exact integer is read in two steps that each round: the digits are collected
into a 64-bit significand, further ones only count, and the significand is then multiplied by, or
divided by, a power of ten that is itself a double.
-/
namespace QueryShell.Json

/-! ## Numbers -/

/-- One more digit on the significand, while it fits 64 bits. -/
def appendDigit? (significand d : Nat) : Option Nat :=
  let n := significand * 10 + d
  if n < Nat.pow 2 64 then some n else none

/-- Collects digits before the point. From the first digit that does not fit, digits only raise the
power of ten. -/
def collectWhole (significand : Nat) : List Nat → Nat × Nat
  | [] => (significand, 0)
  | d :: ds =>
    match appendDigit? significand d with
    | some n => collectWhole n ds
    | none => (significand, ds.length + 1)

/-- Collects digits after the point: the significand and the number of digits taken. From the first
digit that does not fit, digits are dropped. -/
def collectFraction (significand taken : Nat) : List Nat → Nat × Nat
  | [] => (significand, taken)
  | d :: ds =>
    match appendDigit? significand d with
    | some n => collectFraction n (taken + 1) ds
    | none => (significand, taken)

/-- The greatest power of ten that is a double. -/
def greatestPower : Nat := 308

/-- The power of ten as a double. -/
def powerOfTen (e : Nat) : Decimal.Double :=
  (Decimal.Double.ofRatio? (Nat.pow 10 e) 1).getD (.zero false)

/-- Divides by a power of ten, in several steps if it is too great for one. -/
def divPower (x : Decimal.Double) (e : Nat) : Option Decimal.Double :=
  if e ≤ greatestPower then x.div? (powerOfTen e)
  else if x.isZero then some x
  else (x.div? (powerOfTen greatestPower)).bind (divPower · (e - greatestPower))
termination_by e
decreasing_by simp only [greatestPower] at *; omega

/-- The double for `significand · 10^e`, or `none` when it is too great. -/
def scaledDouble? (significand : Nat) (e : Int) : Option Decimal.Double :=
  (Decimal.Double.ofRatio? significand 1).bind fun x =>
    if x.isZero then some x
    else if 0 ≤ e then
      if e.toNat ≤ greatestPower then x.mul? (powerOfTen e.toNat) else none
    else divPower x (-e).toNat

/-- The greatest exponent that is read as a number. -/
def greatestExponent : Nat := Nat.pow 2 31 - 1

/-- The digits as a number, or `none` when it is over the greatest exponent. -/
def exponentValue? (ds : List Nat) : Option Nat :=
  ds.foldlM (fun n d =>
    let n := n * 10 + d
    if n ≤ greatestExponent then some n else none) 0

/-- The magnitude of a number that is not an exact integer. -/
def magnitude? (n : NumberText) : Option Decimal.Double :=
  let (significand, raised) := collectWhole 0 n.whole
  let (significand, taken) := collectFraction significand 0 (n.fraction.getD [])
  let e : Int := raised - taken
  match n.exponent with
  | none => scaledDouble? significand e
  | some (negative, ds) =>
    match exponentValue? ds with
    | some k => scaledDouble? significand (if negative then e - k else e + k)
    | none => if significand = 0 ∨ negative then some (.zero false) else none

/-- The number as an integer that 64 bits can hold. A negative zero is not one. -/
def exactInt? (n : NumberText) : Option Int :=
  if n.fraction.isSome || n.exponent.isSome then none
  else
    match collectWhole 0 n.whole with
    | (k, 0) =>
      if !n.negative then some k
      else if 0 < k ∧ k ≤ Nat.pow 2 63 then some (-(k : Int))
      else none
    | _ => none

/-- The value of a number. -/
def numberValue? (n : NumberText) : Option Json :=
  match exactInt? n with
  | some k => some (.int k)
  | none => (magnitude? n).map fun x => .double (if n.negative then x.neg else x)

/-! ## Strings -/

/-- The characters of a string, or `none` if its units do not pair up. Characters that `broken`
holds for stand for what was no text to begin with. -/
def stringValue? (broken : Char → Bool) : List StringPiece → Option (List Char)
  | [] => some []
  | .char c :: rest =>
    if broken c then none else (stringValue? broken rest).map (c :: ·)
  | .unit high :: rest =>
    if 0xd800 ≤ high ∧ high ≤ 0xdbff then
      match rest with
      | .unit low :: rest =>
        if 0xdc00 ≤ low ∧ low ≤ 0xdfff then
          (stringValue? broken rest).map
            (Char.ofNat (0x10000 + (high - 0xd800) * 0x400 + (low - 0xdc00)) :: ·)
        else none
      | _ => none
    else if 0xdc00 ≤ high ∧ high ≤ 0xdfff then none
    else (stringValue? broken rest).map (Char.ofNat high :: ·)

/-! ## Values -/

/-- How deep arrays and objects may nest. -/
def greatestDepth : Nat := 127

mutual

/-- The value of a tree inside which arrays and objects may nest `depth` deep. -/
def Tree.value? (broken : Char → Bool) (depth : Nat) : Tree → Option Json
  | .null => some .null
  | .bool b => some (.bool b)
  | .number n => numberValue? n
  | .string pieces => (stringValue? broken pieces).map fun cs => .string (String.ofList cs)
  | .array items =>
    if depth = 0 then none else (itemValues? broken (depth - 1) items).map .array
  | .object members =>
    if depth = 0 then none
    else (memberValues? broken (depth - 1) members).map fun ms => .object (sortMembers ms)

/-- The values of the items of an array. -/
def itemValues? (broken : Char → Bool) (depth : Nat) : List Tree → Option (List Json)
  | [] => some []
  | t :: rest =>
    (t.value? broken depth).bind fun v =>
      (itemValues? broken depth rest).map (v :: ·)

/-- The values of the members of an object, in their order. -/
def memberValues? (broken : Char → Bool) (depth : Nat) :
    List (List StringPiece × Tree) → Option (List (String × Json))
  | [] => some []
  | (key, t) :: rest =>
    (stringValue? broken key).bind fun key =>
      (t.value? broken depth).bind fun v =>
        (memberValues? broken depth rest).map ((String.ofList key, v) :: ·)

end

/-- Reads a text that is one JSON value. -/
def parse? (s : String) : Option Json :=
  (Tree.read? s.toList).bind (Tree.value? (fun _ => false) greatestDepth)

end QueryShell.Json
