import QueryShell.Json.Basic
import QueryShell.Decimal.Shortest

/-
The compact text of a JSON value. Doubles are written with the fewest digits that read back and
always show a point or an exponent; strings escape quotes, backslashes and control characters.
-/
namespace QueryShell.Json

/-! ## Numbers -/

/-- How doubles are laid out. -/
structure DoubleFormat where
  /-- The least decimal exponent written positionally. -/
  leastPositional : Int
  /-- The first decimal exponent that is too great to be written positionally. -/
  firstScientific : Int
deriving Repr

/-- Decimal exponents from -5 to 15 are written positionally, others in scientific form with an
explicit sign. -/
def doubleFormat : DoubleFormat := ⟨-5, 16⟩

/-- The digits of a natural number. -/
def digits (n : Nat) : List Char :=
  Nat.toDigits 10 n

/-- The text of the positive decimal `k · 10^e`. -/
def decimalChars (format : DoubleFormat) (k : Nat) (e : Int) : List Char :=
  let ds := digits k
  let exponent : Int := ds.length + e - 1
  if format.leastPositional ≤ exponent ∧ exponent < format.firstScientific then
    if 0 ≤ e then ds ++ List.replicate e.toNat '0' ++ ['.', '0']
    else if 0 ≤ exponent then
      ds.take (exponent.toNat + 1) ++ '.' :: ds.drop (exponent.toNat + 1)
    else '0' :: '.' :: (List.replicate (-exponent - 1).toNat '0' ++ ds)
  else
    let significand := match ds with
      | d :: more@(_ :: _) => d :: '.' :: more
      | ds => ds
    significand ++ 'e' :: (if exponent < 0 then '-' else '+') :: digits exponent.natAbs

/-- The text of a double. -/
def doubleChars (x : Decimal.Double) : List Char :=
  let magnitude :=
    if x.isZero then ['0', '.', '0']
    else
      let (k, e) := x.shortest
      decimalChars doubleFormat k e
  if x.negative then '-' :: magnitude else magnitude

/-- The text of an integer. -/
def intChars (n : Int) : List Char :=
  if n < 0 then '-' :: digits n.natAbs else digits n.natAbs

/-! ## Strings -/

/-- A lower-case hexadecimal digit. -/
def hexDigit (n : Nat) : Char :=
  if n < 10 then Char.ofNat (48 + n) else Char.ofNat (87 + n)

/-- The text of one character inside a string. -/
def escapeChar (c : Char) : List Char :=
  match c with
  | '"' => ['\\', '"']
  | '\\' => ['\\', '\\']
  | '\n' => ['\\', 'n']
  | '\r' => ['\\', 'r']
  | '\t' => ['\\', 't']
  | '\x08' => ['\\', 'b']
  | '\x0c' => ['\\', 'f']
  | c =>
    if c.toNat < 0x20 then ['\\', 'u', '0', '0', hexDigit (c.toNat / 16), hexDigit (c.toNat % 16)]
    else [c]

/-- The text of a string, quotes included. -/
def stringChars (s : String) : List Char :=
  '"' :: s.toList.flatMap escapeChar ++ ['"']

/-! ## Values -/

mutual

/-- The text of a value. -/
def chars : Json → List Char
  | .null => ['n', 'u', 'l', 'l']
  | .bool true => ['t', 'r', 'u', 'e']
  | .bool false => ['f', 'a', 'l', 's', 'e']
  | .int n => intChars n
  | .double x => doubleChars x
  | .string s => stringChars s
  | .array [] => ['[', ']']
  | .array (v :: rest) => '[' :: (chars v ++ itemChars rest)
  | .object [] => ['\x7b', '\x7d']
  | .object ((k, v) :: rest) => '\x7b' :: (stringChars k ++ ':' :: (chars v ++ memberChars rest))

/-- The text of the items after the first, and of the closing bracket. -/
def itemChars : List Json → List Char
  | [] => [']']
  | v :: rest => ',' :: (chars v ++ itemChars rest)

/-- The text of the members after the first, and of the closing brace. -/
def memberChars : List (String × Json) → List Char
  | [] => ['\x7d']
  | (k, v) :: rest => ',' :: (stringChars k ++ ':' :: (chars v ++ memberChars rest))

end

/-- The compact text of a value. -/
def text (v : Json) : String :=
  String.ofList (chars v)

/-- The compact text of the object with the given members. -/
def membersText (members : List (String × Json)) : String :=
  text (.object members)

end QueryShell.Json
