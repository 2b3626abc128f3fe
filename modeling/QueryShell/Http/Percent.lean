import QueryShell.Text.Utf8

/-
Percent encoding: characters that may not stand for themselves in a part of a URL are written as
their UTF-8 bytes in hexadecimal. Which ones these are differs from part to part.
-/
namespace QueryShell.Http.Percent

/-- A hexadecimal digit in upper case. -/
def hexDigit (n : Nat) : Char :=
  if n < 10 then Char.ofNat (48 + n) else Char.ofNat (55 + n)

/-- The code of a byte. -/
def encodeByte (b : Nat) : List Char :=
  ['%', hexDigit (b / 16 % 16), hexDigit (b % 16)]

/-- Encodes the characters of a set. -/
def encode (set : Char → Bool) (cs : List Char) : List Char :=
  cs.flatMap fun c => if set c then (Text.Utf8.encodeChar c).flatMap encodeByte else [c]

/-- The value of a hexadecimal digit. -/
def hexValue? (c : Char) : Option Nat :=
  if '0' ≤ c ∧ c ≤ '9' then some (c.toNat - 48)
  else if 'a' ≤ c ∧ c ≤ 'f' then some (c.toNat - 87)
  else if 'A' ≤ c ∧ c ≤ 'F' then some (c.toNat - 55)
  else none

/-- The bytes of an encoded text. A percent sign without two digits stands for itself. -/
def decode : List Char → List UInt8
  | '%' :: a :: b :: rest =>
    match hexValue? a, hexValue? b with
    | some m, some n => UInt8.ofNat (m * 16 + n) :: decode rest
    | _, _ => UInt8.ofNat '%'.toNat :: decode (a :: b :: rest)
  | c :: rest => (Text.Utf8.encodeChar c).map UInt8.ofNat ++ decode rest
  | [] => []

/-! ## Sets -/

/-- Controls and everything beyond ASCII. -/
def controls (c : Char) : Bool :=
  c.toNat < 0x20 || 0x7e < c.toNat

/-- Encoded in a fragment. -/
def inFragment (c : Char) : Bool :=
  controls c || c == ' ' || c == '"' || c == '<' || c == '>' || c == '\x60'

/-- Encoded in a path. -/
def inPath (c : Char) : Bool :=
  inFragment c || c == '#' || c == '?' || c == '\x7b' || c == '\x7d'

/-- Encoded in one segment of a path, so that it stays one segment. -/
def inSegment (c : Char) : Bool :=
  inPath c || c == '/' || c == '\\' || c == '%'

/-- Encoded in a query. -/
def inQuery (c : Char) : Bool :=
  controls c || c == ' ' || c == '"' || c == '#' || c == '<' || c == '>' || c == '\''

end QueryShell.Http.Percent
