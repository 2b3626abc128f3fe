import QueryShell.Text.Utf8

/-
Base64: three bytes as four characters of 64, filled up with equality signs.
-/
namespace QueryShell.Http.Base64

/-- The character of a value below 64. -/
def digit (n : Nat) : Char :=
  if n < 26 then Char.ofNat (65 + n)
  else if n < 52 then Char.ofNat (71 + n)
  else if n < 62 then Char.ofNat (n - 4)
  else if n = 62 then '+'
  else '/'

/-- The text of bytes. -/
def encode : List Nat → List Char
  | a :: b :: c :: rest =>
    let n := a * 65536 + b * 256 + c
    digit (n / 262144) :: digit (n / 4096 % 64) :: digit (n / 64 % 64) :: digit (n % 64) ::
      encode rest
  | [a, b] =>
    let n := a * 65536 + b * 256
    [digit (n / 262144), digit (n / 4096 % 64), digit (n / 64 % 64), '=']
  | [a] =>
    let n := a * 65536
    [digit (n / 262144), digit (n / 4096 % 64), '=', '=']
  | [] => []

end QueryShell.Http.Base64
