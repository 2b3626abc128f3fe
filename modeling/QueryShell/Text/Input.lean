import QueryShell.Text.Line
import QueryShell.Text.Utf8

/-
Physical lines out of bytes. A line is taken off with its end, whether or not it is UTF-8.
-/
namespace QueryShell.Text

/-- The byte that ends a line. -/
def lineFeed : UInt8 := 10

/-- Cuts bytes behind the first line feed. -/
def cutLineBytes (bytes : List UInt8) : List UInt8 × List UInt8 :=
  match bytes.span (· != lineFeed) with
  | (line, []) => (line, [])
  | (line, b :: rest) => (line ++ [b], rest)

/-- Takes the first physical line off, or `none` when no bytes are left. The line itself is `none`
if it is not UTF-8. -/
def readLineBytes (bytes : List UInt8) : Option (Option (List Char) × List UInt8) :=
  if bytes.isEmpty then none
  else
    let (line, rest) := cutLineBytes bytes
    some ((Utf8.text? line).map fun chars => ((readLine chars).map Prod.fst).getD [], rest)

end QueryShell.Text
