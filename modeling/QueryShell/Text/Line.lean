/-
Physical lines. A text is cut at its line feeds; a carriage return directly before a line feed
belongs to the line end, any other is part of the line, and there is no empty line after a final
line feed. `readLine` takes one line off a text under the same rule.
-/
namespace QueryShell.Text

/-- Takes a carriage return off the end of a line given in reverse. -/
def dropReturn : List Char → List Char
  | '\r' :: rest => rest
  | line => line

/-- Cuts off the first physical line, or `none` when no text is left. -/
def readLine (text : List Char) : Option (List Char × List Char) :=
  match text with
  | [] => none
  | _ =>
    match text.span (· ≠ '\n') with
    | (line, []) => some (line, [])
    | (line, _ :: rest) => some ((dropReturn line.reverse).reverse, rest)

/-- The physical lines of a text; `line` holds the current one in reverse. -/
def linesFrom (line : List Char) : List Char → List (List Char)
  | [] => if line.isEmpty then [] else [line.reverse]
  | '\n' :: rest => (dropReturn line).reverse :: linesFrom [] rest
  | c :: rest => linesFrom (c :: line) rest

/-- The physical lines of a text. -/
def lines (s : String) : List String :=
  (linesFrom [] s.toList).map String.ofList

end QueryShell.Text
