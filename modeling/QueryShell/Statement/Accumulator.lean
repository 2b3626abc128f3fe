import QueryShell.Text.Blank
import QueryShell.Text.Line

/-
Statements out of physical lines. A query ends at a `;` outside quotes, comments and brackets; a
line whose first visible character is `:` is a command and ends with its line. `Accumulator.feed`
takes text in, hands out the statements it completed, in order, and keeps the rest.

The lexical state stands in the types: a blank piece has no mode at all, only plain text looks back
at a slash or a backslash, only a quoted literal can be escaped, and only a block comment looks
back at a star.
-/
namespace QueryShell.Statement

/-- The character that ends a query. -/
def terminator : Char := ';'

/-- The first character of a command. -/
def commandMark : Char := ':'

/-- What the character before means to the next one in plain query text. -/
inductive Look where
  | nothing
  /-- A backslash that is itself unescaped: the next character opens no literal and no comment. -/
  | escape
  /-- A slash that may open a comment. -/
  | slash
deriving DecidableEq, Repr

/-- The lexical mode inside a query. -/
inductive Mode where
  | plain (look : Look)
  | quoted (close : Char) (escaped : Bool)
  | lineComment
  | blockComment (afterStar : Bool)
deriving DecidableEq, Repr

/-- How far the buffered piece has come. -/
inductive Stage where
  /-- Only blank characters so far; a `fresh` piece is not joined to a line before it. -/
  | blank (fresh : Bool)
  | command
  /-- A query, inside `depth` open brackets. -/
  | query (depth : Nat) (mode : Mode)
deriving DecidableEq, Repr

/-- Text that has been read but not yet handed out as a statement. -/
structure Accumulator where
  buffer : String := ""
  stage : Stage := .blank true
deriving DecidableEq, Repr

namespace Accumulator

/-- Nothing has been read. -/
def empty : Accumulator := {}

/-- An unterminated statement with visible text is buffered. -/
def hasPendingText (a : Accumulator) : Bool :=
  match a.stage with
  | .blank _ => false
  | _ => true

end Accumulator

/-- The quote characters of the query language. -/
def isQuote (c : Char) : Bool :=
  c == '\'' || c == '"' || c == '\x60'

/-- Counts a bracket, or ends the query (`none`) at a terminator outside all brackets. A closing
bracket without an opening one is ignored. -/
def countBracket (depth : Nat) (c : Char) : Option Nat :=
  if c == '(' || c == '[' || c == '{' then some (depth + 1)
  else if c == ')' || c == ']' || c == '}' then some (depth - 1)
  else if c == terminator && depth == 0 then none
  else some depth

/-- One more character of plain query text. Brackets and the terminator count even after a
backslash; quotes, slashes and further backslashes do not. -/
def Look.next (look : Look) (depth : Nat) (c : Char) : Option (Nat × Mode) :=
  if look = .escape then
    (countBracket depth c).map (·, .plain .nothing)
  else if c == '\\' then some (depth, .plain .escape)
  else if isQuote c then some (depth, .quoted c false)
  else if c == '/' then
    some (depth, if look = .slash then .lineComment else .plain .slash)
  else if c == '*' && look = .slash then some (depth, .blockComment false)
  else (countBracket depth c).map (·, .plain .nothing)

/-- One more character of a query: the depth and mode after it, or `none` if it ends the query. -/
def Mode.next (depth : Nat) : Mode → Char → Option (Nat × Mode)
  | .plain look, c => look.next depth c
  | .quoted close escaped, c =>
    if escaped then some (depth, .quoted close false)
    else if c == '\\' then some (depth, .quoted close true)
    else if c == close then some (depth, .plain .nothing)
    else some (depth, .quoted close false)
  | .lineComment, c => some (depth, if c == '\n' then .plain .nothing else .lineComment)
  | .blockComment afterStar, c =>
    some (depth, if afterStar && c == '/' then .plain .nothing else .blockComment (c == '*'))

/-- One more character of any piece: the stage after it, or `none` if it ends a query. The first
visible character decides between a command and a query. -/
def Stage.next : Stage → Char → Option Stage
  | .blank fresh, c =>
    if Text.isBlank c then some (.blank fresh)
    else if c == commandMark then some .command
    else ((Mode.plain .nothing).next 0 c).map fun (depth, mode) => .query depth mode
  | .command, _ => some .command
  | .query depth mode, c => (mode.next depth c).map fun (depth, mode) => .query depth mode

namespace Accumulator

/-- Takes in one character. What follows a finished query on its line starts the next piece, onto
which later lines are joined. -/
def push (a : Accumulator) (c : Char) : Accumulator × List String :=
  let buffer := a.buffer.push c
  match a.stage.next c with
  | some stage => ({ buffer, stage }, [])
  | none => ({ buffer := "", stage := .blank false }, [buffer])

/-- Takes in characters one after the other. -/
def pushAll : Accumulator → List Char → Accumulator × List String
  | a, [] => (a, [])
  | a, c :: cs =>
    let (a, out) := a.push c
    let (a, outs) := a.pushAll cs
    (a, out ++ outs)

/-- The piece is joined to the line before it, if there is one. -/
def joinLine (a : Accumulator) : Accumulator × List String :=
  match a.stage with
  | .blank true => ({ a with stage := .blank false }, [])
  | _ => a.push '\n'

/-- A command ends with its line, and that line's end belongs to it. -/
def endLine (a : Accumulator) : Accumulator × List String :=
  match a.stage with
  | .command => (empty, [a.buffer])
  | _ => (a, [])

/-- Takes in one physical line. Lines of one piece are joined by line feeds; a blank line before
the first visible character starts afresh. -/
def feedLine (a : Accumulator) (line : String) : Accumulator × List String :=
  if !a.hasPendingText && Text.allBlank line then (empty, [])
  else
    let (a, joined) := a.joinLine
    let (a, outs) := a.pushAll line.toList
    let (a, last) := a.endLine
    (a, joined ++ outs ++ last)

/-- Takes in physical lines one after the other. -/
def feedLines : Accumulator → List String → Accumulator × List String
  | a, [] => (a, [])
  | a, line :: rest =>
    let (a, out) := a.feedLine line
    let (a, outs) := a.feedLines rest
    (a, out ++ outs)

/-- Takes in a text of one or more lines; the empty text counts as one empty line. -/
def feed (a : Accumulator) (text : String) : Accumulator × List String :=
  if text.isEmpty then a.feedLine "" else a.feedLines (Text.lines text)

end Accumulator

end QueryShell.Statement
