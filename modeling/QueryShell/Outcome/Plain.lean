import QueryShell.Query

/-
The plain format: one line for the keys and one per row, values separated by a comma and a blank.
`renderValue` is shared by all formats.
-/
namespace QueryShell.Outcome

/-- What stands between two values of a row. -/
def separator : String := ", "

/-- The text of a value: `NULL`, or compact JSON. -/
def renderValue : Json → String
  | .null => "NULL"
  | v => v.text

/-- The line of a row. -/
def rowLine (row : List Json) : String :=
  separator.intercalate (row.map renderValue)

/-- The keys and rows, a line each; nothing at all when there are no keys. -/
def plain (o : Outcome) : String :=
  if o.keys.isEmpty then ""
  else "\n".intercalate (separator.intercalate o.keys :: o.rows.map rowLine)

/-- The number of rows and the database they came from. -/
def summary (o : Outcome) : String :=
  let n := o.rows.length
  let count := if n = 1 then "1 row" else s!"{n} rows"
  match o.database with
  | none => count
  | some database => s!"{count} (database: {database})"

end QueryShell.Outcome
