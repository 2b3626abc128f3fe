import QueryShell.Http.Domain.Label

/-
Domain names in ASCII. A name is brought to its usual spelling and cut into labels; each label that
is not ASCII is written by its code. Where some label is written from right to left, each label has
to be read in one direction.
-/
namespace QueryShell.Http.Domain

/-- The labels of a name. -/
def labels? (name : List Char) : Option (List (List Char)) := do
  let cs ← usual? name
  let labels ← if cs.any forbidden then none else (Text.cutAt '.' cs).mapM label?
  if labels.any hasRight && !labels.all isReadable then none else return labels

/-- A name in ASCII; `none` if it is no domain name. -/
def ascii? (name : List Char) : Option (List Char) :=
  (labels? name).map fun labels => ['.'].intercalate (labels.map labelText)

end QueryShell.Http.Domain
