import QueryShell.Program.Basic

/-
The part of a connection that an interrupt may touch while an operation is under way: the driver,
the session, and two flags. An interrupt resets the session and interrupts the driver; of an open
transaction it only asks that it be discarded, and the connection does so at its next operation.
-/
namespace QueryShell

/-- The live driver and session of a connection. -/
structure Link where
  driver? : Option Driver.Ref := none
  session? : Option Driver.SessionRef := none
  transactionOpen : Bool := false
  /-- An interrupt found a transaction open. -/
  discardRequested : Bool := false
deriving DecidableEq, Repr

namespace Link

/-- Asks for an open transaction to be discarded. -/
def requestDiscard (l : Link) : Link :=
  if l.transactionOpen then { l with discardRequested := true } else l

/-- Gives up what is under way on the session and on the driver. -/
def reset : Program Link Unit := do
  modify requestDiscard
  if let some session := (← get).session? then
    if let .error e ← Program.driver (.resetSession session) then
      Program.warn .reset s!"Failed to reset session: {e.message}"
  if let some driver := (← get).driver? then
    Program.driver (.interrupt driver)

/-- Lets the driver serve requests again after a reset. -/
def clear : Program Link Unit := do
  if let some driver := (← get).driver? then
    Program.driver (.clearInterrupt driver)

end Link

end QueryShell
