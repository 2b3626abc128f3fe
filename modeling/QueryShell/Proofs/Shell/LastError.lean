import QueryShell.Loop.Executor
import QueryShell.Proofs.Program.Printing

/-
What a shell remembers of failures. Only the end of a statement changes the remembered code, whatever
is done for the statement and whatever comes in between; so a shell that remembers a code after a
statement remembered one before it, or the statement has failed.
-/
namespace QueryShell

/-- It has failed, and is no request to exit. -/
def fails : Except Failure Unit → Bool
  | .ok () => false
  | .error e => !e.isExit

namespace Shell

open Program

variable {α : Type}

/-- The remembered code stays as it is. -/
def KeepsError : Interference Shell :=
  fun s _ s' => s'.lastError? = s.lastError?

theorem keepsError_frame : Frame KeepsError where
  refl _ := rfl
  trans h₁ h₂ := h₂.trans h₁

theorem keepsError_call (c : Call) : Obeys KeepsError KeepsError (call c : Program Shell c.Reply) :=
  obeys_call fun hduring _ => hduring

/-- Nothing that is done with the connection changes what the shell remembers. -/
theorem keepsError_onConnection (p : Program Connection α) :
    Obeys KeepsError KeepsError (onConnection p) := by
  refine keepsError_frame.obeys_zoom (fun c s => ?_) keepsError_call p
  rfl

theorem keepsError_tryConnection (p : Attempt Connection Failure α) :
    Obeys KeepsError KeepsError (tryConnection p).run :=
  keepsError_onConnection p.run

/-! ## Printing -/

theorem keepsError_writeLine (sink : Sink) (text : String) :
    Obeys KeepsError KeepsError (Printer.writeLine sink text) :=
  keepsError_frame.obeys_writeLine (fun _ _ => keepsError_call _) (fun _ => keepsError_call _) _ _

theorem keepsError_printIfVerbose (p : Printer) (text : String) :
    Obeys KeepsError KeepsError (p.printIfVerbose text) :=
  keepsError_frame.obeys_printIfVerbose (fun _ _ => keepsError_call _) (fun _ => keepsError_call _) _ _

theorem keepsError_printOutcome (p : Printer) (o : Outcome) :
    Obeys KeepsError KeepsError (p.printOutcome o) :=
  keepsError_frame.obeys_printOutcome (fun _ _ => keepsError_call _) (fun _ => keepsError_call _) _ _

theorem keepsError_print {p : Printer → Program Shell Unit}
    (hp : ∀ printer, Obeys KeepsError KeepsError (p printer)) :
    Obeys KeepsError KeepsError (print p).run :=
  keepsError_frame.attempt_bind keepsError_frame.attempt_get fun s => Attempt.obeys_lift (hp s.printer)

/-! ## Statements -/

theorem keepsError_runQuery (text : String) : Obeys KeepsError KeepsError (runQuery text).run := by
  refine keepsError_frame.attempt_bind keepsError_frame.attempt_get fun s => ?_
  refine keepsError_frame.attempt_bind (keepsError_tryConnection _) fun outcome? => ?_
  cases outcome? with
  | none => exact keepsError_frame.attempt_pure ()
  | some outcome => exact keepsError_print fun _ => keepsError_printOutcome _ _

theorem keepsError_setParameter (name expression : String) :
    Obeys KeepsError KeepsError (setParameter name expression).run := by
  have hevaluate : Obeys KeepsError KeepsError (evaluate expression).run := by
    refine keepsError_frame.attempt_bind keepsError_frame.attempt_get fun s => ?_
    refine keepsError_frame.attempt_bind (keepsError_tryConnection _) fun outcome => ?_
    cases firstValue? outcome with
    | none => exact keepsError_frame.attempt_throw _
    | some value => exact keepsError_frame.attempt_pure value
  have hset (value : Json) : Obeys KeepsError KeepsError
      (do
        modify fun s =>
          { s with parameters := s.parameters.set (Command.unquote (Text.trim name)) value }
        return value : Attempt Shell Failure Json).run :=
    keepsError_frame.attempt_bind (Attempt.obeys_modify fun _ => rfl) fun _ =>
      keepsError_frame.attempt_pure value
  unfold setParameter
  dsimp only
  cases Parameters.literal? expression with
  | some value => exact keepsError_frame.attempt_bind (keepsError_frame.attempt_pure value) hset
  | none => exact keepsError_frame.attempt_bind hevaluate hset

theorem keepsError_runCommand (c : Command) : Obeys KeepsError KeepsError (runCommand c).run := by
  have hlist (lines : List String) : Obeys KeepsError KeepsError
      (lines.forM fun line => print (·.printOut line) : Attempt Shell Failure Unit).run :=
    keepsError_frame.attempt_forM _ (fun _ => keepsError_print fun _ => keepsError_writeLine _ _) lines
  cases c with
  | exit =>
    exact keepsError_frame.attempt_bind (keepsError_print fun _ => keepsError_printIfVerbose _ _)
      fun _ => keepsError_frame.attempt_throw _
  | begin => exact keepsError_tryConnection _
  | commit =>
    exact keepsError_frame.attempt_bind (keepsError_tryConnection _) fun outcomes =>
      keepsError_frame.attempt_forM _ (fun _ => keepsError_print fun _ => keepsError_printOutcome _ _)
        outcomes
  | rollback => exact keepsError_tryConnection _
  | use database => exact keepsError_tryConnection _
  | setParam name value =>
    exact keepsError_frame.attempt_bind (keepsError_setParameter name value) fun _ =>
      keepsError_print fun _ => keepsError_printIfVerbose _ _
  | listParams =>
    exact keepsError_frame.attempt_bind keepsError_frame.attempt_get fun _ => hlist _
  | clearParams => exact Attempt.obeys_modify fun _ => rfl
  | history =>
    exact keepsError_frame.attempt_bind keepsError_frame.attempt_get fun _ => hlist _
  | help topic =>
    cases topic with
    | none => exact keepsError_print fun _ => keepsError_writeLine _ _
    | some topic =>
      unfold runCommand
      dsimp only
      split
      · exact keepsError_print fun _ => keepsError_writeLine _ _
      · exact keepsError_frame.attempt_throw _

theorem keepsError_dispatch (statement : String) :
    Obeys KeepsError KeepsError (dispatch statement).run := by
  unfold dispatch
  split
  · split
    · exact keepsError_runCommand _
    · exact keepsError_frame.attempt_throw _
  · exact keepsError_runQuery statement

/-- A code that is remembered after a statement was remembered before it, or the statement has
failed. -/
theorem execute_lastError {statement : String} {s s' : Shell} {events : List Event}
    {result : Except Failure Unit}
    (h : Runs KeepsError (execute statement).run s events result s') :
    s'.lastError?.isSome → s.lastError?.isSome ∨ fails result := by
  intro hsome
  unfold execute at h
  split at h
  · obtain ⟨-, -, rfl⟩ := Attempt.runs_pure h
    exact .inl hsome
  · obtain ⟨first, _, t, second, hdispatch, hrest, rfl⟩ := Attempt.runs_lift_bind h
    obtain ⟨rfl, rfl, rfl⟩ := Program.runs_pure (Attempt.runs_modify_bind hrest)
    have hkept : t.lastError? = s.lastError? := keepsError_dispatch statement _ _ _ _ hdispatch
    cases result with
    | ok _ => cases hsome
    | error e =>
      cases e with
      | exit code =>
        left
        rw [← hkept]
        exact hsome
      | _ => exact .inr rfl

end Shell

end QueryShell
