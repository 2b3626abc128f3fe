import QueryShell.Proofs.Connection.OwnQueries
import QueryShell.Proofs.Program.Printing
import QueryShell.Shell.Basic

/-
What a shell does about a statement. It asks its connection for one operation at most, changes the
parameters at most once, and talks to the user about it; while it does the reset handle of the
connection may be used. `Executes` has one constructor for each way in which that can go.
-/
namespace QueryShell.Shell

open Program Connection

variable {depth : Nat} {α : Type} {s s' : Shell} {events : List Event} {ps : Parameters}

/-! ## Statements -/

/-- What a statement is to a shell. -/
inductive Meaning where
  | nothing
  | query
  | command (c : Command)
  | misuse (misuse : Command.Misuse)
deriving DecidableEq

/-- The meaning of a statement. -/
def meaning (statement : String) : Meaning :=
  if Text.allBlank statement then .nothing
  else if (Text.trim statement).toList.head? = some Statement.commandMark then
    match Command.parse statement with
    | .ok c => .command c
    | .error m => .misuse m
  else .query

/-- What a shell does about a statement of a meaning. -/
def perform (statement : String) : Meaning → Attempt Shell Failure Unit
  | .nothing => pure ()
  | .query => runQuery statement
  | .command c => runCommand c
  | .misuse m => throw (.refused (.misuse m))

theorem perform_dispatch {statement : String} (h : Text.allBlank statement = false) :
    perform statement (meaning statement) = dispatch statement := by
  unfold meaning dispatch
  rw [h]
  split
  · rename_i hblank
    cases hblank
  split
  · cases Command.parse statement <;> rfl
  · rfl

@[simp]
theorem noteResult_connection (r : Except Failure Unit) (s : Shell) :
    (noteResult r s).connection = s.connection := by
  unfold noteResult
  split <;> rfl

@[simp]
theorem noteResult_parameters (r : Except Failure Unit) (s : Shell) :
    (noteResult r s).parameters = s.parameters := by
  unfold noteResult
  split <;> rfl

/-- Behind what is done about a statement, only the code of its failure is remembered. -/
theorem runs_execute {between : Interference Shell} {statement : String} {r : Except Failure Unit}
    (h : Runs between (execute statement).run s events r s') :
    ∃ t, Runs between (perform statement (meaning statement)).run s events r t ∧
      s'.connection = t.connection ∧ s'.parameters = t.parameters := by
  unfold execute at h
  cases hblank : Text.allBlank statement with
  | true =>
    rw [hblank] at h
    have hnothing : meaning statement = .nothing := by
      unfold meaning
      rw [hblank]
      rfl
    rw [hnothing]
    exact ⟨s', h, rfl, rfl⟩
  | false =>
    rw [hblank] at h
    obtain ⟨first, result, t, second, hdispatch, hrest, rfl⟩ := Attempt.runs_lift_bind h
    have hend := Attempt.runs_modify_bind hrest
    obtain ⟨rfl, rfl, rfl⟩ := Program.runs_pure hend
    rw [perform_dispatch hblank, List.append_nil]
    exact ⟨t, hdispatch, noteResult_connection _ _, noteResult_parameters _ _⟩

/-! ## The connection of a shell -/

/-- Uses of the reset handle while a shell runs. -/
def handling (depth : Nat) : Interference Shell :=
  within Shell.connection (fun connection s => { s with connection }) (handleUses depth)

theorem handling_quiet (depth : Nat) (s : Shell) : handling depth s [] s :=
  ⟨s.connection, handleUses_quiet depth s.connection, rfl⟩

theorem runs_onConnection {p : Program Connection α} {a : α}
    (h : Runs (handling depth) (onConnection p) s events a s') :
    Runs (handleUses depth) p s.connection events a s'.connection ∧
      s' = { s with connection := s'.connection } := by
  refine runs_zoom ?_ ?_ ?_ h
  · exact fun _ _ => rfl
  · exact fun _ => rfl
  · exact fun _ _ _ => rfl

theorem runs_tryConnection {p : Attempt Connection Failure α} {r : Except Failure α}
    (h : Runs (handling depth) (tryConnection p).run s events r s') :
    Runs (handleUses depth) p.run s.connection events r s'.connection ∧
      s' = { s with connection := s'.connection } :=
  runs_onConnection h

/-! ## Talking to the user -/

/-- Nothing is asked of drivers, unless the reset handle is used. -/
structure Talks (s : Shell) (events : List Event) (s' : Shell) : Prop where
  parameters : s'.parameters = s.parameters
  uses : ∃ uses, Undergoes s.connection uses s'.connection
  turns : turns events = []
  transactions : transactions events = []

theorem Talks.refl (s : Shell) : Talks s [] s :=
  ⟨rfl, ⟨[], .refl s.connection⟩, rfl, rfl⟩

theorem Talks.trans {t : Shell} {first second : List Event} (h₁ : Talks s first t)
    (h₂ : Talks t second s') : Talks s (first ++ second) s' := by
  obtain ⟨uses₁, huses₁⟩ := h₁.uses
  obtain ⟨uses₂, huses₂⟩ := h₂.uses
  refine ⟨h₂.parameters.trans h₁.parameters, ⟨_, huses₁.trans huses₂⟩, ?_, ?_⟩
  · rw [turns_append, h₁.turns, h₂.turns]
    rfl
  · rw [transactions_append, h₁.transactions, h₂.transactions]
    rfl

theorem talksFrame : Frame Talks :=
  ⟨Talks.refl, Talks.trans⟩

theorem talks_uses {c : Connection} (h : handleUses depth s.connection events c) :
    Talks s events { s with connection := c } :=
  ⟨rfl, ⟨events, handleUses_undergoes h⟩, turns_handleUses h,
    (handleUses_keeps h : Keeps none _ _ _).transactions⟩

theorem talks_console (call : Console.Call) :
    Obeys (handling depth) Talks (Program.console call) := by
  refine Program.obeys_call fun {s during s'} hduring reply => ?_
  obtain ⟨c, huses, rfl⟩ := hduring
  have hasked : Talks s [.asked (.console call)] s := ⟨rfl, ⟨[], .refl _⟩, rfl, rfl⟩
  have hanswered : Talks { s with connection := c } [.answered (.console call) reply]
      { s with connection := c } := ⟨rfl, ⟨[], .refl _⟩, rfl, rfl⟩
  exact (hasked.trans (talks_uses huses)).trans hanswered

theorem talks_writeLine (sink : Sink) (text : String) :
    Obeys (handling depth) Talks (Printer.writeLine sink text) :=
  talksFrame.obeys_writeLine (fun _ _ => talks_console _) (fun _ => talks_console _) _ _

theorem talks_printIfVerbose (p : Printer) (text : String) :
    Obeys (handling depth) Talks (p.printIfVerbose text) :=
  talksFrame.obeys_printIfVerbose (fun _ _ => talks_console _) (fun _ => talks_console _) _ _

theorem talks_printOutcome (p : Printer) (o : Outcome) :
    Obeys (handling depth) Talks (p.printOutcome o) :=
  talksFrame.obeys_printOutcome (fun _ _ => talks_console _) (fun _ => talks_console _) _ _

/-- Printing does not fail. -/
theorem runs_print {p : Printer → Program Shell Unit} {r : Except Failure Unit}
    (hp : ∀ printer, Obeys (handling depth) Talks (p printer))
    (h : Runs (handling depth) (print p).run s events r s') : r = .ok () ∧ Talks s events s' := by
  have hlift := Attempt.runs_get_bind h
  obtain ⟨_, rfl, hrun⟩ := Attempt.runs_lift hlift
  exact ⟨rfl, hp _ _ _ _ _ hrun⟩

theorem runs_forM_print {p : α → Printer → Program Shell Unit} {r : Except Failure Unit}
    (hp : ∀ a printer, Obeys (handling depth) Talks (p a printer)) (l : List α)
    (h : Runs (handling depth) (l.forM fun a => print (p a)).run s events r s') :
    r = .ok () ∧ Talks s events s' := by
  induction l generalizing s events with
  | nil =>
    obtain ⟨rfl, rfl, rfl⟩ := Attempt.runs_pure h
    exact ⟨rfl, .refl s'⟩
  | cons a l ih =>
    rcases Attempt.runs_bind h with ⟨e, -, hfail⟩ | ⟨first, _, t, second, hfirst, hrest, rfl⟩
    · cases (runs_print (hp a) hfail).1
    · obtain ⟨hok, htalks⟩ := ih hrest
      exact ⟨hok, (runs_print (hp a) hfirst).2.trans htalks⟩

/-! ## Executing -/

/-- The shell has its connection perform an operation, takes `ps` for its parameters, and talks about
it. -/
def Performs (depth : Nat) (s : Shell) (op : Operation) (events : List Event) (result : op.Result)
    (ps : Parameters) (s' : Shell) : Prop :=
  ∃ first c second, Runs (handleUses depth) op.program s.connection first result c ∧
    Talks { s with connection := c, parameters := ps } second s' ∧ events = first ++ second

/-- How a parameter is set, or not. -/
inductive Assigns (depth : Nat) (s : Shell) (name expression : String) :
    List Event → Except Failure Json → Shell → Prop where
  /-- The server is not asked for a literal. -/
  | literal {value : Json} : Parameters.literal? expression = some value →
      Assigns depth s name expression [] (.ok value)
        { s with parameters := s.parameters.set (Command.unquote (Text.trim name)) value }
  | evaluated {events : List Event} {outcome : Outcome} {value : Json} {c : Connection} :
      Parameters.literal? expression = none → firstValue? outcome = some value →
      Runs (handleUses depth)
        (Connection.evaluate (expressionQuery expression s.parameters)).run s.connection events
        (.ok outcome) c →
      Assigns depth s name expression events (.ok value)
        { s with
          connection := c
          parameters := s.parameters.set (Command.unquote (Text.trim name)) value }
  | failed {events : List Event} {e : Failure} {c : Connection} :
      Parameters.literal? expression = none →
      Runs (handleUses depth)
        (Connection.evaluate (expressionQuery expression s.parameters)).run s.connection events
        (.error e) c →
      Assigns depth s name expression events (.error e) { s with connection := c }
  /-- The server answers without a value. -/
  | lacking {events : List Event} {outcome : Outcome} {c : Connection} :
      Parameters.literal? expression = none → firstValue? outcome = none →
      Runs (handleUses depth)
        (Connection.evaluate (expressionQuery expression s.parameters)).run s.connection events
        (.ok outcome) c →
      Assigns depth s name expression events (.error (.refused (.noValue expression)))
        { s with connection := c }

/-- What can come of a statement. -/
inductive Executes (depth : Nat) (s : Shell) (statement : String) (events : List Event) :
    Meaning → Except Failure Unit → Shell → Prop where
  | nothing {s' : Shell} : Talks s events s' → Executes depth s statement events .nothing (.ok ()) s'
  | misuse {m : Command.Misuse} {s' : Shell} : Talks s events s' →
      Executes depth s statement events (.misuse m) (.error (.refused (.misuse m))) s'
  | query {result : Except Failure (Option Outcome)} {s' : Shell} :
      Performs depth s (.runStatement { text := statement, parameters := s.parameters }) events result
        s.parameters s' →
      Executes depth s statement events .query (result.map fun _ => ()) s'
  | begins {result : Except Failure Unit} {s' : Shell} :
      Performs depth s .begin events result s.parameters s' →
      Executes depth s statement events (.command .begin) result s'
  | commits {result : Except Failure (List Outcome)} {s' : Shell} :
      Performs depth s .commit events result s.parameters s' →
      Executes depth s statement events (.command .commit) (result.map fun _ => ()) s'
  | rollsBack {result : Except Failure Unit} {s' : Shell} :
      Performs depth s .rollback events result s.parameters s' →
      Executes depth s statement events (.command .rollback) result s'
  | switches {database : String} {result : Except Failure Unit} {s' : Shell} :
      Performs depth s (.switchDatabase database) events result s.parameters s' →
      Executes depth s statement events (.command (.use database)) result s'
  | param {name expression : String} {first second : List Event} {value : Except Failure Json}
      {t s' : Shell} : Assigns depth s name expression first value t → Talks t second s' →
      events = first ++ second →
      Executes depth s statement events (.command (.setParam name expression)) (value.map fun _ => ()) s'
  | clears {s' : Shell} : Talks { s with parameters := [] } events s' →
      Executes depth s statement events (.command .clearParams) (.ok ()) s'
  /-- The command is about something else. -/
  | tells {c : Command} {r : Except Failure Unit} {s' : Shell} :
      (match c with
        | .exit | .listParams | .history | .help _ => True
        | _ => False) →
      Talks s events s' → Executes depth s statement events (.command c) r s'

variable {statement : String} {r : Except Failure Unit}

/-- An operation that nothing is said about. -/
theorem performs_alone {op : Operation} {result : op.Result}
    (hrun : Runs (handleUses depth) op.program s.connection events result s'.connection)
    (hstate : s' = { s with connection := s'.connection }) :
    Performs depth s op events result s.parameters s' := by
  refine ⟨events, s'.connection, [], hrun, ?_, (List.append_nil _).symm⟩
  rw [hstate]
  exact .refl _

/-- Behind an operation of the connection a shell goes on, or it fails like the operation. -/
theorem runs_tryConnection_bind {β : Type} {p : Attempt Connection Failure α}
    {f : α → Attempt Shell Failure β} {r : Except Failure β}
    (h : Runs (handling depth) (tryConnection p >>= f).run s events r s') :
    (∃ e, r = .error e ∧ Runs (handleUses depth) p.run s.connection events (.error e) s'.connection ∧
      s' = { s with connection := s'.connection }) ∨
    ∃ first a c second, Runs (handleUses depth) p.run s.connection first (.ok a) c ∧
      Runs (handling depth) (f a).run { s with connection := c } second r s' ∧
      events = first ++ second := by
  rcases Attempt.runs_bind h with ⟨e, rfl, hfail⟩ | ⟨first, a, t, second, hok, hrest, rfl⟩
  · exact .inl ⟨e, rfl, runs_tryConnection hfail⟩
  · obtain ⟨hrun, hstate⟩ := runs_tryConnection hok
    rw [hstate] at hrest
    exact .inr ⟨first, a, t.connection, second, hrun, hrest, rfl⟩

theorem executes_query (h : Runs (handling depth) (runQuery statement).run s events r s') :
    Executes depth s statement events .query r s' := by
  rcases runs_tryConnection_bind (Attempt.runs_get_bind h) with
    ⟨e, rfl, hrun, hstate⟩ | ⟨first, outcome?, c, second, hrun, hend, rfl⟩
  · exact @Executes.query _ _ _ _ (.error e) _ (performs_alone hrun hstate)
  cases outcome? with
  | none =>
    obtain ⟨rfl, rfl, rfl⟩ := Attempt.runs_pure hend
    exact @Executes.query _ _ _ _ (.ok none) _ ⟨first, c, [], hrun, .refl _, rfl⟩
  | some outcome =>
    obtain ⟨rfl, htalks⟩ := runs_print (talks_printOutcome · outcome) hend
    exact @Executes.query _ _ _ _ (.ok (some outcome)) _ ⟨first, c, second, hrun, htalks, rfl⟩

theorem assigns_setParameter {name expression : String} {value : Except Failure Json}
    (h : Runs (handling depth) (setParameter name expression).run s events value s') :
    Assigns depth s name expression events value s' := by
  unfold setParameter at h
  dsimp only at h
  cases hliteral : Parameters.literal? expression with
  | some v =>
    rw [hliteral] at h
    dsimp only at h
    rw [pure_bind] at h
    have hend := Attempt.runs_modify_bind h
    obtain ⟨rfl, rfl, rfl⟩ := Attempt.runs_pure hend
    exact .literal hliteral
  | none =>
    rw [hliteral] at h
    unfold evaluate at h
    dsimp only at h
    rw [bind_assoc] at h
    have hasks := Attempt.runs_get_bind h
    rw [bind_assoc] at hasks
    rcases runs_tryConnection_bind hasks with
      ⟨e, rfl, hrun, hstate⟩ | ⟨first, outcome, c, second, hrun, hrest, rfl⟩
    · rw [hstate]
      exact .failed hliteral hrun
    cases hfirst : firstValue? outcome with
    | none =>
      rw [hfirst] at hrest
      obtain ⟨rfl, rfl, rfl⟩ := Attempt.runs_throw_bind hrest
      rw [List.append_nil]
      exact .lacking hliteral hfirst hrun
    | some v =>
      rw [hfirst] at hrest
      dsimp only at hrest
      rw [pure_bind] at hrest
      have hend := Attempt.runs_modify_bind hrest
      obtain ⟨rfl, rfl, rfl⟩ := Attempt.runs_pure hend
      rw [List.append_nil]
      exact .evaluated hliteral hfirst hrun

theorem executes_command {c : Command}
    (h : Runs (handling depth) (runCommand c).run s events r s') :
    Executes depth s statement events (.command c) r s' := by
  cases c with
  | exit =>
    rcases Attempt.runs_bind h with ⟨e, -, hfail⟩ | ⟨first, _, t, second, hok, hthrow, rfl⟩
    · cases (runs_print (talks_printIfVerbose · exitMessage) hfail).1
    · obtain ⟨rfl, rfl, rfl⟩ := Attempt.runs_throw hthrow
      rw [List.append_nil]
      exact .tells trivial (runs_print (talks_printIfVerbose · exitMessage) hok).2
  | begin =>
    obtain ⟨hrun, hstate⟩ := runs_tryConnection h
    exact .begins (performs_alone hrun hstate)
  | commit =>
    rcases runs_tryConnection_bind h with
      ⟨e, rfl, hrun, hstate⟩ | ⟨first, outcomes, d, second, hrun, hend, rfl⟩
    · exact @Executes.commits _ _ _ _ (.error e) _ (performs_alone hrun hstate)
    · obtain ⟨rfl, htalks⟩ := runs_forM_print (fun o printer => talks_printOutcome printer o) outcomes hend
      exact @Executes.commits _ _ _ _ (.ok outcomes) _ ⟨first, d, second, hrun, htalks, rfl⟩
  | rollback =>
    obtain ⟨hrun, hstate⟩ := runs_tryConnection h
    exact .rollsBack (performs_alone hrun hstate)
  | use database =>
    obtain ⟨hrun, hstate⟩ := runs_tryConnection h
    exact .switches (performs_alone hrun hstate)
  | setParam name expression =>
    rcases Attempt.runs_bind h with ⟨e, rfl, hfail⟩ | ⟨first, value, t, second, hok, hsays, rfl⟩
    · exact @Executes.param _ _ _ _ _ _ _ _ (.error e) _ _ (assigns_setParameter hfail) (.refl s')
        (List.append_nil events).symm
    · obtain ⟨rfl, htalks⟩ := runs_print (talks_printIfVerbose · value.text) hsays
      exact @Executes.param _ _ _ _ _ _ _ _ (.ok value) _ _ (assigns_setParameter hok) htalks rfl
  | listParams =>
    exact .tells trivial
      (runs_forM_print (fun _ _ => talks_writeLine _ _) _ (Attempt.runs_get_bind h)).2
  | clearParams =>
    obtain ⟨rfl, rfl, rfl⟩ := Attempt.runs_modify h
    exact .clears (.refl _)
  | history =>
    exact .tells trivial
      (runs_forM_print (fun _ _ => talks_writeLine _ _) _ (Attempt.runs_get_bind h)).2
  | help topic =>
    cases topic with
    | none => exact .tells trivial (runs_print (fun _ => talks_writeLine _ _) h).2
    | some topic =>
      unfold runCommand at h
      dsimp only at h
      split at h
      · exact .tells trivial (runs_print (fun _ => talks_writeLine _ _) h).2
      · obtain ⟨rfl, rfl, rfl⟩ := Attempt.runs_throw h
        exact .tells trivial (.refl _)

/-- What executing a statement comes to. -/
theorem executes_of_runs (h : Runs (handling depth) (execute statement).run s events r s') :
    ∃ t, Executes depth s statement events (meaning statement) r t ∧
      s'.connection = t.connection ∧ s'.parameters = t.parameters := by
  obtain ⟨t, hperform, hconnection, hparameters⟩ := runs_execute h
  refine ⟨t, ?_, hconnection, hparameters⟩
  cases hmeaning : meaning statement with
  | nothing =>
    rw [hmeaning] at hperform
    obtain ⟨rfl, rfl, rfl⟩ := Attempt.runs_pure hperform
    exact .nothing (.refl _)
  | query =>
    rw [hmeaning] at hperform
    exact executes_query hperform
  | command c =>
    rw [hmeaning] at hperform
    exact executes_command hperform
  | misuse m =>
    rw [hmeaning] at hperform
    obtain ⟨rfl, rfl, rfl⟩ := Attempt.runs_throw hperform
    exact .misuse (.refl _)

end QueryShell.Shell
