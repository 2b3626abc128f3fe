import QueryShell.Loop.Run
import QueryShell.Proofs.Program.Runs

/-
The loop, which tells what it read and executed. The events of a run do not show where a statement
begins and ends inside of a shell, so `runUntilEndTold` keeps the results as they come. It is the loop
all the same: without its story it is `runUntilEnd`, and every run of the one is a run of the other.
-/
namespace QueryShell.Loop

open Program

/-! ## Programs that tell -/

section Telling

variable {σ α β : Type} {between : Interference σ}

/-- Adds to what a program tells besides its result. -/
def telling (add : β → β) (p : Program σ (α × β)) : Program σ (α × β) :=
  Prod.map id add <$> p

theorem map_telling (add : β → β) (p : Program σ (α × β)) :
    Prod.fst <$> telling add p = Prod.fst <$> p := by
  rw [telling, ← comp_map]
  rfl

theorem runs_map {f : α → β} {p : Program σ α} {s s' : σ} {events : List Event} {b : β}
    (h : Runs between (f <$> p) s events b s') : ∃ a, Runs between p s events a s' ∧ b = f a := by
  rw [map_eq_pure_bind] at h
  obtain ⟨first, a, t, second, hp, hpure, rfl⟩ := runs_bind h
  obtain ⟨rfl, rfl, rfl⟩ := runs_pure hpure
  exact ⟨a, by simpa using hp, rfl⟩

theorem runs_telling {add : β → β} {p : Program σ (α × β)} {s s' : σ} {events : List Event}
    {told : α × β} (h : Runs between (telling add p) s events told s') :
    ∃ tale, Runs between p s events (told.1, tale) s' ∧ told.2 = add tale := by
  obtain ⟨⟨a, tale⟩, hrun, rfl⟩ := runs_map h
  exact ⟨tale, hrun, rfl⟩

end Telling

/-! ## The loop -/

variable {ε : Type}

/-- What a run read and what it executed, with all results and in their order. -/
structure Story where
  /-- What each reading completed, or why there was none. -/
  readings : List (Except Failure (List String)) := []
  executed : List (String × Except Failure Unit) := []

/-- Executes statements one after the other, and tells what came of them. -/
def executeAllTold (x : Executor ε) : List String →
    Program (Loop ε) (Option Int × List (String × Except Failure Unit))
  | [] => pure (none, [])
  | statement :: rest => do
    let result ← (execute x statement).run
    telling ((statement, result) :: ·) <|
      match result with
      | .ok () => executeAllTold x rest
      | .error (.exit code) => pure (some code, [])
      | .error e => do
        modify fun l => { l with failed := true }
        let l ← get
        l.printer.printError e
        if l.settings.policy = .failFast then pure (some exitFailure, [])
        else executeAllTold x rest

/-- Reads and executes, and tells about it. -/
def readAndExecuteTold (x : Executor ε) : Nat → Bool → Program (Loop ε) (Option Int × Story)
  | 0, _ => pure (none, {})
  | reads + 1, lastFailed => do
    let reading ← (readOnce x).run
    telling (fun story => { story with readings := reading :: story.readings }) <|
      match reading with
      | .ok [] => readAndExecuteTold x reads lastFailed
      | .ok statements => do
        let (code?, executed) ← executeAllTold x statements
        telling (fun story => { story with executed := executed ++ story.executed }) <|
          match code? with
          | some code => pure (some code, {})
          | none => do
            let lastCode? ← onExecutor x.lastErrorCode
            readAndExecuteTold x reads lastCode?.isSome
      | .error .noMoreInput => do
        let l ← get
        l.printer.printIfVerbose Shell.farewell
        pure (some (endOfInputCode l.settings.policy (l.failed || lastFailed)), {})
      | .error (.exit code) => pure (some code, {})
      | .error e => do
        (← get).printer.printError e
        pure (some exitFailure, {})

/-- Runs until the input ends or something asks to stop, and tells about it. -/
def runUntilEndTold (x : Executor ε) (reads : Nat) : Program (Loop ε) (Option Int × Story) := do
  let lastCode? ← onExecutor x.lastErrorCode
  let (code?, story) ← readAndExecuteTold x reads lastCode?.isSome
  match code? with
  | none => pure (none, story)
  | some code => do
    trySaveHistory
    pure (some code, story)

/-! ## It is the same loop -/

theorem map_executeAllTold (x : Executor ε) (statements : List String) :
    Prod.fst <$> executeAllTold x statements = executeAll x statements := by
  induction statements with
  | nil => rfl
  | cons statement rest ih =>
    rw [executeAllTold, executeAll, map_bind]
    refine bind_congr fun result => ?_
    rw [map_telling]
    split
    · exact ih
    · exact map_pure _ _
    · simp only [map_bind]
      refine bind_congr fun _ => bind_congr fun l => bind_congr fun _ => ?_
      split
      · exact map_pure _ _
      · exact ih

theorem map_readAndExecuteTold (x : Executor ε) (reads : Nat) (lastFailed : Bool) :
    Prod.fst <$> readAndExecuteTold x reads lastFailed = readAndExecute x reads lastFailed := by
  induction reads generalizing lastFailed with
  | zero => rfl
  | succ reads ih =>
    rw [readAndExecuteTold, readAndExecute, map_bind]
    refine bind_congr fun reading => ?_
    rw [map_telling]
    rcases reading with e | statements
    · cases e with
      | exit code => exact map_pure _ _
      | _ => simp only [map_bind, map_pure]
    · cases statements with
      | nil => exact ih lastFailed
      | cons statement rest =>
        dsimp only
        rw [← map_executeAllTold, bind_map_left, map_bind]
        refine bind_congr fun (code?, executed) => ?_
        dsimp only
        rw [map_telling]
        split
        · exact map_pure _ _
        · rw [map_bind]
          exact bind_congr fun _ => ih _

theorem map_runUntilEndTold (x : Executor ε) (reads : Nat) :
    Prod.fst <$> runUntilEndTold x reads = runUntilEnd x reads := by
  rw [runUntilEndTold, runUntilEnd, map_bind]
  refine bind_congr fun _ => ?_
  rw [← map_readAndExecuteTold, bind_map_left, map_bind]
  refine bind_congr fun (code?, story) => ?_
  dsimp only
  split
  · exact map_pure _ _
  · simp only [map_bind, map_pure]

/-- Every run of the loop has a story. -/
theorem runUntilEndTold_runs {between : Interference (Loop ε)} {x : Executor ε} {reads : Nat}
    {l l' : Loop ε} {events : List Event} {code? : Option Int}
    (h : Runs between (runUntilEnd x reads) l events code? l') :
    ∃ story, Runs between (runUntilEndTold x reads) l events (code?, story) l' := by
  rw [← map_runUntilEndTold] at h
  obtain ⟨⟨_, story⟩, hrun, rfl⟩ := runs_map h
  exact ⟨story, hrun⟩

end QueryShell.Loop
