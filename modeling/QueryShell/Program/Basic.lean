import QueryShell.Program.Call

/-
Programs over a state: finite trees that read and write the state and make calls, one branch for
each reply. What the calls do is left to whoever runs the program, so a law about a program holds
for every driver, every terminal and every moment at which an interrupt arrives.

A reading and a writing of the state with no call between them happen at once: nothing can come in
between. `Program.zoom` runs a program on a part of a larger state.
-/
namespace QueryShell

/-- A program with state `σ` and result `α`. -/
inductive Program (σ : Type) (α : Type) where
  | done (result : α)
  | get (next : σ → Program σ α)
  | set (state : σ) (next : Program σ α)
  | ask (call : Call) (next : call.Reply → Program σ α)

namespace Program

variable {σ τ α β γ : Type}

/-- Goes on with the result. -/
def andThen : Program σ α → (α → Program σ β) → Program σ β
  | .done a, f => f a
  | .get next, f => .get fun s => (next s).andThen f
  | .set s next, f => .set s (next.andThen f)
  | .ask call next, f => .ask call fun r => (next r).andThen f

instance : Monad (Program σ) where
  pure := .done
  bind := andThen

instance : MonadStateOf σ (Program σ) where
  get := .get .done
  set s := .set s (.done ())
  modifyGet f := .get fun s => .set (f s).2 (.done (f s).1)

/-- Runs a program on a part of a larger state. -/
def zoom (view : τ → σ) (update : σ → τ → τ) : Program σ α → Program τ α
  | .done a => .done a
  | .get next => .get fun t => (next (view t)).zoom view update
  | .set s next => .get fun t => .set (update s t) (next.zoom view update)
  | .ask call next => .ask call fun r => (next r).zoom view update

/-! ## Calls -/

/-- Makes one call. -/
def call (c : Call) : Program σ c.Reply :=
  .ask c .done

/-- Asks a driver or session. -/
def driver (c : Driver.Call) : Program σ c.Reply :=
  call (.driver c)

/-- Asks the console. -/
def console (c : Console.Call) : Program σ c.Reply :=
  call (.console c)

/-- Asks the file system. -/
def files (c : Files.Call) : Program σ c.Reply :=
  call (.files c)

/-- Asks the executor that is not part of this library. -/
def delegate (c : Delegate.Call) : Program σ c.Reply :=
  call (.delegate c)

/-- Leaves a warning for whoever looks after the shell. -/
def warn (origin : Origin) (text : String) : Program σ Unit :=
  console (.warn origin text)

/-! ## Laws -/

theorem andThen_done (p : Program σ α) : p.andThen .done = p := by
  induction p with
  | done => rfl
  | get _ ih => simp [andThen, ih]
  | set _ _ ih => simp [andThen, ih]
  | ask _ _ ih => simp [andThen, ih]

theorem andThen_assoc (p : Program σ α) (f : α → Program σ β) (g : β → Program σ γ) :
    (p.andThen f).andThen g = p.andThen fun a => (f a).andThen g := by
  induction p with
  | done => rfl
  | get _ ih => simp [andThen, ih]
  | set _ _ ih => simp [andThen, ih]
  | ask _ _ ih => simp [andThen, ih]

instance : LawfulMonad (Program σ) :=
  LawfulMonad.mk' _ andThen_done (fun _ _ => rfl) andThen_assoc

theorem zoom_andThen (view : τ → σ) (update : σ → τ → τ) (p : Program σ α)
    (f : α → Program σ β) : (p.andThen f).zoom view update =
      (p.zoom view update).andThen fun a => (f a).zoom view update := by
  induction p with
  | done => rfl
  | get _ ih => simp [andThen, zoom, ih]
  | set _ _ ih => simp [andThen, zoom, ih]
  | ask _ _ ih => simp [andThen, zoom, ih]

end Program

/-- A program that can fail. -/
abbrev Attempt (σ ε α : Type) := ExceptT ε (Program σ) α

namespace Attempt

variable {σ τ ε ε' α : Type}

/-- An attempt out of a program that reports its failure. -/
def ofProgram (p : Program σ (Except ε α)) : Attempt σ ε α :=
  ExceptT.mk p

/-- An attempt out of a program that cannot fail. -/
def lift (p : Program σ α) : Attempt σ ε α :=
  ExceptT.lift p

/-- Runs an attempt on a part of a larger state. -/
def zoom (view : τ → σ) (update : σ → τ → τ) (p : Attempt σ ε α) : Attempt τ ε α :=
  ExceptT.mk (Program.zoom view update p.run)

/-- Changes the error of a failed attempt. -/
def mapError (f : ε → ε') (p : Attempt σ ε α) : Attempt σ ε' α :=
  ExceptT.mk do return (← p.run).mapError f

end Attempt

end QueryShell
