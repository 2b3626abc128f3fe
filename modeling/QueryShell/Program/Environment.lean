import QueryShell.Program.Basic

/-
Running programs. An environment answers calls on a world of its own; while a call is under way any
number of interrupts may arrive, and each of them runs the interrupt's program on the state as the
call found it. Such a program makes calls too, during which further interrupts may arrive; `depth`
bounds how many are under way inside each other.
-/
namespace QueryShell

/-- A call under way. The interrupts are served in the world as it is now, then `finish` gives the
reply. -/
structure Started (ω ρ : Type) where
  world : ω
  interrupts : Nat := 0
  finish : ω → ρ × ω

/-- Answers calls on a world of type `ω`. -/
abbrev Environment (ω : Type) := (call : Call) → ω → Started ω call.Reply

namespace Program

variable {σ ω α β : Type}

/-- Runs a program whose calls are answered by `answer`. -/
def run (answer : (call : Call) → σ × ω → call.Reply × (σ × ω)) :
    Program σ α → σ × ω → α × (σ × ω)
  | .done a, sw => (a, sw)
  | .get next, sw => (next sw.1).run answer sw
  | .set s next, sw => next.run answer (s, sw.2)
  | .ask call next, sw =>
    let (reply, sw) := answer call sw
    (next reply).run answer sw

theorem run_andThen (answer : (call : Call) → σ × ω → call.Reply × (σ × ω)) (p : Program σ α)
    (f : α → Program σ β) (sw : σ × ω) :
    (p.andThen f).run answer sw = (f (p.run answer sw).1).run answer (p.run answer sw).2 := by
  induction p generalizing sw with
  | done => rfl
  | get _ ih => exact ih _ _
  | set _ _ ih => exact ih _
  | ask _ _ ih => exact ih _ _

end Program

namespace Environment

variable {σ ω α : Type}

/-- Makes a call and serves the interrupts that arrive meanwhile. -/
def perform (env : Environment ω) (onInterrupt : Program σ Unit) :
    Nat → (call : Call) → σ × ω → call.Reply × (σ × ω)
  | depth, call, (s, w) =>
    let started := env call w
    let (s, w) :=
      match depth with
      | 0 => (s, started.world)
      | depth + 1 =>
        Nat.repeat (fun sw => (onInterrupt.run (perform env onInterrupt depth) sw).2)
          started.interrupts (s, started.world)
    let (reply, w) := started.finish w
    (reply, (s, w))

/-- Runs a program in an environment. -/
def exec (env : Environment ω) (onInterrupt : Program σ Unit) (depth : Nat) (p : Program σ α)
    (sw : σ × ω) : α × (σ × ω) :=
  p.run (env.perform onInterrupt depth) sw

end Environment

end QueryShell
