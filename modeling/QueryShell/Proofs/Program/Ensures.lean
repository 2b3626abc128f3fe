import QueryShell.Proofs.Program.Runs

/-
What a program ensures, whatever its calls are answered. `Program.Ensures` folds a condition on
single answers over the tree of a program: behind every way through it the postcondition holds of
the result, the state and a world of the calls. Programs are put together by equations, one for each
way to build them, so that a condition is pushed through a program step by step.

Two kinds of answers matter. `asks` lets everything come in between a call and its reply and keeps
all events in the world (`ensures_of_runs`); `performs` answers as an environment does
(`Environment.ensures_exec`).
-/
namespace QueryShell

/-- How calls may be answered: the state and the world before, the reply, and both behind it. -/
abbrev Answers (σ ω : Type) := (call : Call) → σ × ω → call.Reply → σ × ω → Prop

namespace Program

variable {σ τ ω α β : Type} {answers : Answers σ ω}

/-- The postcondition holds behind every way through a program. -/
def Ensures (answers : Answers σ ω) : Program σ α → (α → σ × ω → Prop) → σ × ω → Prop
  | .done a, post, sw => post a sw
  | .get next, post, sw => (next sw.1).Ensures answers post sw
  | .set t next, post, sw => next.Ensures answers post (t, sw.2)
  | .ask call next, post, sw =>
    ∀ reply sw', answers call sw reply sw' → (next reply).Ensures answers post sw'

/-! ## Putting programs together -/

theorem ensures_bind (p : Program σ α) (f : α → Program σ β) (post : β → σ × ω → Prop)
    (sw : σ × ω) : Ensures answers (p >>= f) post sw ↔
      Ensures answers p (fun a => Ensures answers (f a) post) sw := by
  show Ensures answers (p.andThen f) post sw ↔ _
  induction p generalizing sw with
  | done a => exact Iff.rfl
  | get next ih => exact ih _ _
  | set t next ih => exact ih _
  | ask call next ih => exact forall₃_congr fun reply sw' _ => ih reply sw'

theorem ensures_get (post : σ → σ × ω → Prop) (sw : σ × ω) :
    Ensures answers (MonadState.get : Program σ σ) post sw ↔ post sw.1 sw := Iff.rfl

theorem ensures_modifyGet (f : σ → α × σ) (post : α → σ × ω → Prop) (sw : σ × ω) :
    Ensures answers (modifyGet f : Program σ α) post sw ↔ post (f sw.1).1 ((f sw.1).2, sw.2) :=
  Iff.rfl

theorem ensures_modify (f : σ → σ) (post : Unit → σ × ω → Prop) (sw : σ × ω) :
    Ensures answers (modify f : Program σ Unit) post sw ↔ post () (f sw.1, sw.2) := Iff.rfl

theorem ensures_call (c : Call) (post : c.Reply → σ × ω → Prop) (sw : σ × ω) :
    Ensures answers (call c : Program σ c.Reply) post sw ↔
      ∀ reply sw', answers c sw reply sw' → post reply sw' := Iff.rfl

theorem ensures_zoom_get {view : τ → σ} {update : σ → τ → τ} {answers : Answers τ ω}
    (post : σ → τ × ω → Prop) (sw : τ × ω) :
    Ensures answers ((MonadState.get : Program σ σ).zoom view update) post sw ↔
      post (view sw.1) sw := Iff.rfl

theorem ensures_zoom_modify {view : τ → σ} {update : σ → τ → τ} {answers : Answers τ ω} (f : σ → σ)
    (post : Unit → τ × ω → Prop) (sw : τ × ω) :
    Ensures answers ((modify f : Program σ Unit).zoom view update) post sw ↔
      post () (update (f (view sw.1)) sw.1, sw.2) := Iff.rfl

/-- What is ensured is ensured of anything weaker. -/
theorem Ensures.weaken {p : Program σ α} {post post' : α → σ × ω → Prop} {sw : σ × ω}
    (h : Ensures answers p post sw) (hpost : ∀ a sw, post a sw → post' a sw) :
    Ensures answers p post' sw := by
  induction p generalizing sw with
  | done a => exact hpost a sw h
  | get next ih => exact ih _ h
  | set t next ih => exact ih h
  | ask call next ih => exact fun reply sw' hanswer => ih reply (h reply sw' hanswer)

/-- What is ensured one by one is ensured together. -/
theorem Ensures.and {p : Program σ α} {post post' : α → σ × ω → Prop} {sw : σ × ω}
    (h : Ensures answers p post sw) (h' : Ensures answers p post' sw) :
    Ensures answers p (fun a sw => post a sw ∧ post' a sw) sw := by
  induction p generalizing sw with
  | done a => exact ⟨h, h'⟩
  | get next ih => exact ih _ h h'
  | set t next ih => exact ih h h'
  | ask call next ih =>
    exact fun reply sw' hanswer => ih reply (h reply sw' hanswer) (h' reply sw' hanswer)

/-- What holds in any case is ensured. -/
theorem ensures_always {p : Program σ α} {post : α → σ × ω → Prop} (h : ∀ a sw, post a sw)
    (sw : σ × ω) : Ensures answers p post sw := by
  induction p generalizing sw with
  | done a => exact h a sw
  | get next ih => exact ih _ _
  | set t next ih => exact ih _
  | ask call next ih => exact fun reply sw' _ => ih reply sw'

/-- A condition that every step of a loop keeps. -/
theorem ensures_forM {f : α → Program σ PUnit} {holds : σ × ω → Prop}
    (hf : ∀ a sw, holds sw → Ensures answers (f a) (fun _ => holds) sw) (l : List α) {sw : σ × ω}
    (h : holds sw) : Ensures answers (l.forM f) (fun _ => holds) sw := by
  induction l generalizing sw with
  | nil => exact h
  | cons a l ih =>
    refine (ensures_bind (f a) (fun _ => l.forM f) _ sw).2 ?_
    exact (hf a sw h).weaken fun _ _ h' => ih h'

end Program

/-! ## Attempts -/

namespace Attempt

open Program

variable {σ ω ε ε' α β : Type} {answers : Answers σ ω}

/-- One postcondition for success and one for failure. -/
def Ends (ok : α → σ × ω → Prop) (fails : ε → σ × ω → Prop) : Except ε α → σ × ω → Prop
  | .ok a => ok a
  | .error e => fails e

/-- Only what succeeds is gone on with. -/
theorem ensures_bind (p : Attempt σ ε α) (f : α → Attempt σ ε β) (post : Except ε β → σ × ω → Prop)
    (sw : σ × ω) : Ensures answers (p >>= f).run post sw ↔
      Ensures answers p.run
        (Ends (fun a => Ensures answers (f a).run post) fun e => post (.error e)) sw := by
  rw [ExceptT.run_bind, Program.ensures_bind]
  constructor <;> refine fun h => h.weaken ?_ <;> rintro (e | a) sw h <;> exact h

theorem ensures_lift (p : Program σ α) (post : Except ε α → σ × ω → Prop) (sw : σ × ω) :
    Ensures answers (Attempt.lift p : Attempt σ ε α).run post sw ↔
      Ensures answers p (fun a => post (.ok a)) sw := by
  show Ensures answers (p >>= fun a => pure (.ok a)) post sw ↔ _
  rw [Program.ensures_bind]
  exact Iff.rfl

theorem ensures_lift_bind (p : Program σ α) (f : α → Attempt σ ε β)
    (post : Except ε β → σ × ω → Prop) (sw : σ × ω) :
    Ensures answers (Attempt.lift p >>= f).run post sw ↔
      Ensures answers p (fun a => Ensures answers (f a).run post) sw := by
  rw [ensures_bind, ensures_lift]
  exact Iff.rfl

theorem ensures_get_bind (f : σ → Attempt σ ε β) (post : Except ε β → σ × ω → Prop) (sw : σ × ω) :
    Ensures answers ((MonadState.get : Attempt σ ε σ) >>= f).run post sw ↔
      Ensures answers (f sw.1).run post sw :=
  ensures_lift_bind (p := MonadState.get) f post sw

theorem ensures_modify_bind (g : σ → σ) (f : PUnit → Attempt σ ε β)
    (post : Except ε β → σ × ω → Prop) (sw : σ × ω) :
    Ensures answers ((modify g : Attempt σ ε PUnit) >>= f).run post sw ↔
      Ensures answers (f ()).run post (g sw.1, sw.2) :=
  ensures_lift_bind (p := modify g) f post sw

theorem ensures_mapError (g : ε → ε') (p : Attempt σ ε α) (post : Except ε' α → σ × ω → Prop)
    (sw : σ × ω) : Ensures answers (p.mapError g).run post sw ↔
      Ensures answers p.run (fun r => post (r.mapError g)) sw := by
  show Ensures answers (p.run >>= fun r => pure (r.mapError g)) post sw ↔ _
  rw [Program.ensures_bind]
  exact Iff.rfl

end Attempt

/-! ## Conditions that are kept -/

section Preserves

variable {σ ω α β ε ε' : Type} {answers : Answers σ ω} {holds : σ × ω → Prop}

/-- If the condition holds before a program, it holds behind it. -/
def Program.Preserves (answers : Answers σ ω) (holds : σ × ω → Prop) (p : Program σ α) : Prop :=
  ∀ sw, holds sw → Ensures answers p (fun _ => holds) sw

namespace Program

theorem Preserves.bind {p : Program σ α} {f : α → Program σ β} (hp : Preserves answers holds p)
    (hf : ∀ a, Preserves answers holds (f a)) : Preserves answers holds (p >>= f) :=
  fun sw h => (ensures_bind p f _ sw).2 ((hp sw h).weaken fun a sw h => hf a sw h)

end Program

namespace Attempt

open Program

end Attempt

end Preserves

/-! ## Answers of every kind -/

section Adequacy

open Program

variable {σ ω α : Type}

/-- Every reply is possible, anything may come in between that `between` allows, and the world keeps
all events. -/
def asks (between : Interference σ) : Answers σ (List Event) := fun call (s, log) reply (s', log') =>
  ∃ during, between s during s' ∧ log' = log ++ (.asked call :: during ++ [.answered call reply])

/-- What is ensured against every answer holds behind every run. -/
theorem Program.ensures_of_runs {between : Interference σ} {p : Program σ α} {s s' : σ} {a : α}
    {events log : List Event} {post : α → σ × List Event → Prop}
    (h : Ensures (asks between) p post (s, log)) (hrun : Runs between p s events a s') :
    post a (s', log ++ events) := by
  induction hrun generalizing log with
  | done =>
    rw [List.append_nil]
    exact h
  | get _ ih => exact ih h
  | set _ ih => exact ih h
  | @ask call next s t s' reply during after a hbetween _ ih =>
    have hnext := h reply (t, log ++ (.asked call :: during ++ [.answered call reply]))
      ⟨during, hbetween, rfl⟩
    have hafter := ih hnext
    simpa using hafter

/-- Behind a run whose log is its own. -/
theorem Program.ensures_of_runs_alone {between : Interference σ} {p : Program σ α} {s s' : σ} {a : α}
    {events : List Event} {post : α → σ × List Event → Prop}
    (h : Ensures (asks between) p post (s, [])) (hrun : Runs between p s events a s') :
    post a (s', events) :=
  ensures_of_runs h hrun

/-- Calls are answered in a way of their own. -/
def answeredBy (answer : (call : Call) → σ × ω → call.Reply × (σ × ω)) : Answers σ ω :=
  fun call sw reply sw' => answer call sw = (reply, sw')

theorem Program.ensures_run {answer : (call : Call) → σ × ω → call.Reply × (σ × ω)}
    {p : Program σ α} {post : α → σ × ω → Prop} {sw : σ × ω}
    (h : Ensures (answeredBy answer) p post sw) : post (p.run answer sw).1 (p.run answer sw).2 := by
  induction p generalizing sw with
  | done a => exact h
  | get next ih => exact ih _ h
  | set t next ih => exact ih h
  | ask call next ih => exact ih _ (h _ _ rfl)

/-- An environment answers calls after it has served the interrupts that arrived meanwhile. -/
def performs (env : Environment ω) (onInterrupt : Program σ Unit) (depth : Nat) : Answers σ ω :=
  answeredBy (env.perform onInterrupt depth)

/-- What is ensured against an environment's answers holds behind every execution in it. -/
theorem Environment.ensures_exec {env : Environment ω} {onInterrupt : Program σ Unit} {depth : Nat}
    {p : Program σ α} {post : α → σ × ω → Prop} {sw : σ × ω}
    (h : Ensures (performs env onInterrupt depth) p post sw) :
    post (env.exec onInterrupt depth p sw).1 (env.exec onInterrupt depth p sw).2 :=
  ensures_run h

theorem repeat_induction {δ : Type} {holds : δ → Prop} {f : δ → δ} (hf : ∀ x, holds x → holds (f x))
    (n : Nat) {x : δ} (h : holds x) : holds (Nat.repeat f n x) := by
  induction n with
  | zero => exact h
  | succ n ih => exact hf _ ih

/-- While an environment performs a call the world starts the call, interrupts are served, and the
world finishes it. A condition that the interrupts keep holds from the one to the other. -/
theorem Environment.performs_cases {env : Environment ω} {onInterrupt : Program σ Unit} {depth : Nat}
    {holds : σ × ω → Prop}
    (hkeeps : ∀ d < depth, ∀ sw, holds sw →
      Ensures (performs env onInterrupt d) onInterrupt (fun _ => holds) sw)
    {call : Call} {sw sw' : σ × ω} {reply : call.Reply}
    (h : performs env onInterrupt depth call sw reply sw')
    (hstarted : holds (sw.1, (env call sw.2).world)) :
    ∃ m, holds m ∧ (reply, sw'.2) = (env call sw.2).finish m.2 ∧ sw'.1 = m.1 := by
  unfold performs answeredBy perform at h
  cases depth with
  | zero =>
    obtain ⟨rfl, rfl⟩ := Prod.mk.inj h
    exact ⟨_, hstarted, rfl, rfl⟩
  | succ depth =>
    obtain ⟨rfl, rfl⟩ := Prod.mk.inj h
    have hserve := hkeeps depth (Nat.lt_succ_self depth)
    refine ⟨_, ?_, rfl, rfl⟩
    exact repeat_induction (fun x hx => Environment.ensures_exec (hserve x hx)) _ hstarted

end Adequacy

end QueryShell
