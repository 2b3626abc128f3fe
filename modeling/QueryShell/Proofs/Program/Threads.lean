import QueryShell.Proofs.Program.Runs

/-
Programs that run at the same time. A thread is a program cut into pieces: those that happen at once,
because a lock is held or because nobody else looks, and calls, during which the others go on. A pool
has one main thread and any number of helpers, all alike, that may come at any time; the steps of all
threads are interleaved in every possible way, and each leaves an entry in the log.

`Thread.program` puts the pieces together again, and so ties a thread to the program that it stands
for. Every entry of a log was left by a step of its thread, behind what the entries before it made of
the pool (`Reached.main_step`, `Reached.helper_step`).
-/
namespace QueryShell

/-! ## Threads -/

/-- A program cut into pieces. -/
inductive Thread (σ μ α : Type) : Type 1 where
  | done (result : α)
  /-- Happens at once, and leaves a mark that may depend on what came of it. -/
  | atomic {β : Type} (mark : β → μ) (p : Program σ β) (next : β → Thread σ μ α)
  | call (c : Call) (next : c.Reply → Thread σ μ α)
  /-- The call has been made, and the reply is still to come. -/
  | waiting (c : Call) (next : c.Reply → Thread σ μ α)

/-- What a thread does in one step. -/
inductive Act (μ : Type) where
  | atomic (mark : μ) (events : List Event)
  | event (e : Event)

/-- Nothing comes in between. -/
def alone {σ : Type} : Interference σ := fun s events s' => events = [] ∧ s' = s

/-- The call that an event makes. -/
def Event.asked? : Event → Option Call
  | .asked c => some c
  | _ => none

/-- The calls that an act makes. -/
def Act.asked {μ : Type} : Act μ → List Call
  | .atomic _ events => events.filterMap Event.asked?
  | .event e => e.asked?.toList

namespace Thread

variable {σ μ α : Type}

/-- What is left of the program that a thread stands for. -/
def program : Thread σ μ α → Program σ α
  | .done a => pure a
  | .atomic _ p next => p >>= fun b => (next b).program
  | .call c next => .ask c fun reply => (next reply).program
  | .waiting c next => .ask c fun reply => (next reply).program

/-- One step of a thread. -/
inductive Step : Thread σ μ α → σ → Act μ → Thread σ μ α → σ → Prop where
  | atomic {β : Type} {mark : β → μ} {p : Program σ β} {next : β → Thread σ μ α} {s s' : σ}
      {events : List Event} {b : β} : p.Runs alone s events b s' →
      Step (.atomic mark p next) s (.atomic (mark b) events) (next b) s'
  | ask {c : Call} {next : c.Reply → Thread σ μ α} {s : σ} :
      Step (.call c next) s (.event (.asked c)) (.waiting c next) s
  | answer {c : Call} {next : c.Reply → Thread σ μ α} {reply : c.Reply} {s : σ} :
      Step (.waiting c next) s (.event (.answered c reply)) (next reply) s

/-- What a thread may do from some states on, whatever the others do to them. -/
inductive Path : Thread σ μ α → List (Act μ) → Thread σ μ α → Prop where
  | here {t : Thread σ μ α} : Path t [] t
  | step {t u v : Thread σ μ α} {s s' : σ} {act : Act μ} {acts : List (Act μ)} :
      Step t s act u s' → Path u acts v → Path t (act :: acts) v

theorem Path.snoc {t u v : Thread σ μ α} {s s' : σ} {act : Act μ} {acts : List (Act μ)}
    (h : Path t acts u) (hstep : Step u s act v s') : Path t (acts ++ [act]) v := by
  induction h with
  | here => exact .step hstep .here
  | step hfirst _ ih => exact .step hfirst (ih hstep)

/-- A thread that makes a call has not made it, waits for the reply, or goes on with it. -/
theorem path_call {c : Call} {next : c.Reply → Thread σ μ α} {acts : List (Act μ)}
    {t : Thread σ μ α} (h : (Thread.call c next).Path acts t) :
    (acts = [] ∧ t = .call c next) ∨ (acts = [.event (.asked c)] ∧ t = .waiting c next) ∨
      ∃ reply rest, acts = .event (.asked c) :: .event (.answered c reply) :: rest ∧
        (next reply).Path rest t := by
  cases h with
  | here => exact .inl ⟨rfl, rfl⟩
  | step hstep hrest =>
    cases hstep
    cases hrest with
    | here => exact .inr (.inl ⟨rfl, rfl⟩)
    | step hstep hrest =>
      cases hstep
      exact .inr (.inr ⟨_, _, rfl, hrest⟩)

/-- The next step of a thread when `respond` answers the calls; there is none if it is done. -/
def next? (respond : (call : Call) → call.Reply) :
    Thread σ μ α → σ → Option (Act μ × Thread σ μ α × σ)
  | .done _, _ => none
  | .atomic mark p next, s =>
    let (events, b, s') := p.trace respond s
    some (.atomic (mark b) events, next b, s')
  | .call c next, s => some (.event (.asked c), .waiting c next, s)
  | .waiting c next, s => some (.event (.answered c (respond c)), next (respond c), s)

theorem step_of_next? {respond : (call : Call) → call.Reply} {t u : Thread σ μ α} {s s' : σ}
    {act : Act μ} (h : t.next? respond s = some (act, u, s')) : t.Step s act u s' := by
  cases t with
  | done a => cases h
  | atomic mark p next =>
    cases h
    exact .atomic (Program.runs_trace (fun _ => ⟨rfl, rfl⟩) respond p s)
  | call c next =>
    cases h
    exact .ask
  | waiting c next =>
    cases h
    exact .answer

theorem path_done {a : α} {acts : List (Act μ)} {t : Thread σ μ α}
    (h : (Thread.done a : Thread σ μ α).Path acts t) : acts = [] ∧ t = .done a := by
  cases h with
  | here => exact ⟨rfl, rfl⟩
  | step hstep => cases hstep

/-- A thread that makes no calls but those allowed, and nothing else. -/
inductive Talks (allowed : Call → Prop) : Thread σ μ α → Prop where
  | done (a : α) : Talks allowed (.done a)
  | call {c : Call} {next : c.Reply → Thread σ μ α} : allowed c →
      (∀ reply, Talks allowed (next reply)) → Talks allowed (.call c next)
  | waiting {c : Call} {next : c.Reply → Thread σ μ α} : allowed c →
      (∀ reply, Talks allowed (next reply)) → Talks allowed (.waiting c next)

end Thread

/-! ## Pools -/

/-- Whose step it is. -/
inductive Actor where
  | main
  | helper (n : Nat)
deriving DecidableEq, Repr

/-- All threads, and the state that they share. -/
structure Pool (σ μ α : Type) where
  state : σ
  main : Thread σ μ α
  /-- In the order in which they came. -/
  helpers : List (Thread σ μ Unit) := []

/-- What all threads did, in order. -/
abbrev Log (μ : Type) := List (Actor × Act μ)

namespace Pool

variable {σ μ α : Type} {helper : Thread σ μ Unit} {start : Pool σ μ α}

/-- What a pool may have done, and what it is now. -/
inductive Reached (helper : Thread σ μ Unit) (start : Pool σ μ α) : Log μ → Pool σ μ α → Prop where
  | start : Reached helper start [] start
  | main {log : Log μ} {pool : Pool σ μ α} {act : Act μ} {t : Thread σ μ α} {s : σ} :
      Reached helper start log pool → pool.main.Step pool.state act t s →
      Reached helper start (log ++ [(.main, act)]) { pool with state := s, main := t }
  | helper {log : Log μ} {pool : Pool σ μ α} {act : Act μ} {n : Nat} {t u : Thread σ μ Unit} {s : σ} :
      Reached helper start log pool → pool.helpers[n]? = some t → t.Step pool.state act u s →
      Reached helper start (log ++ [(.helper n, act)])
        { pool with state := s, helpers := pool.helpers.set n u }
  /-- One more helper comes. -/
  | come {log : Log μ} {pool : Pool σ μ α} : Reached helper start log pool →
      Reached helper start log { pool with helpers := pool.helpers ++ [helper] }

/-- Who goes on next. -/
inductive Turn where
  | main
  | helper (n : Nat)
  /-- One more helper comes. -/
  | come

/-- What happens in one turn: nothing if the thread is done, or is not there. -/
def turn (respond : (call : Call) → call.Reply) (helper : Thread σ μ Unit) (pool : Pool σ μ α) :
    Turn → Log μ × Pool σ μ α
  | .main =>
    match pool.main.next? respond pool.state with
    | some (act, t, s) => ([(.main, act)], { pool with state := s, main := t })
    | none => ([], pool)
  | .helper n =>
    match pool.helpers[n]? with
    | some t =>
      match t.next? respond pool.state with
      | some (act, u, s) =>
        ([(.helper n, act)], { pool with state := s, helpers := pool.helpers.set n u })
      | none => ([], pool)
    | none => ([], pool)
  | .come => ([], { pool with helpers := pool.helpers ++ [helper] })

/-- What a pool does in the order of some turns. -/
def replay (respond : (call : Call) → call.Reply) (helper : Thread σ μ Unit) :
    List Turn → Pool σ μ α → Log μ × Pool σ μ α
  | [], pool => ([], pool)
  | next :: rest, pool =>
    let (first, between) := turn respond helper pool next
    let (log, last) := replay respond helper rest between
    (first ++ log, last)

theorem reached_turn (respond : (call : Call) → call.Reply) (next : Turn) {log : Log μ}
    {pool : Pool σ μ α} (h : Reached helper start log pool) :
    Reached helper start (log ++ (turn respond helper pool next).1)
      (turn respond helper pool next).2 := by
  cases next with
  | main =>
    cases hnext : pool.main.next? respond pool.state with
    | none => simpa [turn, hnext] using h
    | some step => simpa [turn, hnext] using h.main (Thread.step_of_next? hnext)
  | helper n =>
    cases hn : pool.helpers[n]? with
    | none => simpa [turn, hn] using h
    | some t =>
      cases hnext : t.next? respond pool.state with
      | none => simpa [turn, hn, hnext] using h
      | some step => simpa [turn, hn, hnext] using h.helper hn (Thread.step_of_next? hnext)
  | come => simpa [turn] using h.come

theorem reached_replay (respond : (call : Call) → call.Reply) (turns : List Turn) {log : Log μ}
    {pool : Pool σ μ α} (h : Reached helper start log pool) :
    Reached helper start (log ++ (replay respond helper turns pool).1)
      (replay respond helper turns pool).2 := by
  induction turns generalizing log pool with
  | nil => simpa [replay] using h
  | cons next rest ih => simpa [replay] using ih (reached_turn respond next h)

/-- What one thread did. -/
def actsOf (actor : Actor) (log : Log μ) : List (Act μ) :=
  log.filterMap fun entry => if entry.1 = actor then some entry.2 else none

@[simp]
theorem actsOf_append (actor : Actor) (first second : Log μ) :
    actsOf actor (first ++ second) = actsOf actor first ++ actsOf actor second :=
  List.filterMap_append

theorem actsOf_self (actor : Actor) (act : Act μ) : actsOf actor [(actor, act)] = [act] := by
  simp [actsOf]

theorem actsOf_other {actor other : Actor} (h : other ≠ actor) (act : Act μ) :
    actsOf actor [(other, act)] = [] := by
  simp [actsOf, h]

theorem mem_actsOf {actor : Actor} {act : Act μ} {log : Log μ} :
    act ∈ actsOf actor log ↔ (actor, act) ∈ log := by
  unfold actsOf
  rw [List.mem_filterMap]
  constructor
  · rintro ⟨⟨other, act'⟩, hentry, hsome⟩
    obtain ⟨rfl, rfl⟩ : other = actor ∧ act' = act := by simpa using hsome
    exact hentry
  · intro hentry
    exact ⟨(actor, act), hentry, if_pos rfl⟩

/-- What a log starts with has been reached too. -/
theorem Reached.before {before after : Log μ} {pool : Pool σ μ α}
    (h : Reached helper start (before ++ after) pool) :
    ∃ pool', Reached helper start before pool' := by
  generalize hfull : before ++ after = full at h
  induction h generalizing after with
  | start =>
    obtain ⟨rfl, -⟩ := List.append_eq_nil_iff.1 hfull
    exact ⟨_, .start⟩
  | main hbefore hstep ih =>
    rcases append_eq_snoc hfull with ⟨-, rfl⟩ | ⟨rest, -, hrest⟩
    · exact ⟨_, .main hbefore hstep⟩
    · exact ih hrest
  | helper hbefore hn hstep ih =>
    rcases append_eq_snoc hfull with ⟨-, rfl⟩ | ⟨rest, -, hrest⟩
    · exact ⟨_, .helper hbefore hn hstep⟩
    · exact ih hrest
  | come _ ih => exact ih hfull

/-- Every entry was left by a step of its thread, taken behind the entries before it. -/
theorem Reached.main_step {before after : Log μ} {act : Act μ} {pool : Pool σ μ α}
    (h : Reached helper start (before ++ (.main, act) :: after) pool) :
    ∃ pool' t s, Reached helper start before pool' ∧ pool'.main.Step pool'.state act t s := by
  have hsplit : before ++ (Actor.main, act) :: after = before ++ [(.main, act)] ++ after := by simp
  obtain ⟨last, hlast⟩ := (hsplit ▸ h).before
  generalize hfull : before ++ [(Actor.main, act)] = full at hlast
  induction hlast with
  | start => simp at hfull
  | main hbefore hstep =>
    obtain ⟨rfl, hentry⟩ := List.append_inj' hfull rfl
    cases List.singleton_inj.1 hentry
    exact ⟨_, _, _, hbefore, hstep⟩
  | helper =>
    obtain ⟨-, hentry⟩ := List.append_inj' hfull rfl
    cases List.singleton_inj.1 hentry
  | come _ ih => exact ih hfull

theorem Reached.helper_step {before after : Log μ} {n : Nat} {act : Act μ} {pool : Pool σ μ α}
    (h : Reached helper start (before ++ (.helper n, act) :: after) pool) :
    ∃ pool' t u s, Reached helper start before pool' ∧ pool'.helpers[n]? = some t ∧
      t.Step pool'.state act u s := by
  have hsplit : before ++ (Actor.helper n, act) :: after = before ++ [(.helper n, act)] ++ after := by
    simp
  obtain ⟨last, hlast⟩ := (hsplit ▸ h).before
  generalize hfull : before ++ [(Actor.helper n, act)] = full at hlast
  induction hlast with
  | start => simp at hfull
  | main =>
    obtain ⟨-, hentry⟩ := List.append_inj' hfull rfl
    cases List.singleton_inj.1 hentry
  | helper hbefore hn hstep =>
    obtain ⟨rfl, hentry⟩ := List.append_inj' hfull rfl
    cases List.singleton_inj.1 hentry
    exact ⟨_, _, _, _, hbefore, hn, hstep⟩
  | come _ ih => exact ih hfull

end Pool

end QueryShell
