import QueryShell.Proofs.Program.Ensures

/-
Logs, event by event. Whoever answers calls is free to answer as they like; what a result knows or
asks of them is said of the log: `Throughout` holds when each event is allowed by those before it.
`asksWithin` are the answers that keep a log inside such a condition, and what is ensured against
them holds behind every run whose log the condition allows (`ensures_of_runs_within`).
-/
namespace QueryShell

section Throughout

variable {ε : Type} {allowed : List ε → ε → Prop} {log events : List ε} {e : ε}

/-- Each event of a log is allowed by what came before it. -/
def Throughout (allowed : List ε → ε → Prop) (log : List ε) : Prop :=
  ∀ before e after, log = before ++ e :: after → allowed before e

theorem throughout_nil : Throughout allowed [] := by
  intro before e after h
  simp at h

theorem Throughout.before (h : Throughout allowed (log ++ events)) : Throughout allowed log := by
  rintro before e after rfl
  exact h before e (after ++ events) (by simp)

theorem throughout_snoc :
    Throughout allowed (log ++ [e]) ↔ Throughout allowed log ∧ allowed log e := by
  constructor
  · exact fun h => ⟨h.before, h log e [] rfl⟩
  · rintro ⟨hlog, he⟩ before other after hsplit
    -- the event in question is `e`, or one of `log`
    rcases append_eq_snoc hsplit.symm with ⟨hnil, -⟩ | ⟨more, hmore, hbefore⟩
    · cases hnil
    cases more with
    | nil =>
      obtain ⟨rfl, -⟩ := List.cons.inj hmore
      rw [List.append_nil] at hbefore
      rwa [hbefore]
    | cons first more =>
      obtain ⟨rfl, -⟩ := List.cons.inj hmore
      exact hlog before other more hbefore.symm

/-- The events of a log behind `before` are allowed, one after the other. -/
def allowedFrom (allowed : List ε → ε → Prop) [∀ before e, Decidable (allowed before e)] :
    (before events : List ε) → Bool
  | _, [] => true
  | before, e :: events => allowed before e && allowedFrom allowed (before ++ [e]) events

theorem throughout_of_allowedFrom [∀ before e, Decidable (allowed before e)]
    (hlog : Throughout allowed log) (h : allowedFrom allowed log events = true) :
    Throughout allowed (log ++ events) := by
  induction events generalizing log with
  | nil => simpa using hlog
  | cons e events ih =>
    simp only [allowedFrom, Bool.and_eq_true, decide_eq_true_eq] at h
    simpa using ih (throughout_snoc.2 ⟨hlog, h.1⟩) h.2

/-- What comes behind `start` is allowed. -/
def Since (start : List ε) (allowed : List ε → ε → Prop) : List ε → ε → Prop :=
  fun before e => start.length ≤ before.length → allowed before e

instance {start before : List ε} [Decidable (allowed before e)] :
    Decidable (Since start allowed before e) :=
  inferInstanceAs (Decidable (_ → _))

theorem throughout_since {start : List ε} : Throughout (Since start allowed) start := by
  intro before e after hlog hlength
  rw [hlog, List.length_append, List.length_cons] at hlength
  omega

end Throughout

/-! ## Answers inside a condition -/

section Answers

open Program

variable {σ α : Type} {between : Interference σ} {allowed : List Event → Event → Prop}
  {log events : List Event}

/-- Every reply is possible that the condition on the log allows. -/
def asksWithin (allowed : List Event → Event → Prop) (between : Interference σ) :
    Answers σ (List Event) :=
  fun call s reply s' => asks between call s reply s' ∧ Throughout allowed s'.2

/-- What is ensured against the answers inside a condition holds behind every run that stays inside
it. -/
theorem ensures_of_runs_within {p : Program σ α} {s s' : σ} {a : α}
    {post : α → σ × List Event → Prop}
    (h : Ensures (asksWithin allowed between) p post (s, log)) (hrun : Runs between p s events a s')
    (hlog : Throughout allowed (log ++ events)) : post a (s', log ++ events) := by
  induction hrun generalizing log with
  | done =>
    rw [List.append_nil]
    exact h
  | get _ ih => exact ih h hlog
  | set _ ih => exact ih h hlog
  | @ask call next s t s' reply during after a hbetween _ ih =>
    have hsplit : log ++ (.asked call :: during ++ .answered call reply :: after) =
        log ++ (.asked call :: during ++ [.answered call reply]) ++ after := by simp
    rw [hsplit] at hlog ⊢
    exact ih (h reply (t, _) ⟨⟨during, hbetween, rfl⟩, hlog.before⟩) hlog

/-- The log only grows. -/
theorem ensures_grows (p : Program σ α) (s : σ × List Event) :
    Ensures (asksWithin allowed between) p (fun _ s' => s.2.length ≤ s'.2.length) s := by
  -- by induction on the program, which may start at any log that is as long
  suffices hany : ∀ s' : σ × List Event, s.2.length ≤ s'.2.length →
      Ensures (asksWithin allowed between) p (fun _ s' => s.2.length ≤ s'.2.length) s' from
    hany s (Nat.le_refl _)
  induction p with
  | done a => exact fun _ h => h
  | get next ih => exact fun s' h => ih _ s' h
  | set t next ih => exact fun s' h => ih (t, s'.2) h
  | ask call next ih =>
    rintro s' h reply s'' ⟨⟨during, -, hlog⟩, -⟩
    refine ih reply s'' (Nat.le_trans h ?_)
    simp [hlog]

end Answers

end QueryShell
