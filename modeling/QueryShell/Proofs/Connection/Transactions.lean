import QueryShell.Proofs.Connection.History

/-
Transactions are sent as a whole, once, and never after they were discarded. The queue stands in one
field of the connection and the request to discard it in a flag that any interrupt may set; `Inv`
ties the two to the history: the queue is what was queued since the transaction was opened, and
while nobody asked for it to be discarded nothing in between discards it.
-/
namespace QueryShell.Connection

open Program

/-! ## Since the last opening -/

/-- The steps behind the last one that opened a transaction. -/
def since (history : List Step) : List Step :=
  (history.reverse.takeWhile fun step => !step.opens).reverse

theorem since_opening (history : List Step) {step : Step} (h : step.opens = true) :
    since (history ++ [step]) = [] := by
  simp [since, h]

theorem since_snoc (history : List Step) {step : Step} (h : step.opens = false) :
    since (history ++ [step]) = since history ++ [step] := by
  simp [since, h]

/-- The transactions that steps sent, in their order. -/
def sent (steps : List Step) : List (List Query) :=
  steps.flatMap fun step => transactions step.events

theorem sent_snoc (steps : List Step) (step : Step) :
    sent (steps ++ [step]) = sent steps ++ transactions step.events := by
  simp [sent]

/-- The queue of a transaction comes from its history: it holds what was queued since the opening,
and nothing has been sent since. -/
structure Queued (history : List Step) (queries : List Query) : Prop where
  opened : ∃ earlier opening, history = earlier ++ opening :: since history ∧ opening.opens = true
  queue : queries = (since history).flatMap Step.queued
  unsent : sent (since history) = []

/-- How the state of a connection comes from its history. -/
structure Inv (history : List Step) (c : Connection) : Prop where
  coherent : Coherent c
  queued : ∀ queries, c.pending? = some queries → Queued history queries
  undiscarded : c.pending?.isSome → c.link.discardRequested = false →
    ∀ step ∈ since history, ¬ step.Discards
  once : (sent (since history)).length ≤ 1

theorem Queued.snoc {history : List Step} {queries : List Query} {step : Step}
    (h : Queued history queries) (hopens : step.opens = false)
    (hsent : transactions step.events = []) :
    Queued (history ++ [step]) (queries ++ step.queued) := by
  have hsince := since_snoc history hopens
  obtain ⟨earlier, opening, hhistory, hopening⟩ := h.opened
  refine ⟨⟨earlier, opening, ?_, hopening⟩, ?_, ?_⟩
  · rw [hsince]
    conv => lhs; rw [hhistory]
    simp
  · rw [hsince, List.flatMap_append, ← h.queue]
    simp
  · rw [hsince, sent_snoc, h.unsent, hsent]
    rfl

/-- Without a transaction the history may be anything. -/
theorem inv_closed {history : List Step} {c : Connection} (hpending : c.pending? = none)
    (hclosed : c.link.transactionOpen = false) (honce : (sent (since history)).length ≤ 1) :
    Inv history c := by
  refine ⟨?_, ?_, ?_, honce⟩
  · unfold Coherent
    rw [hpending, hclosed]
    rfl
  · intro queries hqueries
    rw [hpending] at hqueries
    cases hqueries
  · intro hsome
    rw [hpending] at hsome
    cases hsome

theorem Inv.settled {history : List Step} {c : Connection} (h : Inv history c) :
    Inv history c.applyDiscard := by
  unfold applyDiscard
  split
  · exact inv_closed rfl rfl h.once
  · exact h

/-- A transaction that stays open, and the step that leaves it so. -/
theorem Inv.undiscarded_snoc {own? : Option Query} {history : List Step} {c d : Connection}
    {step : Step} (h : Inv history c) (hopens : step.opens = false)
    (hdiscards : step.Discards → .interrupted ∈ step.events) (hkeeps : Keeps own? c step.events d)
    (hsome : d.pending?.isSome) (hdiscard : d.link.discardRequested = false) :
    ∀ other ∈ since (history ++ [step]), ¬ other.Discards := by
  rw [hkeeps.pending] at hsome
  -- the flag is down, so nobody asked before this step, and no interrupt arrived in it
  have hnone : ¬ (c.link.discardRequested = true ∨
      c.link.transactionOpen = true ∧ .interrupted ∈ step.events) := by
    rw [← hkeeps.discardRequested, hdiscard]
    exact Bool.false_ne_true
  have hopen : c.link.transactionOpen = true := h.coherent.trans hsome
  intro other hother
  rw [since_snoc history hopens] at hother
  rcases List.mem_append.1 hother with hother | hother
  · exact h.undiscarded hsome (by simpa using fun h => hnone (.inl h)) other hother
  · rw [List.mem_singleton.1 hother]
    exact fun hdisc => hnone (.inr ⟨hopen, hdiscards hdisc⟩)

theorem Inv.once_snoc {history : List Step} {c : Connection} {step : Step} (h : Inv history c)
    (hopens : step.opens = false) (hsent : transactions step.events = []) :
    (sent (since (history ++ [step]))).length ≤ 1 := by
  rw [since_snoc history hopens, sent_snoc, hsent, List.append_nil]
  exact h.once

/-- A step keeps the invariant. -/
theorem inv_effect {history : List Step} {c c' : Connection} {step : Step} (h : Inv history c)
    (heffect : Effect c step c') : Inv (history ++ [step]) c' := by
  have hcoherent := heffect.coherent h.coherent
  cases heffect with
  | keeps hopens hqueued hdiscards hkeeps =>
    refine ⟨hcoherent, ?_, ?_, h.once_snoc hopens hkeeps.transactions⟩
    · intro queries hqueries
      rw [hkeeps.pending] at hqueries
      have hsnoc := (h.queued queries hqueries).snoc hopens hkeeps.transactions
      rwa [hqueued, List.append_nil] at hsnoc
    · exact h.undiscarded_snoc hopens hdiscards hkeeps
  | opens hopens d hkeeps hpending hstate =>
    subst hstate
    have hsince := since_opening history hopens
    refine ⟨rfl, ?_, ?_, ?_⟩
    · intro queries hqueries
      cases hqueries
      refine ⟨⟨history, step, by rw [hsince], hopens⟩, ?_, ?_⟩
      · rw [hsince]
        rfl
      · rw [hsince]
        rfl
    · intro _ _ other hother
      rw [hsince] at hother
      cases hother
    · rw [hsince]
      exact Nat.zero_le 1
  | queues query hopens hqueued hdiscards d hkeeps hstate =>
    subst hstate
    refine ⟨hcoherent, ?_, ?_, h.once_snoc hopens hkeeps.transactions⟩
    · intro queries hqueries
      obtain ⟨before, hbefore, rfl⟩ := Option.map_eq_some_iff.1 hqueries
      rw [hkeeps.pending] at hbefore
      have hsnoc := (h.queued before hbefore).snoc hopens hkeeps.transactions
      rwa [hqueued] at hsnoc
    · intro hsome hdiscard
      rw [enqueue_pending?_isSome] at hsome
      exact h.undiscarded_snoc hopens hdiscards hkeeps hsome hdiscard
  | closes hopens hpending hclosed hsent hsingles =>
    -- what is sent here is the first since the opening, because the queue was still there
    refine inv_closed hpending hclosed ?_
    rcases hsent with hsent | ⟨events, result, queries, rfl, hsent, -, hqueries, -⟩
    · exact h.once_snoc hopens hsent
    · rw [since_snoc history hopens, sent_snoc, (h.queued queries hqueries).unsent, hsent]
      exact Nat.le_refl 1

/-- A history keeps the invariant. -/
theorem Reached.inv {depth : Nat} {interactive : Bool} {history : List Step} {c : Connection}
    (h : Reached depth interactive history c) : Inv history c := by
  induction h with
  | new => exact inv_closed rfl rfl (Nat.zero_le 1)
  | operation _ hrun ih =>
    have hbetween := fun own? => keeps_interrupts own? depth
    rcases effect_of_runs hbetween ih.coherent hrun with heffect | heffect
    · exact inv_effect ih heffect
    · exact inv_effect ih.settled heffect
  | interrupt _ hrun ih => exact inv_effect ih (effect_of_interrupt hrun)

/-! ## What is sent -/

/-- The last step of a history has one of the four effects on what the steps before it left. -/
theorem Reached.last {depth : Nat} {interactive : Bool} {history : List Step} {step : Step}
    {c' : Connection} (h : Reached depth interactive (history ++ [step]) c') :
    ∃ c, Inv history c ∧ Effect c step c' := by
  generalize hfull : history ++ [step] = full at h
  cases h with
  | new => simp at hfull
  | operation hbefore hrun =>
    obtain ⟨rfl, hstep⟩ := List.append_inj' hfull rfl
    obtain rfl := List.singleton_inj.1 hstep
    have hbetween := fun own? => keeps_interrupts own? depth
    rcases effect_of_runs hbetween hbefore.inv.coherent hrun with heffect | heffect
    · exact ⟨_, hbefore.inv, heffect⟩
    · exact ⟨_, hbefore.inv.settled, heffect⟩
  | interrupt hbefore hrun =>
    obtain ⟨rfl, hstep⟩ := List.append_inj' hfull rfl
    obtain rfl := List.singleton_inj.1 hstep
    exact ⟨_, hbefore.inv, effect_of_interrupt hrun⟩

/-- What a history starts with has been reached too. -/
theorem Reached.before {depth : Nat} {interactive : Bool} {before after : List Step} {c : Connection}
    (h : Reached depth interactive (before ++ after) c) : ∃ d, Reached depth interactive before d := by
  generalize hfull : before ++ after = full at h
  induction h generalizing after with
  | new =>
    obtain ⟨rfl, -⟩ := List.append_eq_nil_iff.1 hfull
    exact ⟨_, .new⟩
  | operation hbefore hrun ih =>
    rcases append_eq_snoc hfull with ⟨-, rfl⟩ | ⟨rest, -, hrest⟩
    · exact ⟨_, .operation hbefore hrun⟩
    · exact ih hrest
  | interrupt hbefore hrun ih =>
    rcases append_eq_snoc hfull with ⟨-, rfl⟩ | ⟨rest, -, hrest⟩
    · exact ⟨_, .interrupt hbefore hrun⟩
    · exact ih hrest

/-- Any step of a history has one of the four effects on what the steps before it left. -/
theorem Reached.step {depth : Nat} {interactive : Bool} {before after : List Step} {step : Step}
    {c : Connection} (h : Reached depth interactive (before ++ step :: after) c) :
    ∃ d d', Inv before d ∧ Effect d step d' := by
  have hsplit : before ++ step :: after = before ++ [step] ++ after := by simp
  rw [hsplit] at h
  obtain ⟨d', hreached⟩ := h.before
  obtain ⟨d, hinv, heffect⟩ := hreached.last
  exact ⟨d, d', hinv, heffect⟩

end QueryShell.Connection
