import Mathlib.Data.List.Induction
import QueryShell.Proofs.Loop.Interleaving

/-
How the loop and its interrupts share the state under the lock. `LoopAct` and `HandleAct` say once
what each of them can do in a step; `Inv` says where all threads stand, and that the state is what the
log makes of it.
-/
namespace QueryShell.Loop

open Program Pool

/-! ## Calls -/

/-- The call that lets the executor run statements again. -/
def clearCall : Call := .delegate .clearReset

/-- The call that makes the executor give up. -/
def resetCall : Call := .delegate .reset

/-- The call that runs a statement. -/
def executeCall (statement : String) : Call := .delegate (.execute statement)

/-- A call that neither runs a statement nor gives one up. -/
def Talk : Call → Prop
  | .console _ => True
  | .delegate .lastErrorCode => True
  | _ => False

/-! ## Pieces that happen at once -/

section Pieces

variable {s s' : Loop Unit} {events : List Event}

theorem runs_begin {a : Unit}
    (h : Runs alone (beginExecution Executor.delegated) s events a s') :
    events = [.asked clearCall, .answered clearCall ()] ∧
      s' = { s with execution := s.execution.start } := by
  obtain ⟨first, _, t, second, hclear, hstart, rfl⟩ := runs_bind h
  obtain ⟨rfl, rfl⟩ := runs_modify hstart
  cases hclear with
  | ask halone hdone =>
    obtain ⟨rfl, rfl⟩ := halone
    cases hdone
    exact ⟨rfl, rfl⟩

theorem runs_end {cancelled : Bool}
    (h : Runs alone endExecution s events cancelled s') :
    events = [] ∧ cancelled = s.execution.cancelled ∧
      s' = { s with execution := s.execution.finish } :=
  runs_modifyGet h

theorem runs_noteFailure {l : Loop Unit} (h : Runs alone noteFailure s events l s') :
    events = [] ∧ s' = { s with failed := true } := by
  obtain ⟨first, _, t, second, hmodify, hget, rfl⟩ := runs_bind h
  obtain ⟨rfl, rfl⟩ := runs_modify hmodify
  obtain ⟨rfl, -, rfl⟩ := runs_get hget
  exact ⟨rfl, rfl⟩

theorem runs_cancel {printer? : Option Printer} (h : Runs alone cancelRunning s events printer? s') :
    (s.execution.executing = true ∧ printer? = none ∧
      events = [.asked resetCall, .answered resetCall ()] ∧
      s' = { s with execution := s.execution.cancel }) ∨
    (s.execution.executing = false ∧ printer? = some s.printer ∧ events = [] ∧ s' = s) := by
  obtain ⟨first, l, t, second, hget, hrest, rfl⟩ := runs_bind h
  obtain ⟨rfl, rfl, rfl⟩ := runs_get hget
  cases hexecuting : t.execution.executing with
  | true =>
    rw [if_pos hexecuting] at hrest
    obtain ⟨third, _, u, fourth, hcancel, hrest, rfl⟩ := runs_bind hrest
    obtain ⟨rfl, rfl⟩ := runs_modify hcancel
    obtain ⟨fifth, _, v, sixth, hreset, hpure, rfl⟩ := runs_bind hrest
    obtain ⟨rfl, rfl, rfl⟩ := runs_pure hpure
    cases hreset with
    | ask halone hdone =>
      obtain ⟨rfl, rfl⟩ := halone
      cases hdone
      exact .inl ⟨rfl, rfl, rfl, rfl⟩
  | false =>
    rw [if_neg (by simp [hexecuting])] at hrest
    obtain ⟨rfl, rfl, rfl⟩ := runs_pure hrest
    exact .inr ⟨rfl, rfl, rfl, rfl⟩

end Pieces

/-! ## The thread of the loop -/

/-- What the loop does outside of a statement; the statements in `rest` may still come. -/
inductive Outside (rest : List String) : LoopThread (Option Int) → Prop where
  | next : Outside rest (executeAllThread rest)
  | stopped (code? : Option Int) : Outside rest (.done code?)
  | failed {next : Loop Unit → LoopThread (Option Int)} : (∀ l, Outside rest (next l)) →
      Outside rest (.atomic (fun _ => .failed) noteFailure next)
  | call {c : Call} {next : c.Reply → LoopThread (Option Int)} : Talk c →
      (∀ reply, Outside rest (next reply)) → Outside rest (.call c next)
  | waiting {c : Call} {next : c.Reply → LoopThread (Option Int)} : Talk c →
      (∀ reply, Outside rest (next reply)) → Outside rest (.waiting c next)

/-- Where the loop stands, inside of a statement or outside, and what it did last. -/
inductive Stage (rest : List String) : Bool → List (Act Mark) → LoopThread (Option Int) → Prop where
  | outside {acts : List (Act Mark)} {t : LoopThread (Option Int)} : Outside rest t →
      Stage rest false acts t
  | begun {acts : List (Act Mark)} {statement : String} {events : List Event}
      {next : Except Failure Unit → LoopThread (Option Int)} : (∀ r, Outside rest (next r)) →
      Stage rest true (acts ++ [.atomic (.began statement) events])
        (.call (executeCall statement) fun reply => finishThread statement reply next)
  | running {acts : List (Act Mark)} {statement : String} {events : List Event}
      {next : Except Failure Unit → LoopThread (Option Int)} : (∀ r, Outside rest (next r)) →
      Stage rest true
        (acts ++ [.atomic (.began statement) events, .event (.asked (executeCall statement))])
        (.waiting (executeCall statement) fun reply => finishThread statement reply next)
  | replied {acts : List (Act Mark)} {statement : String} {events : List Event}
      {reply : Except Failure Unit} {next : Except Failure Unit → LoopThread (Option Int)} :
      (∀ r, Outside rest (next r)) →
      Stage rest true
        (acts ++ [.atomic (.began statement) events, .event (.asked (executeCall statement)),
          .event (.answered (executeCall statement) reply)])
        (finishThread statement reply next)

theorem outside_writeLine {rest : List String} {sink : Sink} {text : String}
    {next : LoopThread (Option Int)} (h : Outside rest next) :
    Outside rest (writeLineThread sink text next) := by
  refine .call trivial fun reply => ?_
  cases reply with
  | ok => exact h
  | error reason => exact .call trivial fun _ => h

theorem executeAllThread_cons (statement : String) (rest : List String) :
    ∃ next, executeAllThread (statement :: rest) = executeThread statement next ∧
      ∀ r, Outside rest (next r) := by
  refine ⟨_, rfl, fun r => ?_⟩
  split
  · exact .next
  · exact .stopped _
  · refine .failed fun l => outside_writeLine ?_
    split
    · exact .stopped _
    · exact .next

/-- The statements that were begun, in order. -/
def begun (acts : List (Act Mark)) : List String :=
  acts.filterMap fun act =>
    match act with
    | .atomic (.began statement) _ => some statement
    | _ => none

/-- The execution state behind an act. -/
def after (e : Execution) : Act Mark → Execution
  | .atomic (.began _) _ => e.start
  | .atomic (.ended _ _ _) _ => e.finish
  | .atomic (.handled _) _ => if e.executing then e.cancel else e
  | _ => e

/-- What the loop may do behind `acts`, in the execution state `e`. -/
inductive LoopAct (acts : List (Act Mark)) (e : Execution) : Act Mark → Prop where
  | began (statement : String) : e.executing = false →
      LoopAct acts e (.atomic (.began statement) [.asked clearCall, .answered clearCall ()])
  | asked {earlier : List (Act Mark)} {statement : String} {events : List Event} :
      acts = earlier ++ [.atomic (.began statement) events] →
      LoopAct acts e (.event (.asked (executeCall statement)))
  | answered (statement : String) (reply : Except Failure Unit) :
      LoopAct acts e (.event (.answered (executeCall statement) reply))
  | ended {earlier : List (Act Mark)} {statement : String} {events : List Event}
      {reply : Except Failure Unit} :
      acts = earlier ++ [.atomic (.began statement) events, .event (.asked (executeCall statement)),
        .event (.answered (executeCall statement) reply)] →
      LoopAct acts e (.atomic (.ended statement reply (Execution.result e.cancelled reply)) [])
  | failed : LoopAct acts e (.atomic .failed [])
  | talks {c : Call} : Talk c → LoopAct acts e (.event (.asked c))
  | listens {c : Call} (reply : c.Reply) : Talk c → LoopAct acts e (.event (.answered c reply))

/-- The loop makes no calls but to clear the executor, to execute a statement, and to talk. -/
theorem LoopAct.asked_cases {acts : List (Act Mark)} {e : Execution} {act : Act Mark} {c : Call}
    (h : LoopAct acts e act) (hc : c ∈ act.asked) :
    (c = clearCall ∧ ∃ statement events, act = .atomic (.began statement) events) ∨
      (∃ statement, c = executeCall statement) ∨ Talk c := by
  cases h with
  | began statement => exact .inl ⟨List.mem_singleton.1 hc, statement, _, rfl⟩
  | asked => exact .inr (.inl ⟨_, List.mem_singleton.1 hc⟩)
  | talks htalk => exact .inr (.inr (List.mem_singleton.1 hc ▸ htalk))
  | answered | ended | failed | listens => cases hc

/-- One step of the loop: what it does fits to where it stood, and it stands somewhere again. -/
theorem stage_step {rest : List String} {inside : Bool} {acts : List (Act Mark)}
    {t t' : LoopThread (Option Int)} {s s' : Loop Unit} {act : Act Mark}
    (h : Stage rest inside acts t) (hinside : s.execution.executing = inside)
    (hstep : t.Step s act t' s') :
    LoopAct acts s.execution act ∧ s'.execution = after s.execution act ∧ s'.printer = s.printer ∧
      ∃ rest' inside', begun [act] ++ rest' = rest ∧ Stage rest' inside' (acts ++ [act]) t' ∧
        (after s.execution act).executing = inside' := by
  cases h with
  | outside houtside =>
    -- outside of a statement the loop talks, notes a failure, or begins the next statement
    cases houtside with
    | next =>
      cases rest with
      | nil => cases hstep
      | cons statement rest =>
        obtain ⟨next, hthread, hnext⟩ := executeAllThread_cons statement rest
        rw [hthread] at hstep
        cases hstep with
        | atomic hrun =>
          obtain ⟨rfl, rfl⟩ := runs_begin hrun
          exact ⟨.began statement hinside, rfl, rfl, rest, true, rfl, .begun hnext, rfl⟩
    | stopped => cases hstep
    | failed hnext =>
      cases hstep with
      | atomic hrun =>
        obtain ⟨rfl, rfl⟩ := runs_noteFailure hrun
        exact ⟨.failed, rfl, rfl, rest, false, rfl, .outside (hnext _), hinside⟩
    | call htalk hnext =>
      cases hstep with
      | ask =>
        exact ⟨.talks htalk, rfl, rfl, rest, false, rfl, .outside (.waiting htalk hnext), hinside⟩
    | waiting htalk hnext =>
      cases hstep with
      | answer =>
        exact ⟨.listens _ htalk, rfl, rfl, rest, false, rfl, .outside (hnext _), hinside⟩
  | begun hnext =>
    cases hstep with
    | ask =>
      refine ⟨.asked rfl, rfl, rfl, rest, true, rfl, ?_, hinside⟩
      rw [List.append_assoc]
      exact .running hnext
  | running hnext =>
    cases hstep with
    | answer =>
      refine ⟨.answered _ _, rfl, rfl, rest, true, rfl, ?_, hinside⟩
      rw [List.append_assoc]
      exact .replied hnext
  | replied hnext =>
    cases hstep with
    | atomic hrun =>
      obtain ⟨rfl, rfl, rfl⟩ := runs_end hrun
      exact ⟨.ended rfl, rfl, rfl, rest, false, rfl, .outside (hnext _), rfl⟩

/-! ## The threads of interrupts -/

/-- What an interrupt does, and where its thread stands. -/
inductive Handled (printer : Printer) : List (Act Mark) → LoopThread Unit → Prop where
  | coming : Handled printer [] handleThread
  | cancelled : Handled printer
      [.atomic (.handled true) [.asked resetCall, .answered resetCall ()]] (.done ())
  | reminded {acts : List (Act Mark)} {t : LoopThread Unit} : (remindThread printer).Path acts t →
      t.Talks Talk → Handled printer (.atomic (.handled false) [] :: acts) t

/-- What an interrupt may do in the execution state `e`. -/
inductive HandleAct (e : Execution) : Act Mark → Prop where
  | cancels : e.executing = true →
      HandleAct e (.atomic (.handled true) [.asked resetCall, .answered resetCall ()])
  | reminds : e.executing = false → HandleAct e (.atomic (.handled false) [])
  | talks {c : Call} : Talk c → HandleAct e (.event (.asked c))
  | listens {c : Call} (reply : c.Reply) : Talk c → HandleAct e (.event (.answered c reply))

theorem talks_remind (printer : Printer) : (remindThread printer).Talks Talk := by
  have hprobe : (Thread.call probeCall fun _ => .done () : LoopThread Unit).Talks Talk :=
    .call trivial fun _ => .done ()
  refine .call trivial fun reply => ?_
  cases reply with
  | ok => exact hprobe
  | error reason => exact .call trivial fun _ => hprobe

/-- One step of an interrupt. -/
theorem handled_step {acts : List (Act Mark)} {t t' : LoopThread Unit} {s s' : Loop Unit}
    {act : Act Mark} (h : Handled s.printer acts t) (hstep : t.Step s act t' s') :
    HandleAct s.execution act ∧ s'.execution = after s.execution act ∧ s'.printer = s.printer ∧
      Handled s.printer (acts ++ [act]) t' := by
  cases h with
  | coming =>
    cases hstep with
    | atomic hrun =>
      rcases runs_cancel hrun with ⟨hexecuting, rfl, rfl, rfl⟩ | ⟨hexecuting, rfl, rfl, rfl⟩
      · refine ⟨.cancels hexecuting, ?_, rfl, .cancelled⟩
        simp [after, hexecuting]
      · refine ⟨.reminds hexecuting, ?_, rfl, .reminded .here (talks_remind _)⟩
        simp [after, hexecuting]
  | cancelled => cases hstep
  | reminded hpath htalks =>
    have hpath' := hpath.snoc hstep
    cases htalks with
    | done => cases hstep
    | call htalk hnext =>
      cases hstep with
      | ask => exact ⟨.talks htalk, rfl, rfl, .reminded hpath' (.waiting htalk hnext)⟩
    | waiting htalk hnext =>
      cases hstep with
      | answer => exact ⟨.listens _ htalk, rfl, rfl, .reminded hpath' (hnext _)⟩

/-! ## The invariant -/

/-- The execution state behind all that was done. -/
def standing (log : Log Mark) : Execution :=
  log.foldl (fun e entry => after e entry.2) {}

theorem standing_snoc (log : Log Mark) (entry : Actor × Act Mark) :
    standing (log ++ [entry]) = after (standing log) entry.2 := by
  simp [standing]

/-- The loop before it executes statements. -/
def startOf (l : Loop Unit) (statements : List String) : Pool (Loop Unit) Mark (Option Int) where
  state := { l with execution := {} }
  main := executeAllThread statements

/-- Where all threads stand, and what the log says about the state that they share. -/
structure Inv (statements : List String) (printer : Printer) (log : Log Mark)
    (pool : Pool (Loop Unit) Mark (Option Int)) : Prop where
  execution : pool.state.execution = standing log
  samePrinter : pool.state.printer = printer
  main : ∃ rest inside, begun (actsOf .main log) ++ rest = statements ∧
    Stage rest inside (actsOf .main log) pool.main ∧ (standing log).executing = inside
  helpers : ∀ n t, pool.helpers[n]? = some t → Handled printer (actsOf (.helper n) log) t
  coming : ∀ n, pool.helpers.length ≤ n → actsOf (.helper n) log = []

theorem inv_start (l : Loop Unit) (statements : List String) :
    Inv statements l.printer [] (startOf l statements) :=
  ⟨rfl, rfl, ⟨statements, false, rfl, .outside .next, rfl⟩, by simp [startOf], fun _ _ => rfl⟩

/-- An interrupt neither begins nor ends a statement. -/
theorem HandleAct.executing {e : Execution} {act : Act Mark} (h : HandleAct e act) :
    (after e act).executing = e.executing := by
  cases h with
  | cancels hexecuting => simp [after, hexecuting, Execution.cancel]
  | reminds hexecuting => simp [after, hexecuting]
  | talks => rfl
  | listens => rfl

/-- An interrupt makes no calls but to make the executor give up, and to talk. -/
theorem HandleAct.asked_cases {e : Execution} {act : Act Mark} {c : Call} (h : HandleAct e act)
    (hc : c ∈ act.asked) : c = resetCall ∨ Talk c := by
  cases h with
  | cancels => exact .inl (List.mem_singleton.1 hc)
  | talks htalk => exact .inr (List.mem_singleton.1 hc ▸ htalk)
  | reminds | listens => cases hc

theorem begun_append (first second : List (Act Mark)) :
    begun (first ++ second) = begun first ++ begun second :=
  List.filterMap_append

section Steps

variable {statements : List String} {printer : Printer} {log : Log Mark}
  {pool : Pool (Loop Unit) Mark (Option Int)}

theorem Inv.main_step {act : Act Mark} {t : LoopThread (Option Int)} {s : Loop Unit}
    (h : Inv statements printer log pool) (hstep : pool.main.Step pool.state act t s) :
    LoopAct (actsOf .main log) (standing log) act ∧
      Inv statements printer (log ++ [(.main, act)]) { pool with state := s, main := t } := by
  obtain ⟨rest, inside, hbegun, hstage, hinside⟩ := h.main
  rw [← h.execution] at hinside
  obtain ⟨hact, hexecution, hprinter, rest', inside', hrest, hstage', hinside'⟩ :=
    stage_step hstage hinside hstep
  rw [h.execution] at hact hexecution hinside'
  refine ⟨hact, ?_, hprinter.trans h.samePrinter, ⟨rest', inside', ?_, ?_, ?_⟩, ?_, ?_⟩
  · rw [standing_snoc]
    exact hexecution
  · rw [actsOf_append, actsOf_self, begun_append, List.append_assoc, hrest]
    exact hbegun
  · rw [actsOf_append, actsOf_self]
    exact hstage'
  · rw [standing_snoc]
    exact hinside'
  · intro n u hn
    rw [actsOf_append, actsOf_other (by simp), List.append_nil]
    exact h.helpers n u hn
  · intro n hn
    rw [actsOf_append, actsOf_other (by simp), List.append_nil]
    exact h.coming n hn

theorem Inv.helper_step {n : Nat} {act : Act Mark} {t u : LoopThread Unit} {s : Loop Unit}
    (h : Inv statements printer log pool) (hn : pool.helpers[n]? = some t)
    (hstep : t.Step pool.state act u s) :
    HandleAct (standing log) act ∧ Inv statements printer (log ++ [(.helper n, act)])
      { pool with state := s, helpers := pool.helpers.set n u } := by
  have hlt : n < pool.helpers.length := (List.getElem?_eq_some_iff.1 hn).1
  have hhandled := h.helpers n t hn
  rw [← h.samePrinter] at hhandled
  obtain ⟨hact, hexecution, hprinter, hhandled'⟩ := handled_step hhandled hstep
  rw [h.samePrinter] at hhandled'
  rw [h.execution] at hact hexecution
  obtain ⟨rest, inside, hbegun, hstage, hinside⟩ := h.main
  refine ⟨hact, ?_, hprinter.trans h.samePrinter, ⟨rest, inside, ?_, ?_, ?_⟩, ?_, ?_⟩
  · rw [standing_snoc]
    exact hexecution
  · rw [actsOf_append, actsOf_other (by simp), List.append_nil]
    exact hbegun
  · rw [actsOf_append, actsOf_other (by simp), List.append_nil]
    exact hstage
  · rw [standing_snoc, hact.executing]
    exact hinside
  · intro m v hm
    by_cases hmn : m = n
    · subst hmn
      have hv : u = v := by simpa [hlt] using hm
      rw [actsOf_append, actsOf_self, ← hv]
      exact hhandled'
    · rw [actsOf_append, actsOf_other (by simpa using Ne.symm hmn), List.append_nil]
      exact h.helpers m v (by simpa [List.getElem?_set, Ne.symm hmn] using hm)
  · intro m hm
    have hlen : pool.helpers.length ≤ m := by simpa using hm
    rw [actsOf_append, actsOf_other (by simp; omega), List.append_nil]
    exact h.coming m hlen

theorem Inv.come (h : Inv statements printer log pool) :
    Inv statements printer log { pool with helpers := pool.helpers ++ [handleThread] } := by
  refine ⟨h.execution, h.samePrinter, h.main, ?_, ?_⟩
  · intro n t hn
    rcases Nat.lt_trichotomy n pool.helpers.length with hlt | heq | hgt
    · rw [List.getElem?_append_left hlt] at hn
      exact h.helpers n t hn
    · subst heq
      have ht : handleThread = t := by simpa using hn
      rw [← ht, h.coming _ (Nat.le_refl _)]
      exact .coming
    · rw [List.getElem?_eq_none (by simp; omega)] at hn
      cases hn
  · intro n hn
    rw [List.length_append, List.length_singleton] at hn
    exact h.coming n (by omega)

end Steps

/-- The invariant holds whatever all threads did. -/
theorem inv_reached {l : Loop Unit} {statements : List String} {log : Log Mark}
    {pool : Pool (Loop Unit) Mark (Option Int)}
    (h : Reached handleThread (startOf l statements) log pool) :
    Inv statements l.printer log pool := by
  induction h with
  | start => exact inv_start l statements
  | main _ hstep ih => exact (ih.main_step hstep).2
  | helper _ hn hstep ih => exact (ih.helper_step hn hstep).2
  | come _ ih => exact ih.come

end QueryShell.Loop
