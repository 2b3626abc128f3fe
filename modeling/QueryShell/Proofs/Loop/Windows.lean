import QueryShell.Proofs.Loop.Cancellation

/-
Interrupts hit exactly the statement during which they arrive. The window of a statement reaches from
its beginning to its end. An interrupt that takes the lock inside a window makes the executor give
up, once, and any other reminds the user; each statement begins with a clear executor; and what
failed inside a window that was hit is reported as an interrupt.
-/
namespace QueryShell.Loop

open Program Pool

/-! ## Windows -/

/-- The act begins or ends a statement. -/
def delimits : Act Mark → Bool
  | .atomic (.began _) _ => true
  | .atomic (.ended _ _ _) _ => true
  | _ => false

/-- An interrupt takes the lock. -/
def handles : Act Mark → Bool
  | .atomic (.handled _) _ => true
  | _ => false

/-- A statement has begun and not ended yet; `during` is what was done since. -/
def Window (log : Log Mark) (statement : String) (during : Log Mark) : Prop :=
  ∃ earlier events, log = earlier ++ (.main, .atomic (.began statement) events) :: during ∧
    ∀ entry ∈ during, delimits entry.2 = false

/-- Inside a window only interrupts change the execution state. -/
theorem foldl_during (during : Log Mark) (h : ∀ entry ∈ during, delimits entry.2 = false)
    (cancelled : Bool) :
    during.foldl (fun e entry => after e entry.2) { executing := true, cancelled } =
      { executing := true, cancelled := cancelled || during.any fun entry => handles entry.2 } := by
  induction during generalizing cancelled with
  | nil => simp
  | cons entry during ih =>
    have hrest := ih fun other hother => h other (List.mem_cons_of_mem _ hother)
    have hentry := h entry List.mem_cons_self
    obtain ⟨actor, act⟩ := entry
    rw [List.foldl_cons, List.any_cons]
    cases act with
    | event e => simpa [after, handles] using hrest cancelled
    | atomic mark events =>
      cases mark with
      | began statement => cases hentry
      | ended statement reply result => cases hentry
      | failed => simpa [after, handles] using hrest cancelled
      | handled hit => simpa [after, handles, Execution.cancel] using hrest true

/-- Inside a window a statement runs, and it is cancelled if an interrupt was handled. -/
theorem Window.standing_eq {log during : Log Mark} {statement : String}
    (h : Window log statement during) :
    standing log =
      { executing := true, cancelled := during.any fun entry => handles entry.2 } := by
  obtain ⟨earlier, events, rfl, hduring⟩ := h
  have hfold := foldl_during during hduring false
  rw [Bool.false_or] at hfold
  rw [← hfold]
  unfold standing
  rw [List.foldl_append]
  rfl

theorem Window.mem {log during : Log Mark} {statement : String} {entry : Actor × Act Mark}
    (h : Window log statement during) (hentry : entry ∈ during) : entry ∈ log := by
  obtain ⟨earlier, events, rfl, -⟩ := h
  exact List.mem_append_right _ (List.mem_cons_of_mem _ hentry)

/-- Without a statement that runs, nothing is left of the interrupts of earlier ones. -/
theorem standing_settled (log : Log Mark) (h : (standing log).executing = false) :
    standing log = {} := by
  induction log using List.reverseRecOn with
  | nil => rfl
  | append_singleton log entry ih =>
    rw [standing_snoc] at h ⊢
    obtain ⟨actor, act⟩ := entry
    cases act with
    | event e => exact ih h
    | atomic mark events =>
      cases mark with
      | began statement => cases h
      | ended statement reply result => rfl
      | failed => exact ih h
      | handled cancelled =>
        cases hexecuting : (standing log).executing with
        | true => simp [after, hexecuting, Execution.cancel] at h
        | false => simpa [after, hexecuting] using ih hexecuting

theorem Window.snoc {log during : Log Mark} {statement : String} (h : Window log statement during)
    {entry : Actor × Act Mark} (hentry : delimits entry.2 = false) :
    Window (log ++ [entry]) statement (during ++ [entry]) := by
  obtain ⟨earlier, events, rfl, hduring⟩ := h
  refine ⟨earlier, events, by simp, ?_⟩
  intro other hother
  rcases List.mem_append.1 hother with hother | hother
  · exact hduring other hother
  · rw [List.mem_singleton.1 hother]
    exact hentry

/-- A statement that runs has a window, if only the loop begins and ends statements. -/
theorem window_of_executing {log : Log Mark}
    (hmain : ∀ entry ∈ log, delimits entry.2 = true → entry.1 = .main)
    (h : (standing log).executing = true) : ∃ statement during, Window log statement during := by
  induction log using List.reverseRecOn with
  | nil => cases h
  | append_singleton log entry ih =>
    have hactor := hmain entry (List.mem_append_right _ List.mem_cons_self)
    have hlog : ∀ other ∈ log, delimits other.2 = true → other.1 = .main := fun other hother =>
      hmain other (List.mem_append_left _ hother)
    rw [standing_snoc] at h
    obtain ⟨actor, act⟩ := entry
    have hextend : (standing log).executing = true → delimits act = false →
        ∃ statement during, Window (log ++ [(actor, act)]) statement during := by
      intro hexecuting hdelimits
      obtain ⟨statement, during, hwindow⟩ := ih hlog hexecuting
      exact ⟨statement, _, hwindow.snoc hdelimits⟩
    cases act with
    | event e => exact hextend h rfl
    | atomic mark events =>
      cases mark with
      | began statement =>
        obtain rfl := hactor rfl
        exact ⟨statement, [], log, events, rfl, fun _ hother => by cases hother⟩
      | ended statement reply result => cases h
      | failed => exact hextend h rfl
      | handled hit =>
        refine hextend ?_ rfl
        by_cases hexecuting : (standing log).executing = true
        · exact hexecuting
        · simp [after, hexecuting] at h

/-! ## What interrupts do -/

/-- The calls that acts make, in order. -/
def calls (acts : List (Act Mark)) : List Call :=
  acts.flatMap Act.asked

/-- The call warns that something could not be printed. -/
def isWarning : Call → Bool
  | .console (.warn _ _) => true
  | _ => false

/-- The calls that acts make, but for warnings. -/
def essential (acts : List (Act Mark)) : List Call :=
  (calls acts).filter fun c => !isWarning c

/-- What an interrupt has done so far, in all. -/
inductive Response (printer : Printer) (t : LoopThread Unit) : List (Act Mark) → Prop where
  | coming : Response printer t []
  /-- It made the executor give up, once, and that is all. -/
  | cancelled {events : List Event} (hcalls : calls [.atomic (.handled true) events] = [resetCall]) :
      Response printer t [.atomic (.handled true) events]
  /-- It printed the notice and looked for an error code, once each, unless it is still about to. -/
  | reminded {acts : List (Act Mark)} (hevents : ∀ act ∈ acts, ∃ e, act = .event e)
      (hcalls : essential acts <+: [noticeCall printer, probeCall])
      (hdone : t = .done () → essential acts = [noticeCall printer, probeCall]) :
      Response printer t (.atomic (.handled false) [] :: acts)

/-- A thread that has still to make the calls of `plan`, warnings apart. -/
structure Plans (plan : List Call) (acts : List (Act Mark)) (t : LoopThread Unit) : Prop where
  events : ∀ act ∈ acts, ∃ e, act = .event e
  started : essential acts <+: plan
  finished : t = .done () → essential acts = plan

theorem plans_done {acts : List (Act Mark)} {t : LoopThread Unit}
    (h : (Thread.done () : LoopThread Unit).Path acts t) : Plans [] acts t := by
  obtain ⟨rfl, rfl⟩ := Thread.path_done h
  exact ⟨by simp, List.prefix_refl [], fun _ => rfl⟩

/-- A call comes first in the plan, unless it is a warning. -/
theorem plans_call {c : Call} {next : c.Reply → LoopThread Unit} {plan whole : List Call}
    {acts : List (Act Mark)} {t : LoopThread Unit}
    (hwhole : whole = (if isWarning c then [] else [c]) ++ plan) (h : (Thread.call c next).Path acts t)
    (hnext : ∀ reply rest, (next reply).Path rest t → Plans plan rest t) : Plans whole acts t := by
  subst hwhole
  have hasked : essential [.event (.asked c)] = if isWarning c then [] else [c] := by
    cases hc : isWarning c <;> simp [essential, calls, Act.asked, Event.asked?, hc]
  rcases Thread.path_call h with ⟨rfl, rfl⟩ | ⟨rfl, rfl⟩ | ⟨reply, rest, rfl, hrest⟩
  · exact ⟨by simp, List.nil_prefix, fun hdone => by cases hdone⟩
  · refine ⟨by simp, ?_, fun hdone => by cases hdone⟩
    rw [hasked]
    exact List.prefix_append _ plan
  · obtain ⟨hevents, hstarted, hfinished⟩ := hnext reply rest hrest
    have hall : essential (.event (.asked c) :: .event (.answered c reply) :: rest) =
        (if isWarning c then [] else [c]) ++ essential rest := by
      rw [← hasked]
      cases hc : isWarning c <;> simp [essential, calls, Act.asked, Event.asked?, hc]
    refine ⟨?_, ?_, ?_⟩
    · simpa using hevents
    · rw [hall]
      exact (List.prefix_append_right_inj _).2 hstarted
    · intro hdone
      rw [hall, hfinished hdone]

theorem plans_remind {printer : Printer} {acts : List (Act Mark)} {t : LoopThread Unit}
    (h : (remindThread printer).Path acts t) : Plans [noticeCall printer, probeCall] acts t := by
  have hprobe : ∀ acts, (Thread.call probeCall fun _ => .done () : LoopThread Unit).Path acts t →
      Plans [probeCall] acts t := fun acts hpath =>
    plans_call rfl hpath fun _ _ hdone => plans_done hdone
  refine plans_call (c := noticeCall printer) rfl h fun reply rest hrest => ?_
  cases reply with
  | ok => exact hprobe rest hrest
  | error reason => exact plans_call rfl hrest fun _ rest hrest => hprobe rest hrest

theorem response_of_handled {printer : Printer} {acts : List (Act Mark)} {t : LoopThread Unit}
    (h : Handled printer acts t) : Response printer t acts := by
  cases h with
  | coming => exact .coming
  | cancelled => exact .cancelled rfl
  | reminded hpath _ =>
    have hplans := plans_remind hpath
    exact .reminded hplans.events hplans.started hplans.finished

/-! ## All interleavings -/

section Reached

variable {l : Loop Unit} {statements : List String} {before after : Log Mark} {log : Log Mark}
  {pool : Pool (Loop Unit) Mark (Option Int)}

theorem loopAct_of_reached {act : Act Mark}
    (h : Reached handleThread (startOf l statements) (before ++ (.main, act) :: after) pool) :
    LoopAct (actsOf .main before) (standing before) act := by
  obtain ⟨pool', t, s, hbefore, hstep⟩ := h.main_step
  exact ((inv_reached hbefore).main_step hstep).1

theorem handleAct_of_reached {n : Nat} {act : Act Mark}
    (h : Reached handleThread (startOf l statements) (before ++ (.helper n, act) :: after) pool) :
    HandleAct (standing before) act := by
  obtain ⟨pool', t, u, s, hbefore, hn, hstep⟩ := h.helper_step
  exact ((inv_reached hbefore).helper_step hn hstep).1

/-- Only the loop begins and ends statements. -/
theorem main_of_delimits (h : Reached handleThread (startOf l statements) log pool) :
    ∀ entry ∈ log, delimits entry.2 = true → entry.1 = .main := by
  rintro ⟨actor, act⟩ hentry hdelimits
  obtain ⟨before, after, rfl⟩ := List.append_of_mem hentry
  cases actor with
  | main => rfl
  | helper n => cases handleAct_of_reached h <;> cases hdelimits

/-- A statement runs exactly inside a window. -/
theorem executing_iff_window (h : Reached handleThread (startOf l statements) log pool) :
    (standing log).executing = true ↔ ∃ statement during, Window log statement during := by
  constructor
  · exact window_of_executing (main_of_delimits h)
  · rintro ⟨statement, during, hwindow⟩
    rw [hwindow.standing_eq]

/-- What the loop did since it began a statement lies in the window of that statement. -/
theorem window_of_acts (h : Reached handleThread (startOf l statements) log pool)
    {earlier acts : List (Act Mark)} {statement : String} {events : List Event}
    (hacts : actsOf .main log = earlier ++ .atomic (.began statement) events :: acts)
    (hdelimits : ∀ act ∈ acts, delimits act = false) :
    ∃ during, Window log statement during ∧ actsOf .main during = acts := by
  unfold actsOf at hacts
  obtain ⟨front, back, rfl, -, hback⟩ := List.filterMap_eq_append_iff.1 hacts
  obtain ⟨others, entry, during, rfl, -, hentry, hduring⟩ := List.filterMap_eq_cons_iff.1 hback
  obtain ⟨actor, act⟩ := entry
  obtain ⟨rfl, rfl⟩ : actor = .main ∧ act = .atomic (.began statement) events := by
    simpa using hentry
  refine ⟨during, ⟨front ++ others, events, by simp, ?_⟩, hduring⟩
  intro other hother
  by_contra hne
  -- what delimits is done by the loop, so it is among its acts, none of which does
  have hmain := main_of_delimits h other (by simp [hother]) (by simpa using hne)
  have hact : other.2 ∈ acts := by
    rw [← hduring]
    exact List.mem_filterMap.2 ⟨other, hother, by simp [hmain]⟩
  exact hne (hdelimits other.2 hact)

/-- The executor's reply is a failure, and no request to exit. -/
def Fails (reply : Except Failure Unit) : Prop :=
  ∃ e, reply = .error e ∧ e.isExit = false

/-- An interrupt took the lock meanwhile. -/
def Hit (during : Log Mark) : Prop :=
  ∃ n cancelled events, (.helper n, .atomic (.handled cancelled) events) ∈ during

/-- Only interrupts take the lock as interrupts. -/
theorem any_handles_iff (h : Reached handleThread (startOf l statements) log pool)
    {during : Log Mark} (hduring : ∀ entry ∈ during, entry ∈ log) :
    (during.any fun entry => handles entry.2) = true ↔ Hit during := by
  rw [List.any_eq_true]
  constructor
  · rintro ⟨⟨actor, act⟩, hentry, hhandles⟩
    obtain ⟨before, after, rfl⟩ := List.append_of_mem (hduring _ hentry)
    cases actor with
    | main => cases loopAct_of_reached h <;> cases hhandles
    | helper n =>
      cases handleAct_of_reached h with
      | cancels => exact ⟨n, true, _, hentry⟩
      | reminds => exact ⟨n, false, _, hentry⟩
      | talks | listens => cases hhandles
  · rintro ⟨n, cancelled, events, hentry⟩
    exact ⟨_, hentry, rfl⟩

/-- An interrupt finds a statement to cancel exactly inside a window. -/
theorem handled_iff_window {n : Nat} {cancelled : Bool} {events : List Event}
    (h : Reached handleThread (startOf l statements)
      (before ++ (.helper n, .atomic (.handled cancelled) events) :: after) pool) :
    cancelled = true ↔ ∃ statement during, Window before statement during := by
  obtain ⟨pool', hbefore⟩ := h.before
  rw [← executing_iff_window hbefore]
  cases handleAct_of_reached h with
  | cancels hexecuting => simp [hexecuting]
  | reminds hexecuting => simp [hexecuting]

/-- A statement clears the executor when it begins, and begins only outside of all windows. -/
theorem clears_of_began {statement : String} {events : List Event}
    (h : Reached handleThread (startOf l statements)
      (before ++ (.main, .atomic (.began statement) events) :: after) pool) :
    events.filterMap Event.asked? = [clearCall] ∧ ¬ ∃ other during, Window before other during := by
  obtain ⟨pool', hbefore⟩ := h.before
  rw [← executing_iff_window hbefore]
  cases loopAct_of_reached h with
  | began _ hexecuting => exact ⟨rfl, by simp [hexecuting]⟩

theorem resetCall_not_mem (h : Reached handleThread (startOf l statements) log pool) :
    resetCall ∉ calls (actsOf .main log) := by
  intro hmem
  obtain ⟨act, hact, hasked⟩ := List.mem_flatMap.1 hmem
  obtain ⟨before, after, rfl⟩ := List.append_of_mem (mem_actsOf.1 hact)
  rcases (loopAct_of_reached h).asked_cases hasked with ⟨hclear, -⟩ | ⟨statement, hexecute⟩ | htalk
  · cases hclear
  · cases hexecute
  · exact htalk

theorem began_of_clearCall (h : Reached handleThread (startOf l statements) log pool)
    {entry : Actor × Act Mark} (hentry : entry ∈ log) (hasked : clearCall ∈ entry.2.asked) :
    ∃ statement events, entry = (.main, .atomic (.began statement) events) := by
  obtain ⟨actor, act⟩ := entry
  obtain ⟨before, after, rfl⟩ := List.append_of_mem hentry
  cases actor with
  | main =>
    rcases (loopAct_of_reached h).asked_cases hasked with ⟨-, hbegan⟩ | ⟨statement, hexecute⟩ | htalk
    · obtain ⟨statement, events, rfl⟩ := hbegan
      exact ⟨statement, events, rfl⟩
    · cases hexecute
    · exact htalk.elim
  | helper n =>
    rcases (handleAct_of_reached h).asked_cases hasked with hreset | htalk
    · cases hreset
    · exact htalk.elim

theorem began_of_executeCall {statement : String}
    (h : Reached handleThread (startOf l statements)
      (before ++ (.main, .event (.asked (executeCall statement))) :: after) pool) :
    ∃ earlier events, actsOf .main before = earlier ++ [.atomic (.began statement) events] := by
  have hact := loopAct_of_reached h
  generalize hc : executeCall statement = c at hact
  cases hact with
  | asked hacts =>
    injection hc with hc
    injection hc with hc
    subst hc
    exact ⟨_, _, hacts⟩
  | talks htalk =>
    subst hc
    exact htalk.elim

/-- The result of a statement that is not hit, or that succeeds or exits, is the executor's reply. -/
theorem result_eq {cancelled : Bool} {reply : Except Failure Unit}
    (h : ¬ (Fails reply ∧ cancelled = true)) : Execution.result cancelled reply = reply := by
  cases reply with
  | ok => rfl
  | error e =>
    cases hexit : e.isExit with
    | true => simp [Execution.result, hexit]
    | false =>
      have hcancelled : cancelled = false := by
        simpa using fun hcancelled => h ⟨⟨e, rfl, hexit⟩, hcancelled⟩
      simp [Execution.result, hcancelled]

theorem result_of_ended {statement : String} {reply result : Except Failure Unit}
    {events : List Event}
    (h : Reached handleThread (startOf l statements)
      (before ++ (.main, .atomic (.ended statement reply result) events) :: after) pool) :
    ∃ during, Window before statement during ∧
      (.main, .event (.answered (executeCall statement) reply)) ∈ during ∧
      (Fails reply ∧ Hit during → result = .error .interrupted) ∧
      (¬ (Fails reply ∧ Hit during) → result = reply) := by
  obtain ⟨pool', hbefore⟩ := h.before
  cases loopAct_of_reached h with
  | ended hacts =>
    obtain ⟨during, hwindow, hduring⟩ := window_of_acts hbefore hacts (by simp [delimits])
    have hcancelled : (standing before).cancelled = true ↔ Hit during := by
      rw [hwindow.standing_eq]
      exact any_handles_iff hbefore fun _ => hwindow.mem
    refine ⟨during, hwindow, ?_, ?_, ?_⟩
    · rw [← mem_actsOf, hduring]
      simp
    · rintro ⟨⟨e, rfl, hexit⟩, hhit⟩
      simp [Execution.result, hcancelled.2 hhit, hexit]
    · intro hnot
      rw [← hcancelled] at hnot
      exact result_eq hnot

end Reached

/-! ## The main result -/

/-- What holds of the interrupts of a loop that executes statements, in every interleaving. -/
structure Interruptible (statements : List String) (printer : Printer) (log : Log Mark)
    (pool : Pool (Loop Unit) Mark (Option Int)) : Prop where
  /-- An interrupt cancels a statement exactly if it takes the lock inside the window of one, behind
  the call that cleared the executor for it. -/
  decided : ∀ before n cancelled events after,
    log = before ++ (.helper n, .atomic (.handled cancelled) events) :: after →
      (cancelled = true ↔ ∃ statement during, Window before statement during)
  /-- An interrupt that cancels makes the executor give up once and does nothing else; any other
  prints the notice and looks for an error code, once each, and makes nothing give up. -/
  responds : ∀ n t, pool.helpers[n]? = some t → Response printer t (actsOf (.helper n) log)
  /-- The loop itself never makes the executor give up. -/
  spares : resetCall ∉ calls (actsOf .main log)
  /-- A statement begins with a clear executor, behind the windows of all before it. -/
  clears : ∀ before statement events after,
    log = before ++ (.main, .atomic (.began statement) events) :: after →
      events.filterMap Event.asked? = [clearCall] ∧ ¬ ∃ other during, Window before other during
  /-- The executor is cleared at no other time. -/
  clearsOnly : ∀ entry ∈ log, clearCall ∈ entry.2.asked →
    ∃ statement events, entry = (.main, .atomic (.began statement) events)
  /-- The last that the loop did before it executes a statement was to begin it. -/
  executes : ∀ before statement after,
    log = before ++ (.main, .event (.asked (executeCall statement))) :: after →
      ∃ earlier events, actsOf .main before = earlier ++ [.atomic (.began statement) events]
  /-- The statements begin in their order, each once. -/
  ordered : begun (actsOf .main log) <+: statements
  /-- The executor's reply becomes the statement's result, but for failures, other than a request to
  exit, of a statement whose window an interrupt fell into. -/
  results : ∀ before statement reply result events after,
    log = before ++ (.main, .atomic (.ended statement reply result) events) :: after →
      ∃ during, Window before statement during ∧
        (.main, .event (.answered (executeCall statement) reply)) ∈ during ∧
        (Fails reply ∧ Hit during → result = .error .interrupted) ∧
        (¬ (Fails reply ∧ Hit during) → result = reply)
  /-- Outside of all windows nothing is left of an interrupt. -/
  settled : (¬ ∃ statement during, Window log statement during) → pool.state.execution = {}

/-- Interrupts hit exactly the statement during which they arrive, in every interleaving and
whatever the executor replies. -/
theorem reached_interruptible {l : Loop Unit} {statements : List String} {log : Log Mark}
    {pool : Pool (Loop Unit) Mark (Option Int)}
    (h : Reached handleThread (startOf l statements) log pool) :
    Interruptible statements l.printer log pool where
  decided := by
    rintro before n cancelled events after rfl
    exact handled_iff_window h
  responds := by
    intro n t hn
    exact response_of_handled ((inv_reached h).helpers n t hn)
  spares := resetCall_not_mem h
  clears := by
    rintro before statement events after rfl
    exact clears_of_began h
  clearsOnly := by
    intro entry hentry hasked
    exact began_of_clearCall h hentry hasked
  executes := by
    rintro before statement after rfl
    exact began_of_executeCall h
  ordered := by
    obtain ⟨rest, inside, hbegun, -, -⟩ := (inv_reached h).main
    exact ⟨rest, hbegun⟩
  results := by
    rintro before statement reply result events after rfl
    exact result_of_ended h
  settled := by
    intro hnone
    rw [← executing_iff_window h, Bool.not_eq_true] at hnone
    rw [(inv_reached h).execution]
    exact standing_settled log hnone

/-- No statement succeeds. -/
def failing : (call : Call) → call.Reply
  | .delegate (.execute _) => .error .noMoreInput
  | call => willing call

/-- An interrupt arrives while the first of two statements runs. -/
def interruptFirst : List Turn :=
  [.main, .main, .come, .helper 0, .main, .main, .main, .main, .main, .main, .main, .main, .main]

/-- Only the statement that was interrupted reports that. -/
theorem interruptible_interruptFirst :
    let l : Loop Unit := { printer := { format := .plain }, executor := () }
    let run := replay failing handleThread interruptFirst (startOf l ["first;", "second;"])
    Reached handleThread (startOf l ["first;", "second;"]) run.1 run.2 ∧
      run.1.filterMap (fun entry =>
        match entry.2 with
        | .atomic (.ended statement _ (.error e)) _ => some (statement, e)
        | _ => none) = [("first;", .interrupted), ("second;", .noMoreInput)] ∧
      Interruptible ["first;", "second;"] l.printer run.1 run.2 := by
  intro l run
  have hreached : Reached handleThread (startOf l ["first;", "second;"]) run.1 run.2 :=
    reached_replay failing interruptFirst .start
  exact ⟨hreached, by decide +kernel, reached_interruptible hreached⟩

end QueryShell.Loop
