import QueryShell.Proofs.History.RoundTrip
import QueryShell.Proofs.Loop.Frames

/-
The loop executes exactly what was completed. Reading, recording and executing are nested loops in
which interrupts may arrive at any call; a run of them is held against one flat list, the statements
that everything typed completes. `Passes` says what a piece of a run can be seen to do and what it
leaves alone, `readOnce_runs` and `executeAll_runs` say it of one reading and of the statements of one
line, and the induction over what is typed carries the state of the splitter along.
-/
namespace QueryShell.Loop

open Program Statement

/-! ## What can be seen of a loop -/

/-- What the loop does to the reader, the editor and the executor. -/
inductive Sight where
  | read (reply : Except Failure Read)
  /-- An entry is made available to the editor. -/
  | recalled (entry : String)
  | started (statement : String)
  | ended (statement : String) (reply : Except Failure Unit)

/-- What can be seen of an event. -/
def sight? : Event → Option Sight
  | .answered (.console (.readLine _)) reply => some (.read reply)
  | .asked (.console (.recall entry)) => some (.recalled entry)
  | .asked (.delegate (.execute statement)) => some (.started statement)
  | .answered (.delegate (.execute statement)) reply => some (.ended statement reply)
  | _ => none

/-- What can be seen of a run. -/
def seen (events : List Event) : List Sight :=
  events.filterMap sight?

/-- A piece of a run: what can be seen of it, and the statements that it records. Neither the text
that waits for its end nor the settings change. -/
structure Passes (sights : List Sight) (recorded : List String) (l : Loop Unit) (events : List Event)
    (l' : Loop Unit) : Prop where
  splitter : l'.splitter = l.splitter
  settings : l'.settings = l.settings
  history : l'.history = l.history.appendAll recorded
  seen : seen events = sights

/-- A piece of a run that is nothing to the reader, the editor and the executor. -/
abbrev Aside : Interference (Loop Unit) :=
  Passes [] []

theorem Passes.trans {sights sights' : List Sight} {recorded recorded' : List String}
    {l m l' : Loop Unit} {first second : List Event} (h₁ : Passes sights recorded l first m)
    (h₂ : Passes sights' recorded' m second l') :
    Passes (sights ++ sights') (recorded ++ recorded') l (first ++ second) l' where
  splitter := h₂.splitter.trans h₁.splitter
  settings := h₂.settings.trans h₁.settings
  history := by
    rw [h₂.history, h₁.history, History.appendAll, History.appendAll, History.appendAll,
      List.foldl_append]
  seen := by
    rw [Loop.seen, List.filterMap_append]
    exact congrArg₂ _ h₁.seen h₂.seen

theorem aside_frame : Frame Aside where
  refl _ := ⟨rfl, rfl, rfl, rfl⟩
  trans := Passes.trans

/-- A change of what this is not about. -/
theorem Aside.of_fields {l l' : Loop Unit} (hsplitter : l'.splitter = l.splitter)
    (hsettings : l'.settings = l.settings) (hhistory : l'.history = l.history) : Aside l [] l' :=
  ⟨hsplitter, hsettings, hhistory, rfl⟩

theorem aside_onExecution {between : Interference (Loop Unit)} (f : Execution → Execution) :
    Obeys between Aside (onExecution f) :=
  obeys_modify fun _ => .of_fields rfl rfl rfl

/-- What waits in the splitter could as well be something else. -/
theorem Passes.withSplitter {sights : List Sight} {recorded : List String} {l l' : Loop Unit}
    {events : List Event} (h : Passes sights recorded l events l') (a : Accumulator) :
    Passes sights recorded { l with splitter := a } events { l' with splitter := a } :=
  ⟨rfl, h.settings, h.history, h.seen⟩

/-! ## Calls -/

section Calls

variable {between : Interference (Loop Unit)}
  (hbetween : ∀ l events l', between l events l' → Aside l events l')

include hbetween

/-- A call is seen as itself, whatever comes in between. -/
theorem passes_call {c : Call} {reply : c.Reply} {l l' : Loop Unit} {events : List Event}
    (h : Runs between (call c : Program (Loop Unit) c.Reply) l events reply l') :
    Passes ((sight? (.asked c)).toList ++ (sight? (.answered c reply)).toList) [] l events l' := by
  obtain ⟨during, hduring, rfl⟩ := runs_call h
  have haside := hbetween _ _ _ hduring
  refine ⟨haside.splitter, haside.settings, haside.history, ?_⟩
  have hduring : during.filterMap sight? = [] := haside.seen
  cases hasked : sight? (.asked c) <;> cases hanswered : sight? (.answered c reply) <;>
    simp [seen, hasked, hanswered, hduring]

theorem aside_call {c : Call} (hasked : sight? (.asked c) = none)
    (hanswered : ∀ reply, sight? (.answered c reply) = none) :
    Obeys between Aside (call c : Program (Loop Unit) c.Reply) := by
  intro l events reply l' h
  have hpasses := passes_call hbetween h
  rw [hasked, hanswered reply] at hpasses
  exact hpasses

theorem aside_warn (origin : Origin) (text : String) :
    Obeys between Aside (warn origin text : Program (Loop Unit) Unit) :=
  aside_call hbetween (c := .console (.warn origin text)) rfl fun _ => rfl

theorem aside_print (sink : Sink) (text : String) :
    Obeys between Aside (console (.print sink text) : Program (Loop Unit) (Except String Unit)) :=
  aside_call hbetween (c := .console (.print sink text)) rfl fun _ => rfl

theorem aside_writeLine (sink : Sink) (text : String) :
    Obeys between Aside (Printer.writeLine sink text : Program (Loop Unit) Unit) :=
  aside_frame.obeys_writeLine (aside_print hbetween) (aside_warn hbetween _) _ _

theorem aside_printIfVerbose (p : Printer) (text : String) :
    Obeys between Aside (p.printIfVerbose text : Program (Loop Unit) Unit) :=
  aside_frame.obeys_printIfVerbose (aside_print hbetween) (aside_warn hbetween _) _ _

theorem aside_lastErrorCode :
    Obeys between Aside (onExecutor Executor.delegated.lastErrorCode) :=
  aside_call hbetween (c := .delegate .lastErrorCode) rfl fun _ => rfl

/-- Whether an interrupt cancels a statement or reminds the user, nothing is read, recorded or
executed. -/
theorem aside_handle : Obeys between Aside (handle .delegated) :=
  obeys_handle aside_frame (fun _ => .of_fields rfl rfl rfl)
    (aside_call hbetween (c := .delegate .reset) rfl fun _ => rfl) (aside_writeLine hbetween)
    (aside_lastErrorCode hbetween)

end Calls

theorem Aside.interrupted {l l' : Loop Unit} {events : List Event} (h : Aside l events l') :
    Aside l (.interrupted :: events) l' :=
  ⟨h.splitter, h.settings, h.history, h.seen⟩

/-- Interrupts are nothing to the reader, the editor and the executor's statements. -/
theorem aside_interrupts {depth : Nat} (l : Loop Unit) (events : List Event) (l' : Loop Unit)
    (h : interrupts (handle .delegated) depth l events l') : Aside l events l' := by
  refine interrupts_frame aside_frame (fun between hbetween l events l' hrun => ?_) depth h
  exact (aside_handle hbetween _ _ _ _ hrun).interrupted

/-! ## Recording -/

section Runs

variable {depth : Nat} {l l' : Loop Unit} {events : List Event}

/-- What the editor sees of recorded statements. -/
def recalls (statements : List String) : List Sight :=
  (statements.filterMap History.entryOf?).map .recalled

theorem record_runs {statement : String} {u : Unit}
    (h : Runs (interrupts (handle .delegated) depth) (record .delegated statement) l events u l') :
    Passes (recalls [statement]) [statement] l events l' := by
  obtain ⟨first, _, m, second, hnote, hrecall, rfl⟩ := runs_bind h
  obtain ⟨rfl, rfl⟩ := runs_modify hnote
  -- the history grows first, and then the editor hears of it
  suffices hrest : Passes (recalls [statement]) []
      { l with history := l.history.append statement } second l' from
    ⟨hrest.splitter, hrest.settings, hrest.history, hrest.seen⟩
  cases hentry : History.entryOf? statement with
  | none =>
    rw [hentry] at hrecall
    obtain ⟨rfl, -, rfl⟩ := runs_pure hrecall
    simpa [recalls, hentry] using aside_frame.refl _
  | some entry =>
    rw [hentry] at hrecall
    have hcall := passes_call aside_interrupts (c := .console (.recall entry)) hrecall
    simpa [recalls, hentry, sight?] using hcall

theorem recordAll_runs {statements : List String} {u : Unit}
    (h : Runs (interrupts (handle .delegated) depth) (statements.forM (record .delegated)) l events u
      l') : Passes (recalls statements) statements l events l' := by
  induction statements generalizing l events with
  | nil =>
    obtain ⟨rfl, -, rfl⟩ := runs_pure h
    exact aside_frame.refl _
  | cons statement statements ih =>
    obtain ⟨first, _, m, second, hfirst, hrest, rfl⟩ := runs_bind h
    have hrecalls : recalls (statement :: statements) = recalls [statement] ++ recalls statements := by
      rw [← List.singleton_append, recalls, List.filterMap_append, List.map_append]
      rfl
    rw [hrecalls]
    exact (record_runs hfirst).trans (ih hrest)

/-! ## Executing -/

/-- The reply to a statement ends the run: it asks to exit, or it is a failure and the policy stops
at the first. -/
def stops (policy : ErrorPolicy) : Except Failure Unit → Bool
  | .ok () => false
  | .error (.exit _) => true
  | .error _ => policy = .failFast

/-- What the executor sees of statements that are executed one after the other. -/
def turns (executed : List (String × Except Failure Unit)) : List Sight :=
  executed.flatMap fun (statement, reply) => [.started statement, .ended statement reply]

/-- One statement is executed once; an interrupt may turn its failure into another. -/
theorem execute_runs {statement : String} {result : Except Failure Unit}
    (h : Runs (interrupts (handle .delegated) depth) (execute .delegated statement).run l events result
      l') :
    ∃ reply cancelled, result = Execution.result cancelled reply ∧
      Passes (turns [(statement, reply)]) [] l events l' := by
  obtain ⟨first, _, l₁, _, hbegin, hafter, rfl⟩ := Attempt.runs_lift_bind h
  obtain ⟨second, reply, l₂, _, hexecute, hended, rfl⟩ := Attempt.runs_lift_bind hafter
  obtain ⟨third, cancelled, l₃, _, hend, hresult, rfl⟩ := Attempt.runs_lift_bind hended
  obtain ⟨rfl, rfl, rfl⟩ := runs_pure hresult
  have hbegin : Aside l first l₁ := by
    obtain ⟨before, _, m, after, hclear, hstart, rfl⟩ := runs_bind hbegin
    have hclear := aside_call aside_interrupts (c := .delegate .clearReset) rfl (fun _ => rfl) _ _ _ _
      hclear
    exact aside_frame.trans hclear (aside_onExecution _ _ _ _ _ hstart)
  have hexecute := passes_call aside_interrupts (c := .delegate (.execute statement)) hexecute
  have hend : Aside l₂ third l' := by
    obtain ⟨rfl, -, rfl⟩ := runs_modifyGet hend
    exact .of_fields rfl rfl rfl
  refine ⟨reply, cancelled, rfl, ?_⟩
  simpa [turns, sight?] using (hbegin.trans hexecute).trans hend

/-- An interrupt does not change whether the run stops. -/
theorem stops_result (policy : ErrorPolicy) (cancelled : Bool) (reply : Except Failure Unit) :
    stops policy (Execution.result cancelled reply) = stops policy reply := by
  rcases reply with e | _
  · cases e <;> cases cancelled <;> rfl
  · rfl

/-- A failure that is no request to exit stops the run under one policy only. -/
theorem stops_failure (policy : ErrorPolicy) {e : Failure} (he : ∀ code, e ≠ .exit code) :
    stops policy (.error e) = decide (policy = .failFast) := by
  cases e with
  | exit code => exact absurd rfl (he code)
  | _ => rfl

/-- Statements are executed in their order, each once, up to and including the first whose reply stops
the run; `onward` if there is none. -/
inductive Course (policy : ErrorPolicy) :
    List String → List (String × Except Failure Unit) → (onward : Bool) → Prop where
  | done : Course policy [] [] true
  | stop {statement : String} {rest : List String} {reply : Except Failure Unit} :
      stops policy reply = true → Course policy (statement :: rest) [(statement, reply)] false
  | next {statement : String} {rest : List String} {reply : Except Failure Unit}
      {executed : List (String × Except Failure Unit)} {onward : Bool} :
      stops policy reply = false → Course policy rest executed onward →
      Course policy (statement :: rest) ((statement, reply) :: executed) onward

theorem Course.append {policy : ErrorPolicy} {front back : List String}
    {executed executed' : List (String × Except Failure Unit)} {onward : Bool}
    (h : Course policy front executed true) (h' : Course policy back executed' onward) :
    Course policy (front ++ back) (executed ++ executed') onward := by
  generalize honward : true = o at h
  induction h with
  | done => exact h'
  | stop => cases honward
  | next hreply _ ih => exact .next hreply (ih honward)

/-- What is there behind the statement that stopped the run makes no difference. -/
theorem Course.stopped {policy : ErrorPolicy} {front : List String}
    {executed : List (String × Except Failure Unit)} (h : Course policy front executed false)
    (back : List String) : Course policy (front ++ back) executed false := by
  generalize honward : false = o at h ⊢
  induction h with
  | done => cases honward
  | stop hreply => exact .stop hreply
  | next hreply _ ih => exact .next hreply (ih honward)

/-- A run that nothing stopped executed everything. -/
theorem Course.map_fst {policy : ErrorPolicy} {statements : List String}
    {executed : List (String × Except Failure Unit)} (h : Course policy statements executed true) :
    executed.map Prod.fst = statements := by
  generalize honward : true = o at h
  induction h with
  | done => rfl
  | stop => cases honward
  | next _ _ ih => rw [List.map_cons, ih honward]

theorem Course.length_le {policy : ErrorPolicy} {statements : List String}
    {executed : List (String × Except Failure Unit)} {onward : Bool}
    (h : Course policy statements executed onward) : executed.length ≤ statements.length := by
  induction h with
  | done => exact Nat.le_refl 0
  | stop => simp
  | next _ _ ih => exact Nat.succ_le_succ ih

theorem Course.length_pos {policy : ErrorPolicy} {statements : List String}
    {executed : List (String × Except Failure Unit)} (h : Course policy statements executed false) :
    0 < executed.length := by
  generalize honward : false = o at h
  cases h with
  | done => cases honward
  | stop => exact Nat.zero_lt_one
  | next => exact Nat.succ_pos _

/-- Executing statements one after the other takes their course. -/
theorem executeAll_runs {statements : List String} {code? : Option Int}
    (h : Runs (interrupts (handle .delegated) depth) (executeAll .delegated statements) l events code?
      l') :
    ∃ executed, Course l.settings.policy statements executed code?.isNone ∧
      Passes (turns executed) [] l events l' := by
  induction statements generalizing l events with
  | nil =>
    obtain ⟨rfl, rfl, rfl⟩ := runs_pure h
    exact ⟨[], .done, aside_frame.refl _⟩
  | cons statement statements ih =>
    obtain ⟨first, result, m, second, hexecute, hrest, rfl⟩ := runs_bind h
    obtain ⟨reply, cancelled, hresult, hpasses⟩ := execute_runs hexecute
    have hstops := stops_result l.settings.policy cancelled reply
    rw [← hresult] at hstops
    have hpolicy : m.settings.policy = l.settings.policy := by rw [hpasses.settings]
    -- the next statement comes after success, and after a failure that the policy lets pass
    split at hrest
    · obtain ⟨executed, hcourse, hmore⟩ := ih hrest
      rw [hpolicy] at hcourse
      exact ⟨(statement, reply) :: executed, .next hstops.symm hcourse, hpasses.trans hmore⟩
    · obtain ⟨rfl, rfl, rfl⟩ := runs_pure hrest
      exact ⟨[(statement, reply)], .stop hstops.symm, by simpa using hpasses⟩
    · rename_i e hexit
      rw [stops_failure _ hexit, ← hpolicy] at hstops
      obtain ⟨third, m₁, fourth, hwrite, hafter, rfl⟩ := runs_report hrest
      have haside := aside_writeLine aside_interrupts _ _ _ _ _ _ hwrite
      have hreport : Aside m third m₁ := ⟨haside.splitter, haside.settings, haside.history, haside.seen⟩
      have hreported := hpasses.trans hreport
      split at hafter
      · rename_i hfast
        obtain ⟨rfl, rfl, rfl⟩ := runs_pure hafter
        rw [decide_eq_true hfast, hpolicy] at hstops
        exact ⟨[(statement, reply)], .stop hstops.symm, by simpa using hreported⟩
      · rename_i hslow
        obtain ⟨executed, hcourse, hmore⟩ := ih hafter
        rw [decide_eq_false hslow, hpolicy] at hstops
        rw [hreport.settings, hpolicy] at hcourse
        exact ⟨(statement, reply) :: executed, .next hstops.symm hcourse,
          by simpa [turns] using hreported.trans hmore⟩

/-! ## Reading -/

/-- The reply of a reader to whom something is typed. -/
def replyTo : Typed → Except Failure Read
  | .line text => .ok (.line text)
  | .giveUp => .ok .interrupted

theorem aside_prompt :
    Obeys (interrupts (handle .delegated) depth) Aside (prompt .delegated) :=
  obeys_prompt aside_frame (aside_call aside_interrupts (c := .delegate .standing) rfl fun _ => rfl)

/-- One reading feeds what is typed to the splitter and records what that completes; any other reply
ends the run. -/
theorem readOnce_runs {result : Except Failure (List String)}
    (h : Runs (interrupts (handle .delegated) depth) (readOnce .delegated).run l events result l') :
    (∃ t : Typed, result = .ok (l.splitter.feedTyped [t]).2 ∧
      Passes (.read (replyTo t) :: recalls (l.splitter.feedTyped [t]).2) (l.splitter.feedTyped [t]).2
        { l with splitter := (l.splitter.feedTyped [t]).1 } events l') ∨
    ∃ e reply, result = .error e ∧ (∀ t, reply ≠ replyTo t) ∧ Passes [.read reply] [] l events l' := by
  obtain ⟨first, prompt, l₁, second, hprompt, hread, rfl⟩ := Attempt.runs_lift_bind h
  have hprompt := aside_prompt _ _ _ _ hprompt
  rcases Attempt.runs_bind hread with ⟨e, rfl, hfailed⟩ | ⟨third, reply, l₂, fourth, hreply, hrest, rfl⟩
  · have hfailed := passes_call aside_interrupts (c := .console (.readLine prompt)) hfailed
    refine .inr ⟨e, .error e, rfl, ?_, by simpa [sight?] using hprompt.trans hfailed⟩
    rintro (_ | _) heq <;> cases heq
  · have hreply := passes_call aside_interrupts (c := .console (.readLine prompt)) hreply
    have hpasses : Passes [.read (.ok reply)] [] l (first ++ third) l₂ := by
      simpa [sight?] using hprompt.trans hreply
    cases reply with
    | line text =>
      left
      obtain ⟨_, statements, _, _, htake, hrecord, rfl⟩ := Attempt.runs_lift_bind hrest
      obtain ⟨rfl, rfl, rfl⟩ := runs_modifyGet htake
      obtain ⟨fifth, _, l₃, _, hrecord, hpure, rfl⟩ := Attempt.runs_lift_bind hrecord
      obtain ⟨rfl, rfl, rfl⟩ := Attempt.runs_pure hpure
      have hwhole := (hpasses.withSplitter (l₂.splitter.feed text).1).trans (recordAll_runs hrecord)
      rw [hpasses.splitter] at hwhole ⊢
      exact ⟨.line text, by simp [Accumulator.feedTyped], by
        simpa [Accumulator.feedTyped, replyTo] using hwhole⟩
    | interrupted =>
      left
      have hempty := Attempt.runs_modify_bind hrest
      obtain ⟨fifth, _, l₃, _, hhandle, hpure, rfl⟩ := Attempt.runs_lift_bind hempty
      obtain ⟨rfl, rfl, rfl⟩ := Attempt.runs_pure hpure
      have hwhole := (hpasses.withSplitter .empty).trans (aside_handle aside_interrupts _ _ _ _ hhandle)
      exact ⟨.giveUp, rfl, by simpa [Accumulator.feedTyped, replyTo, recalls] using hwhole⟩
    | endOfInput =>
      right
      obtain ⟨rfl, rfl, rfl⟩ := Attempt.runs_throw hrest
      refine ⟨.noMoreInput, .ok .endOfInput, rfl, ?_, by simpa using hpasses⟩
      rintro (_ | _) heq <;> cases heq

end Runs

/-! ## Reading and executing -/

/-- The reply of the reader, if this is one. -/
def Sight.reply? : Sight → Option (Except Failure Read)
  | .read reply => some reply
  | _ => none

/-- The entry that the editor hears of, if it does. -/
def Sight.entry? : Sight → Option String
  | .recalled entry => some entry
  | _ => none

/-- A statement starts or ends. -/
def Sight.isTurn : Sight → Bool
  | .started _ | .ended _ _ => true
  | _ => false

theorem turns_reply? (executed : List (String × Except Failure Unit)) :
    (turns executed).filterMap Sight.reply? = [] := by
  induction executed with
  | nil => rfl
  | cons p executed ih => exact ih

theorem turns_entry? (executed : List (String × Except Failure Unit)) :
    (turns executed).filterMap Sight.entry? = [] := by
  induction executed with
  | nil => rfl
  | cons p executed ih => exact ih

theorem turns_isTurn (executed : List (String × Except Failure Unit)) :
    (turns executed).filter Sight.isTurn = turns executed := by
  rw [List.filter_eq_self]
  intro sight hsight
  obtain ⟨p, -, hp⟩ := List.mem_flatMap.1 hsight
  rcases List.mem_cons.1 hp with rfl | hp
  · rfl
  · rw [List.mem_singleton.1 hp]
    rfl

theorem recalls_reply? (statements : List String) :
    (recalls statements).filterMap Sight.reply? = [] := by
  rw [recalls, List.filterMap_map, List.filterMap_eq_nil_iff]
  exact fun entry _ => rfl

theorem recalls_entry? (statements : List String) :
    (recalls statements).filterMap Sight.entry? = statements.filterMap History.entryOf? := by
  rw [recalls, List.filterMap_map]
  exact List.filterMap_some

theorem recalls_isTurn (statements : List String) :
    (recalls statements).filter Sight.isTurn = [] := by
  rw [recalls, List.filter_map, List.map_eq_nil_iff, List.filter_eq_nil_iff]
  exact fun entry _ => Bool.false_ne_true

/-- The replies of the reader. -/
def replies (events : List Event) : List (Except Failure Read) :=
  (seen events).filterMap Sight.reply?

/-- The entries that the editor hears of. -/
def recalled (events : List Event) : List String :=
  (seen events).filterMap Sight.entry?

/-- The statements that the executor starts and ends. -/
def executions (events : List Event) : List Sight :=
  (seen events).filter Sight.isTurn

theorem replies_append (first second : List Event) :
    replies (first ++ second) = replies first ++ replies second := by
  simp [replies, seen]

theorem recalled_append (first second : List Event) :
    recalled (first ++ second) = recalled first ++ recalled second := by
  simp [recalled, seen]

theorem executions_append (first second : List Event) :
    executions (first ++ second) = executions first ++ executions second := by
  simp [executions, seen]

/-- One round of the loop: something is typed, and the statements that it completes are recorded and
then executed. -/
structure Round (t : Typed) (executed : List (String × Except Failure Unit)) (l : Loop Unit)
    (events : List Event) (l' : Loop Unit) : Prop where
  splitter : l'.splitter = (l.splitter.feedTyped [t]).1
  settings : l'.settings = l.settings
  history : l'.history = l.history.appendAll (l.splitter.feedTyped [t]).2
  replies : replies events = [replyTo t]
  recalled : recalled events = (l.splitter.feedTyped [t]).2.filterMap History.entryOf?
  executions : executions events = turns executed

theorem Round.of_passes {t : Typed} {executed : List (String × Except Failure Unit)}
    {l l' : Loop Unit} {events : List Event}
    (h : Passes (.read (replyTo t) :: recalls (l.splitter.feedTyped [t]).2 ++ turns executed)
      (l.splitter.feedTyped [t]).2 { l with splitter := (l.splitter.feedTyped [t]).1 } events l') :
    Round t executed l events l' := by
  refine ⟨h.splitter, h.settings, h.history, ?_, ?_, ?_⟩
  · rw [Loop.replies, h.seen, List.filterMap_append, turns_reply?, List.append_nil,
      List.filterMap_cons, recalls_reply?]
    rfl
  · rw [Loop.recalled, h.seen, List.filterMap_append, turns_entry?, List.append_nil,
      List.filterMap_cons_none rfl, recalls_entry?]
  · rw [Loop.executions, h.seen, List.filter_append, turns_isTurn,
      List.filter_cons_of_neg Bool.false_ne_true, recalls_isTurn, List.nil_append]

/-- What a run does with what is typed. All statements that it completes take their course. The
inputs that were `read`, all or up to the line at which a statement stopped the run, are the ones
whose statements are recorded. -/
structure Follows (inputs : List Typed) (executed : List (String × Except Failure Unit))
    (read : List Typed) (l : Loop Unit) (events : List Event) (l' : Loop Unit) : Prop where
  course :
    (Course l.settings.policy (l.splitter.feedTyped inputs).2 executed true ∧ read = inputs) ∨
    ∃ front text rest, inputs = front ++ .line text :: rest ∧ read = front ++ [.line text] ∧
      Course l.settings.policy (l.splitter.feedTyped inputs).2 executed false ∧
      (l.splitter.feedTyped front).2.length < executed.length ∧
      executed.length ≤ (l.splitter.feedTyped read).2.length
  history : l'.history = l.history.appendAll (l.splitter.feedTyped read).2
  recalled : recalled events = (l.splitter.feedTyped read).2.filterMap History.entryOf?
  executions : executions events = turns executed

/-- A round that stops nothing, and then a run. -/
theorem Follows.cons {t : Typed} {inputs read : List Typed}
    {executed executed' : List (String × Except Failure Unit)} {l m l' : Loop Unit}
    {first second : List Event} (hround : Round t executed l first m)
    (hcourse : Course l.settings.policy (l.splitter.feedTyped [t]).2 executed true)
    (h : Follows inputs executed' read m second l') :
    Follows (t :: inputs) (executed ++ executed') (t :: read) l (first ++ second) l' where
  course := by
    have hcourse' := h.course
    rw [hround.settings, hround.splitter] at hcourse'
    rcases hcourse' with ⟨hall, rfl⟩ | ⟨front, text, rest, rfl, rfl, hstop, hfront, hread⟩
    · left
      rw [Accumulator.feedTyped_cons]
      exact ⟨hcourse.append hall, rfl⟩
    · right
      have hlength := congrArg List.length hcourse.map_fst
      rw [List.length_map] at hlength
      have hcons (typed : List Typed) : (l.splitter.feedTyped (t :: typed)).2.length =
          executed.length + ((l.splitter.feedTyped [t]).1.feedTyped typed).2.length := by
        rw [Accumulator.feedTyped_cons, List.length_append, hlength]
      refine ⟨t :: front, text, rest, rfl, rfl, ?_, ?_, ?_⟩
      · rw [Accumulator.feedTyped_cons]
        exact hcourse.append hstop
      · rw [hcons, List.length_append]
        omega
      · rw [hcons, List.length_append]
        omega
  history := by
    rw [h.history, hround.history, hround.splitter, Accumulator.feedTyped_cons l.splitter t read,
      History.appendAll, History.appendAll, History.appendAll, List.foldl_append]
  recalled := by
    rw [recalled_append, hround.recalled, h.recalled, hround.splitter,
      Accumulator.feedTyped_cons l.splitter t read, List.filterMap_append]
  executions := by
    rw [executions_append, hround.executions, h.executions, turns, turns, turns, List.flatMap_append]

/-- A round in which a statement stops the run. -/
theorem Follows.stopped {t : Typed} {executed : List (String × Except Failure Unit)} {l l' : Loop Unit}
    {events : List Event} (hround : Round t executed l events l')
    (hcourse : Course l.settings.policy (l.splitter.feedTyped [t]).2 executed false)
    (inputs : List Typed) : Follows (t :: inputs) executed [t] l events l' where
  course := by
    right
    cases t with
    | giveUp => cases hcourse
    | line text =>
      refine ⟨[], text, inputs, rfl, rfl, ?_, hcourse.length_pos, hcourse.length_le⟩
      rw [Accumulator.feedTyped_cons]
      exact hcourse.stopped _
  history := hround.history
  recalled := hround.recalled
  executions := hround.executions

theorem Aside.projections {l l' : Loop Unit} {events : List Event} (h : Aside l events l') :
    replies events = [] ∧ recalled events = [] ∧ executions events = [] := by
  rw [replies, recalled, executions, h.seen]
  exact ⟨rfl, rfl, rfl⟩

/-- What surrounds a run makes no difference to what it follows. -/
theorem Follows.between {inputs read : List Typed} {executed : List (String × Except Failure Unit)}
    {l m m' l' : Loop Unit} {before events after : List Event} (hbefore : Aside l before m)
    (h : Follows inputs executed read m events m') (hafter : Aside m' after l') :
    Follows inputs executed read l (before ++ (events ++ after)) l' where
  course := by
    rw [← hbefore.splitter, ← hbefore.settings]
    exact h.course
  history := by
    rw [hafter.history, h.history, hbefore.history, hbefore.splitter]
    rfl
  recalled := by
    rw [recalled_append, recalled_append, (Aside.projections hbefore).2.1,
      (Aside.projections hafter).2.1, h.recalled, hbefore.splitter]
    simp
  executions := by
    rw [executions_append, executions_append, (Aside.projections hbefore).2.2,
      (Aside.projections hafter).2.2, h.executions]
    simp

/-- The end of the run: nothing more is typed. -/
theorem Follows.ended {reply : Except Failure Read} {l l' : Loop Unit} {events : List Event}
    (h : Passes [.read reply] [] l events l') : Follows [] [] [] l events l' where
  course := .inl ⟨.done, rfl⟩
  history := h.history
  recalled := by
    rw [Loop.recalled, h.seen]
    rfl
  executions := by
    rw [Loop.executions, h.seen]
    rfl

/-! ## The whole run -/

/-- Everything that a reader replies: what is typed, and then the end of the input or a failure. -/
structure Script where
  inputs : List Typed
  failure? : Option Failure := none

/-- The last reply of a reader. -/
def Script.lastReply (script : Script) : Except Failure Read :=
  match script.failure? with
  | none => .ok .endOfInput
  | some e => .error e

/-- The replies of a reader in their order. -/
def Script.replies (script : Script) : List (Except Failure Read) :=
  script.inputs.map replyTo ++ [script.lastReply]

theorem Script.lastReply_ne (script : Script) (t : Typed) : script.lastReply ≠ replyTo t := by
  unfold Script.lastReply
  cases script.failure? <;> cases t <;> simp [replyTo]

theorem replyTo_injective : Function.Injective replyTo := by
  rintro (_ | _) (_ | _) h <;> cases h <;> rfl

/-- A reader that replied as something was typed had it as its next input. -/
theorem Script.typed_of_prefix {script : Script} {t : Typed} {more : List (Except Failure Read)}
    (h : [replyTo t] ++ more <+: script.replies) :
    ∃ inputs, script.inputs = t :: inputs ∧ more <+: Script.replies { script with inputs } := by
  unfold Script.replies at h
  cases hinputs : script.inputs with
  | nil =>
    rw [hinputs] at h
    obtain ⟨heq, -⟩ := List.cons_prefix_cons.1 h
    exact absurd heq.symm (script.lastReply_ne t)
  | cons t' inputs =>
    rw [hinputs] at h
    obtain ⟨heq, hmore⟩ := List.cons_prefix_cons.1 h
    obtain rfl := replyTo_injective heq
    exact ⟨inputs, rfl, hmore⟩

/-- Any other reply of a reader is its last. -/
theorem Script.ended_of_prefix {script : Script} {reply : Except Failure Read}
    {more : List (Except Failure Read)} (hreply : ∀ t, reply ≠ replyTo t)
    (h : [reply] ++ more <+: script.replies) : script.inputs = [] := by
  unfold Script.replies at h
  cases hinputs : script.inputs with
  | nil => rfl
  | cons t inputs =>
    rw [hinputs] at h
    exact absurd (List.cons_prefix_cons.1 h).1 (hreply t)

section Runs

variable {depth : Nat} {l l' : Loop Unit} {events : List Event}

/-- Reading and executing follows what is typed to its end, by induction on the readings that are
left; what the splitter holds goes from one round to the next. -/
theorem readAndExecute_runs {reads : Nat} {lastFailed : Bool} {code? : Option Int} {script : Script}
    (h : Runs (interrupts (handle .delegated) depth) (readAndExecute .delegated reads lastFailed) l
      events code? l')
    (hscript : replies events <+: script.replies) (hreads : script.inputs.length < reads) :
    code?.isSome ∧ ∃ executed read, Follows script.inputs executed read l events l' := by
  induction reads generalizing lastFailed script l events with
  | zero => cases hreads
  | succ reads ih =>
    obtain ⟨first, result, m, second, hread, hrest, rfl⟩ := runs_bind h
    rcases readOnce_runs hread with ⟨t, rfl, hpasses⟩ | ⟨e, reply, rfl, hreply, hpasses⟩
    · -- whatever was executed without a stop, the run goes on behind it
      have hcontinue {executed : List (String × Except Failure Unit)} {m' : Loop Unit}
          {front back : List Event} {failed : Bool} (hround : Round t executed l front m')
          (hcourse : Course l.settings.policy (l.splitter.feedTyped [t]).2 executed true)
          (hback : Runs (interrupts (handle .delegated) depth) (readAndExecute .delegated reads failed)
            m' back code? l') (hevents : first ++ second = front ++ back) :
          code?.isSome ∧ ∃ executed read,
            Follows script.inputs executed read l (first ++ second) l' := by
        rw [hevents, replies_append, hround.replies] at hscript
        obtain ⟨inputs, hinputs, hmore⟩ := Script.typed_of_prefix hscript
        rw [hinputs, List.length_cons] at hreads
        obtain ⟨hsome, executed', read, hfollows⟩ := ih hback hmore (by dsimp only; omega)
        rw [hinputs, hevents]
        exact ⟨hsome, _, _, .cons hround hcourse hfollows⟩
      split at hrest
      · rename_i hnone
        have hnone := Except.ok.inj hnone
        have hround : Round t [] l first m := .of_passes (by simpa [turns] using hpasses)
        exact hcontinue hround (by rw [hnone]; exact .done) hrest rfl
      · rename_i statements _ hsome
        have hsome := Except.ok.inj hsome
        obtain ⟨third, stop?, m₁, fourth, hexecute, hafter, rfl⟩ := runs_bind hrest
        obtain ⟨executed, hcourse, hturns⟩ := executeAll_runs hexecute
        rw [hpasses.settings, ← hsome] at hcourse
        have hexecuted := hpasses.trans hturns
        cases stop? with
        | some code =>
          obtain ⟨rfl, rfl, rfl⟩ := runs_pure hafter
          rw [List.append_nil] at hscript ⊢
          have hround : Round t executed l (first ++ third) l' := .of_passes (by simpa using hexecuted)
          rw [← List.append_nil (replies _), hround.replies] at hscript
          obtain ⟨inputs, hinputs, -⟩ := Script.typed_of_prefix hscript
          rw [hinputs]
          exact ⟨rfl, _, _, .stopped hround hcourse inputs⟩
        | none =>
          obtain ⟨fifth, _, m₂, sixth, hprobe, hback, rfl⟩ := runs_bind hafter
          have hprobed := hexecuted.trans (aside_lastErrorCode aside_interrupts _ _ _ _ hprobe)
          have hround : Round t executed l (first ++ third ++ fifth) m₂ :=
            .of_passes (by simpa using hprobed)
          exact hcontinue hround hcourse hback (by simp)
      · rename_i heq
        cases heq
      · rename_i heq
        cases heq
      · rename_i heq
        cases heq
    · have hfirst : replies first = [reply] := by
        rw [replies, hpasses.seen]
        rfl
      rw [replies_append, hfirst] at hscript
      have hend : code?.isSome ∧ Aside m second l' := by
        split at hrest
        · rename_i heq
          cases heq
        · rename_i heq
          cases heq
        · have hfarewell (printer : Printer) : Obeys (interrupts (handle .delegated) depth) Aside
              (printer.printIfVerbose Shell.farewell) := aside_printIfVerbose aside_interrupts _ _
          obtain ⟨hprinted, rfl⟩ :=
            runs_print_last (p := fun printer => printer.printIfVerbose Shell.farewell) hrest
          exact ⟨rfl, hfarewell _ _ _ _ _ hprinted⟩
        · obtain ⟨rfl, rfl, rfl⟩ := runs_pure hrest
          exact ⟨rfl, aside_frame.refl _⟩
        · rename_i e _ _ _
          have herror (printer : Printer) : Obeys (interrupts (handle .delegated) depth) Aside
              (printer.printError e) := aside_writeLine aside_interrupts _ _
          obtain ⟨hprinted, rfl⟩ := runs_print_last (p := fun printer => printer.printError e) hrest
          exact ⟨rfl, herror _ _ _ _ _ hprinted⟩
      obtain ⟨hsome, haside⟩ := hend
      rw [Script.ended_of_prefix hreply hscript]
      exact ⟨hsome, [], [], .ended (by simpa using hpasses.trans haside)⟩

/-- Saving the history is nothing to the reader, the editor and the executor. -/
theorem aside_trySaveHistory : Obeys (interrupts (handle .delegated) depth) Aside trySaveHistory :=
  obeys_trySaveHistory aside_frame
    (fun directory => aside_call aside_interrupts (c := .files (.makeDirectory directory)) rfl fun _ => rfl)
    (fun path text => aside_call aside_interrupts (c := .files (.write path text)) rfl fun _ => rfl)
    (aside_warn aside_interrupts _)

/-- What a run does with everything that its reader replies. The statements that the inputs complete
take their course: each is executed once, one after the other, until one stops the run. The inputs
that were `read`, all of them or those up to the line that completed the last executed statement, are
the ones whose statements are recorded. -/
structure Performs (script : Script) (executed : List (String × Except Failure Unit))
    (read : List Typed) (l : Loop Unit) (events : List Event) (l' : Loop Unit) : Prop where
  executions : executions events = turns executed
  course :
    (Course l.settings.policy (completed script.inputs) executed true ∧ read = script.inputs) ∨
    ∃ front text rest, script.inputs = front ++ .line text :: rest ∧ read = front ++ [.line text] ∧
      Course l.settings.policy (completed script.inputs) executed false ∧
      (completed front).length < executed.length ∧ executed.length ≤ (completed read).length
  entries : l'.history.entries = l.history.entries ++ (completed read).map Text.trim
  recalled : recalled events = (completed read).map Text.trim
  /-- What is given up or left over stands behind all statements of its stretch of text. -/
  leftOver : ∀ texts ∈ segments script.inputs, ∃ gaps, Covers (Accumulator.joinedTexts texts)
    ((Accumulator.empty.feedTexts texts).2, (Accumulator.empty.feedTexts texts).1.buffer) gaps

theorem Follows.performs {script : Script} {executed : List (String × Except Failure Unit)}
    {read : List Typed} (hfresh : l.splitter = .empty)
    (h : Follows script.inputs executed read l events l') :
    Performs script executed read l events l' := by
  have hcompleted (typed : List Typed) : (l.splitter.feedTyped typed).2 = completed typed := by
    rw [hfresh, Accumulator.feedTyped_completed]
  have hentry : (completed read).filterMap History.entryOf? = (completed read).map Text.trim := by
    rw [← List.filterMap_eq_map]
    exact List.filterMap_congr fun s hs => History.entryOf?_eq (completed_isEntry read s hs)
  have hcourse := h.course
  have hhistory := h.history
  simp only [hcompleted] at hcourse hhistory
  refine ⟨h.executions, hcourse, ?_, ?_, fun texts _ => feedTexts_covered texts⟩
  · rw [hhistory, History.appendAll_eq (completed_isEntry read)]
  · rw [h.recalled, hcompleted, hentry]

/-- The loop executes exactly what was completed, once and in order. Whatever is typed or given up,
whatever the policy, however the executor and everything else replies, and wherever interrupts arrive:
the run ends, and it performs the script of its reader. -/
theorem runUntilEnd_performs {reads : Nat} {code? : Option Int} (script : Script)
    (hrun : Runs (interrupts (handle .delegated) depth) (runUntilEnd .delegated reads) l events code? l')
    (hfresh : l.splitter = .empty) (hscript : replies events <+: script.replies)
    (hreads : script.inputs.length < reads) :
    code?.isSome ∧ ∃ executed read, Performs script executed read l events l' := by
  obtain ⟨first, _, m, second, hprobe, hrest, rfl⟩ := runs_bind hrun
  have hprobed := aside_lastErrorCode aside_interrupts _ _ _ _ hprobe
  obtain ⟨third, stop?, m', fourth, hloop, hsave, rfl⟩ := runs_bind hrest
  have hloopScript : replies third <+: script.replies := by
    rw [replies_append, replies_append, (Aside.projections hprobed).1] at hscript
    exact (List.prefix_append _ _).trans hscript
  obtain ⟨hsome, executed, read, hfollows⟩ := readAndExecute_runs hloop hloopScript hreads
  obtain ⟨code, rfl⟩ := Option.isSome_iff_exists.1 hsome
  obtain ⟨fifth, _, _, _, hsaved, hpure, rfl⟩ := runs_bind hsave
  obtain ⟨rfl, rfl, rfl⟩ := runs_pure hpure
  have hsaved := aside_trySaveHistory _ _ _ _ hsaved
  rw [List.append_nil]
  exact ⟨rfl, executed, read, (hfollows.between hprobed hsaved).performs hfresh⟩

end Runs

/-- Replies of a world in which one statement fails; the reader's come from a list. -/
def failingOn (bad : String) : (call : Call) → List (Except Failure Read) →
    call.Reply × List (Except Failure Read)
  | .console (.readLine _), [] => (.ok .endOfInput, [])
  | .console (.readLine _), reply :: rest => (reply, rest)
  | .delegate (.execute statement), rest =>
    (if statement = bad then .error (.io statement) else .ok (), rest)
  | call, rest => (willing call, rest)

/-- A script in which text is given up and one line completes three statements. -/
def givingUp : Script where
  inputs := [.line "a; b", .giveUp, .line "c;", .line "d;e;f;", .line "g;"]

/-- Under the policy to fail fast a failing statement is the last that is executed. Those that its line
completed are recorded all the same, and no further line is read. -/
theorem runUntilEnd_performs_failFast :
    let l : Loop Unit :=
      { settings := { policy := .failFast }, printer := { format := .plain }, executor := () }
    let (events, code?, l') := play (failingOn "e;") (runUntilEnd .delegated 6) l givingUp.replies
    replies events <+: givingUp.replies ∧ code? = some exitFailure ∧
      l'.history.entries = ["a;", "c;", "d;", "e;", "f;"] ∧
      ∃ executed read, Performs givingUp executed read l events l' := by
  refine ⟨by decide +kernel, by decide +kernel, by decide +kernel, ?_⟩
  exact (runUntilEnd_performs givingUp (runs_play (interrupts_quiet (handle .delegated) 1) _ _ _ _)
    rfl (by decide +kernel) (by decide)).2

end QueryShell.Loop
