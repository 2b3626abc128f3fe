import QueryShell.Proofs.Loop.Probing
import QueryShell.Proofs.Loop.Telling
import QueryShell.Proofs.Shell.LastError

/-
The exit code of a loop over a shell. Two things remember failures: the loop, which never forgets one,
and the shell, which forgets its code with the next success and has none for many failures. The first
includes the second, so the code depends on what was read and executed alone, in this run and in those
before it: `Story.verdict` is what it has to be, and `Past` lists the runs that a loop has behind it.
-/
namespace QueryShell.Loop

open Program

/-! ## The verdict -/

/-- The code of a request to exit. -/
def exitCode? : Except Failure Unit → Option Int
  | .error (.exit code) => some code
  | _ => none

/-- The code with which a reading ends a run. The end of the input is no failure. -/
def readingCode? : Except Failure (List String) → Option Int
  | .ok _ | .error .noMoreInput => none
  | .error (.exit code) => some code
  | .error _ => some exitFailure

namespace Story

/-- The code of the first statement that asked to exit. -/
def exitCode? (story : Story) : Option Int :=
  story.executed.findSome? fun (_, result) => Loop.exitCode? result

/-- The code of the first reading that failed. -/
def readingCode? (story : Story) : Option Int :=
  story.readings.findSome? Loop.readingCode?

/-- A statement has failed. -/
def failed (story : Story) : Bool :=
  story.executed.any fun (_, result) => fails result

/-- What the exit code has to be. -/
def verdict (policy : ErrorPolicy) (failedBefore : Bool) (story : Story) : Int :=
  match story.exitCode?, story.readingCode? with
  | some code, _ => code
  | none, some code => code
  | none, none => if policy ≠ .carryOn ∧ (failedBefore || story.failed) then exitFailure else exitSuccess

variable {policy : ErrorPolicy} {failedBefore : Bool}

theorem verdict_nothing : verdict policy failedBefore {} = endOfInputCode policy failedBefore := by
  simp [verdict, exitCode?, readingCode?, failed, endOfInputCode]

/-- A reading that brought something, or the end, has no say. -/
theorem verdict_reading {reading : Except Failure (List String)} (h : Loop.readingCode? reading = none)
    (story : Story) : verdict policy failedBefore { story with readings := reading :: story.readings } =
      verdict policy failedBefore story := by
  have hreading : readingCode? { story with readings := reading :: story.readings } =
      story.readingCode? := by simp [readingCode?, h]
  unfold verdict
  rw [hreading]
  rfl

/-- Of statements that did not ask to exit only their failures have a say. -/
theorem verdict_executed {executed : List (String × Except Failure Unit)}
    (h : ∀ turn ∈ executed, Loop.exitCode? turn.2 = none) (story : Story) :
    verdict policy failedBefore { story with executed := executed ++ story.executed } =
      verdict policy (failedBefore || executed.any fun turn => fails turn.2) story := by
  have hnone : executed.findSome? (fun (_, result) => Loop.exitCode? result) = none :=
    List.findSome?_eq_none_iff.2 h
  have hexit : exitCode? { story with executed := executed ++ story.executed } = story.exitCode? := by
    simp [exitCode?, hnone]
  have hfailed : failed { story with executed := executed ++ story.executed } =
      ((executed.any fun turn => fails turn.2) || story.failed) := List.any_append
  unfold verdict
  rw [hexit, hfailed, Bool.or_assoc]
  rfl

/-- The code of a run is the verdict on it, and a run without a code read something as often as it
could. -/
structure Judged (reads : Nat) (policy : ErrorPolicy) (failedBefore : Bool) (code? : Option Int)
    (story : Story) : Prop where
  code : ∀ code, code? = some code → code = story.verdict policy failedBefore
  ended : code? = none →
    story.readings.length = reads ∧ ∀ reading ∈ story.readings, ∃ statements, reading = .ok statements

variable {reads : Nat} {code? : Option Int} {story : Story}

theorem Judged.reading (h : Judged reads policy failedBefore code? story) (statements : List String) :
    Judged (reads + 1) policy failedBefore code?
      { story with readings := .ok statements :: story.readings } where
  code code hcode := by
    rw [verdict_reading rfl]
    exact h.code code hcode
  ended hcode := by
    obtain ⟨hlength, hall⟩ := h.ended hcode
    exact ⟨congrArg (· + 1) hlength, List.forall_mem_cons.2 ⟨⟨statements, rfl⟩, hall⟩⟩

theorem Judged.executed {executed : List (String × Except Failure Unit)}
    (hexits : ∀ turn ∈ executed, Loop.exitCode? turn.2 = none)
    (h : Judged reads policy (failedBefore || executed.any fun turn => fails turn.2) code? story) :
    Judged reads policy failedBefore code? { story with executed := executed ++ story.executed } where
  code code hcode := by
    rw [verdict_executed hexits]
    exact h.code code hcode
  ended := h.ended

theorem judged_code {code : Int}
    (h : code = story.verdict policy failedBefore) :
    Judged reads policy failedBefore (some code) story where
  code code hcode := (Option.some.inj hcode).symm.trans h
  ended hcode := by cases hcode

end Story

/-! ## What interrupts and readings leave alone -/

/-- Neither the settings nor what is remembered of failures changes. -/
structure Steady (l : Loop Shell) (events : List Event) (l' : Loop Shell) : Prop where
  settings : l'.settings = l.settings
  failed : l'.failed = l.failed
  lastError : l'.executor.lastError? = l.executor.lastError?

theorem steady_frame : Frame Steady where
  refl _ := ⟨rfl, rfl, rfl⟩
  trans h₁ h₂ :=
    ⟨h₂.settings.trans h₁.settings, h₂.failed.trans h₁.failed, h₂.lastError.trans h₁.lastError⟩

/-- The part of it that no executor can change. -/
def KeepsOwn : Interference (Loop Shell) :=
  fun l _ l' => l'.settings = l.settings ∧ l'.failed = l.failed

theorem keepsOwn_frame : Frame KeepsOwn where
  refl _ := ⟨rfl, rfl⟩
  trans h₁ h₂ := ⟨h₂.1.trans h₁.1, h₂.2.trans h₁.2⟩

section Calls

variable {between : Interference (Loop Shell)}
  (hbetween : ∀ l events l', between l events l' → Steady l events l')

include hbetween

theorem steady_call (c : Call) : Obeys between Steady (call c : Program (Loop Shell) c.Reply) :=
  obeys_call fun hduring _ => ⟨(hbetween _ _ _ hduring).settings, (hbetween _ _ _ hduring).failed,
    (hbetween _ _ _ hduring).lastError⟩

theorem steady_writeLine (sink : Sink) (text : String) :
    Obeys between Steady (Printer.writeLine sink text) :=
  steady_frame.obeys_writeLine (fun _ _ => steady_call hbetween _) (fun _ => steady_call hbetween _) _ _

theorem steady_warn (origin : Origin) (text : String) :
    Obeys between Steady (Program.warn origin text : Program (Loop Shell) Unit) :=
  steady_call hbetween (.console (.warn origin text))

theorem steady_printIfVerbose (p : Printer) (text : String) :
    Obeys between Steady (p.printIfVerbose text) :=
  steady_frame.obeys_printIfVerbose (fun _ _ => steady_call hbetween _) (fun _ => steady_warn hbetween _ _) _ _

theorem steady_trySaveHistory : Obeys between Steady trySaveHistory :=
  obeys_trySaveHistory steady_frame (fun directory => steady_call hbetween (.files (.makeDirectory directory)))
    (fun path text => steady_call hbetween (.files (.write path text))) fun _ => steady_warn hbetween _ _

theorem keepsOwn_onExecutor {α : Type} (p : Program Shell α) :
    Obeys between KeepsOwn (onExecutor p) := by
  refine keepsOwn_frame.obeys_zoom (fun s l => ?_) (fun c => ?_) p
  · exact ⟨rfl, rfl⟩
  · exact obeys_call fun hduring _ =>
      ⟨(hbetween _ _ _ hduring).settings, (hbetween _ _ _ hduring).failed⟩

/-- A program of the shell runs in the loop as it would with anything in between that is nothing to its
memory. -/
theorem runs_onExecutor {α : Type} {p : Program Shell α} {l l' : Loop Shell} {events : List Event}
    {a : α} (h : Runs between (onExecutor p) l events a l') :
    Runs Shell.KeepsError p l.executor events a l'.executor := by
  refine runs_part (fun _ _ => rfl) (fun l events l' hduring => ?_) h
  exact (hbetween _ _ _ hduring).lastError

theorem steady_onExecutor {α : Type} {p : Program Shell α}
    (hp : Obeys Shell.KeepsError Shell.KeepsError p) : Obeys between Steady (onExecutor p) := by
  intro l events a l' h
  obtain ⟨hsettings, hfailed⟩ := keepsOwn_onExecutor hbetween p _ _ _ _ h
  exact ⟨hsettings, hfailed, hp _ _ _ _ (runs_onExecutor hbetween h)⟩

theorem steady_lastErrorCode :
    Obeys between Steady (onExecutor Executor.shell.lastErrorCode) :=
  steady_onExecutor hbetween (Shell.keepsError_frame.obeys_bind Shell.keepsError_frame.obeys_get
    fun _ => Shell.keepsError_frame.obeys_pure _)

theorem steady_handle : Obeys between Steady (handle .shell) :=
  obeys_handle steady_frame (fun _ => ⟨rfl, rfl, rfl⟩)
    (steady_onExecutor hbetween (Shell.keepsError_onConnection _)) (steady_writeLine hbetween)
    (steady_lastErrorCode hbetween)

end Calls

theorem steady_interrupts {depth : Nat} (l : Loop Shell) (events : List Event) (l' : Loop Shell)
    (h : interrupts (handle .shell) depth l events l') : Steady l events l' := by
  refine interrupts_frame steady_frame (fun between hbetween l events l' hrun => ?_) depth h
  have hhandle := steady_handle hbetween _ _ _ _ hrun
  exact ⟨hhandle.settings, hhandle.failed, hhandle.lastError⟩

section Runs

variable {depth : Nat} {l l' : Loop Shell} {events : List Event}

theorem steady_record (statement : String) :
    Obeys (interrupts (handle .shell) depth) Steady (record .shell statement) :=
  obeys_record steady_frame (fun _ => ⟨rfl, rfl, rfl⟩) fun _ => steady_call steady_interrupts _

theorem steady_prompt : Obeys (interrupts (handle .shell) depth) Steady (prompt .shell) :=
  obeys_prompt steady_frame (steady_onExecutor steady_interrupts
    (Shell.keepsError_frame.obeys_bind Shell.keepsError_frame.obeys_get fun _ =>
      Shell.keepsError_frame.obeys_pure _))

/-- Reading is nothing to what is remembered of failures. -/
theorem steady_readOnce :
    Obeys (interrupts (handle .shell) depth) Steady (readOnce .shell).run := by
  refine steady_frame.attempt_bind (Attempt.obeys_lift steady_prompt) fun prompt => ?_
  have hread : Obeys (interrupts (handle .shell) depth) Steady (call (.console (.readLine prompt))) :=
    steady_call steady_interrupts _
  refine steady_frame.attempt_bind hread fun reply => ?_
  cases reply with
  | line text =>
    have htake : Obeys (interrupts (handle .shell) depth) Steady (takeLine text) :=
      obeys_modifyGet fun _ => ⟨rfl, rfl, rfl⟩
    refine steady_frame.attempt_bind (Attempt.obeys_lift htake) fun statements => ?_
    have hrecord : Obeys (interrupts (handle .shell) depth) Steady (statements.forM (record .shell)) :=
      steady_frame.obeys_forM _ steady_record statements
    exact steady_frame.attempt_bind (Attempt.obeys_lift hrecord) fun _ => steady_frame.attempt_pure _
  | interrupted =>
    have hempty : Obeys (interrupts (handle .shell) depth) Steady
        (modify fun l => { l with splitter := .empty } : Attempt (Loop Shell) Failure Unit).run :=
      Attempt.obeys_modify fun _ => ⟨rfl, rfl, rfl⟩
    refine steady_frame.attempt_bind hempty fun _ => ?_
    refine steady_frame.attempt_bind (Attempt.obeys_lift (steady_handle steady_interrupts)) fun _ => ?_
    exact steady_frame.attempt_pure _
  | endOfInput => exact steady_frame.attempt_throw _

/-! ## Executing -/

/-- A failure that is no request to exit is nothing else. -/
theorem fails_failure {e : Failure} (he : ∀ code, e ≠ .exit code) :
    fails (.error e) = true ∧ exitCode? (.error e) = none := by
  cases e with
  | exit code => exact absurd rfl (he code)
  | _ => exact ⟨rfl, rfl⟩

/-- Whether a statement was cancelled makes no difference to whether it failed. -/
theorem fails_result (cancelled : Bool) (reply : Except Failure Unit) :
    fails (Execution.result cancelled reply) = fails reply := by
  rcases reply with e | _
  · cases e <;> cases cancelled <;> rfl
  · rfl

/-- A shell that remembers a code behind a statement remembered one before it, or the statement has
failed. -/
theorem execute_remembers {statement : String} {result : Except Failure Unit}
    (h : Runs (interrupts (handle .shell) depth) (execute .shell statement).run l events result l') :
    KeepsOwn l events l' ∧
      (l'.executor.lastError?.isSome → l.executor.lastError?.isSome ∨ fails result) := by
  obtain ⟨first, _, l₁, _, hbegin, hafter, rfl⟩ := Attempt.runs_lift_bind h
  obtain ⟨second, reply, l₂, _, hexecute, hended, rfl⟩ := Attempt.runs_lift_bind hafter
  obtain ⟨third, cancelled, l₃, _, hend, hresult, rfl⟩ := Attempt.runs_lift_bind hended
  obtain ⟨rfl, rfl, rfl⟩ := runs_pure hresult
  obtain ⟨rfl, rfl, rfl⟩ := runs_modifyGet hend
  have hbegin : Steady l first l₁ := by
    have hclear : Obeys (interrupts (handle .shell) depth) Steady (onExecutor Shell.clearReset) :=
      steady_onExecutor steady_interrupts (Shell.keepsError_onConnection _)
    have hstart : Obeys (interrupts (handle .shell) depth) Steady (onExecution Execution.start) :=
      obeys_modify fun _ => ⟨rfl, rfl, rfl⟩
    exact steady_frame.obeys_bind hclear (fun _ => hstart) _ _ _ _ hbegin
  obtain ⟨hsettings, hfailed⟩ := keepsOwn_onExecutor steady_interrupts _ _ _ _ _ hexecute
  have hremembers := Shell.execute_lastError (runs_onExecutor steady_interrupts hexecute)
  rw [hbegin.lastError] at hremembers
  rw [fails_result]
  exact ⟨⟨hsettings.trans hbegin.settings, hfailed.trans hbegin.failed⟩, hremembers⟩

/-- The loop has not forgotten what the shell remembers. This is so of every loop whose shell remembers
nothing. -/
def Remembers (l : Loop Shell) : Prop :=
  l.executor.lastError?.isSome → l.failed

theorem Steady.remembers_iff (h : Steady l events l') : Remembers l' ↔ Remembers l := by
  rw [Remembers, Remembers, h.lastError, h.failed]

/-- What executing statements one after the other comes to. The loop knows of every failure, whether the
run goes on or not; if it ends here, its code is the verdict. -/
structure Settled (l : Loop Shell) (code? : Option Int)
    (executed : List (String × Except Failure Unit)) (l' : Loop Shell) : Prop where
  settings : l'.settings = l.settings
  failed : l'.failed = (l.failed || executed.any fun turn => fails turn.2)
  remembers : Remembers l → Remembers l'
  goesOn : code? = none → ∀ turn ∈ executed, exitCode? turn.2 = none
  ends : ∀ code, code? = some code → code = Story.verdict l.settings.policy l.failed { executed }

/-- A statement in front that does not ask to exit, and whose failure the loop has noted. -/
theorem Settled.cons {m : Loop Shell} {code? : Option Int} {statement : String}
    {result : Except Failure Unit} {executed : List (String × Except Failure Unit)}
    (hexit : exitCode? result = none) (hsettings : m.settings = l.settings)
    (hfailed : m.failed = (l.failed || fails result)) (hremembers : Remembers l → Remembers m)
    (h : Settled m code? executed l') : Settled l code? ((statement, result) :: executed) l' := by
  refine ⟨h.settings.trans hsettings, ?_, fun hl => h.remembers (hremembers hl), fun hcode => ?_,
    fun code hcode => ?_⟩
  · rw [h.failed, hfailed, Bool.or_assoc]
    rfl
  · exact List.forall_mem_cons.2 ⟨hexit, h.goesOn hcode⟩
  · have hverdict := h.ends code hcode
    rw [hsettings, hfailed] at hverdict
    have hall : ∀ turn ∈ [(statement, result)], exitCode? turn.2 = none := by simpa using hexit
    rw [hverdict]
    simpa using (Story.verdict_executed hall { executed }).symm

/-- Under one policy nothing is executed behind a failure. -/
theorem settled_failFast {l : Loop Shell} (hpolicy : l.settings.policy = .failFast)
    (hfailed : l.failed = true) : Settled l (some exitFailure) [] l := by
  refine ⟨rfl, (Bool.or_false _).symm, id, nofun, fun code hcode => ?_⟩
  obtain rfl := Option.some.inj hcode
  rw [hpolicy, hfailed]
  rfl

/-- Statements are executed until one asks to exit, or fails under the policy to fail fast. -/
theorem executeAllTold_runs {statements : List String} {code? : Option Int}
    {executed : List (String × Except Failure Unit)}
    (h : Runs (interrupts (handle .shell) depth) (executeAllTold .shell statements) l events
      (code?, executed) l') : Settled l code? executed l' := by
  induction statements generalizing l events code? executed with
  | nil =>
    obtain ⟨-, htold, rfl⟩ := runs_pure h
    cases htold
    exact ⟨rfl, (Bool.or_false _).symm, id, fun _ => by simp, by simp⟩
  | cons statement statements ih =>
    obtain ⟨first, result, m, second, hexecute, htelling, rfl⟩ := runs_bind h
    obtain ⟨⟨hsettings, hfailed⟩, hremembers⟩ := execute_remembers hexecute
    obtain ⟨executed, hrest, rfl⟩ := runs_telling htelling
    -- a shell that has not failed now remembers what it remembered before
    have hm : fails result = false → Remembers l → Remembers m := by
      intro hresult hl hsome
      rw [hfailed]
      exact hl ((hremembers hsome).resolve_right (by rw [hresult]; exact Bool.false_ne_true))
    dsimp only at hrest ⊢
    split at hrest
    · exact (ih hrest).cons rfl hsettings (hfailed.trans (Bool.or_false _).symm) (hm rfl)
    · obtain ⟨-, htold, rfl⟩ := runs_pure hrest
      cases htold
      exact ⟨hsettings, hfailed.trans (Bool.or_false _).symm, hm rfl, nofun,
        fun code hcode => (Option.some.inj hcode).symm⟩
    · rename_i e hexit
      obtain ⟨hfails, hgoesOn⟩ := fails_failure hexit
      obtain ⟨third, m₁, fourth, hwrite, hnext, rfl⟩ := runs_report hrest
      have hreported := steady_writeLine steady_interrupts _ _ _ _ _ _ hwrite
      have hsettings₁ : m₁.settings = l.settings := hreported.settings.trans hsettings
      have hnoted : m₁.failed = true := hreported.failed
      have hfailed₁ : m₁.failed = (l.failed || fails (.error e)) := by
        rw [hnoted, hfails, Bool.or_true]
      split at hnext
      · rename_i hfast
        obtain ⟨-, htold, rfl⟩ := runs_pure hnext
        cases htold
        have hpolicy : l'.settings.policy = .failFast := by
          rw [hreported.settings]
          exact hfast
        exact (settled_failFast hpolicy hnoted).cons hgoesOn hsettings₁ hfailed₁ fun _ _ => hnoted
      · exact (ih hnext).cons hgoesOn hsettings₁ hfailed₁ fun _ _ => hnoted

theorem runs_lastErrorCode {between : Interference (Loop Shell)} {code? : Option String}
    (h : Runs between (onExecutor Executor.shell.lastErrorCode) l events code? l') :
    code? = l.executor.lastError? ∧ l' = l := by
  cases h with
  | get h => exact (runs_pure h).2

/-- What a run comes to. The loop knows of every failure that is told of; and if it knew of all that its
shell remembers when the run began, it does so still, and the code is the verdict. -/
structure Concluded (reads : Nat) (l : Loop Shell) (code? : Option Int) (story : Story) (l' : Loop Shell) :
    Prop where
  failed : l'.failed = (l.failed || story.failed)
  remembers : Remembers l → Remembers l'
  judged : Remembers l → story.Judged reads l.settings.policy l.failed code?

section Concluded

variable {m : Loop Shell} {reads : Nat} {code? : Option Int} {story : Story}

/-- A reading that brought something is nothing to the conclusion. -/
theorem Concluded.reading (hsteady : Steady l events m) (h : Concluded reads m code? story l')
    (statements : List String) :
    Concluded (reads + 1) l code? { story with readings := .ok statements :: story.readings } l' := by
  refine ⟨?_, fun hl => h.remembers (hsteady.remembers_iff.2 hl), fun hl => ?_⟩
  · rw [h.failed, hsteady.failed]
    rfl
  · have hjudged := h.judged (hsteady.remembers_iff.2 hl)
    rw [hsteady.settings, hsteady.failed] at hjudged
    exact hjudged.reading statements

/-- Statements behind which the run goes on. -/
theorem Concluded.executed {executed : List (String × Except Failure Unit)}
    (hsettled : Settled l none executed m) (h : Concluded reads m code? story l') :
    Concluded reads l code? { story with executed := executed ++ story.executed } l' := by
  refine ⟨?_, fun hl => h.remembers (hsettled.remembers hl), fun hl => ?_⟩
  · rw [h.failed, hsettled.failed, Bool.or_assoc, Story.failed, Story.failed, List.any_append]
  · have hjudged := h.judged (hsettled.remembers hl)
    rw [hsettled.settings, hsettled.failed] at hjudged
    exact hjudged.executed (hsettled.goesOn rfl)

/-- Statements with which the run ends. -/
theorem Settled.concluded {code : Int} {executed : List (String × Except Failure Unit)}
    (h : Settled l (some code) executed l') : Concluded reads l (some code) { executed } l' :=
  ⟨h.failed, h.remembers, fun _ => Story.judged_code (h.ends code rfl)⟩

/-- A reading with which the run ends. -/
theorem concluded_reading {code : Int} {reading : Except Failure (List String)} (hsteady : Steady l events l')
    (hcode : Remembers l →
      code = Story.verdict l.settings.policy l.failed { readings := [reading] }) :
    Concluded reads l (some code) { readings := [reading] } l' :=
  ⟨hsteady.failed.trans (Bool.or_false _).symm, hsteady.remembers_iff.2,
    fun hl => Story.judged_code (hcode hl)⟩

end Concluded

/-- Reading and executing ends with the verdict on it, by induction on the readings that are left; what
the loop knows of failures goes from one round to the next. -/
theorem readAndExecuteTold_runs {reads : Nat} {lastFailed : Bool} {code? : Option Int} {story : Story}
    (h : Runs (interrupts (handle .shell) depth) (readAndExecuteTold .shell reads lastFailed) l events
      (code?, story) l')
    (hlast : Remembers l → lastFailed → l.failed) : Concluded reads l code? story l' := by
  induction reads generalizing l events lastFailed code? story with
  | zero =>
    obtain ⟨-, htold, rfl⟩ := runs_pure h
    cases htold
    exact ⟨(Bool.or_false _).symm, id, fun _ => ⟨by simp, fun _ => ⟨rfl, by simp⟩⟩⟩
  | succ reads ih =>
    obtain ⟨first, reading, m, second, hread, htelling, rfl⟩ := runs_bind h
    obtain ⟨rest, hrest, rfl⟩ := runs_telling htelling
    have hsteady := steady_readOnce _ _ _ _ hread
    dsimp only at hrest ⊢
    split at hrest
    · refine (ih hrest fun hm hfailed => ?_).reading hsteady []
      rw [hsteady.failed]
      exact hlast (hsteady.remembers_iff.1 hm) hfailed
    · rename_i statements _
      obtain ⟨third, ⟨stop?, executed⟩, m₁, fourth, hexecute, hgoing, rfl⟩ := runs_bind hrest
      obtain ⟨last, hafter, rfl⟩ := runs_telling hgoing
      have hsettled := executeAllTold_runs hexecute
      dsimp only at hafter ⊢
      cases stop? with
      | some code =>
        obtain ⟨-, htold, rfl⟩ := runs_pure hafter
        cases htold
        rw [List.append_nil]
        exact hsettled.concluded.reading hsteady statements
      | none =>
        obtain ⟨fifth, _, _, sixth, hprobe, hback, rfl⟩ := runs_bind hafter
        obtain ⟨rfl, rfl⟩ := runs_lastErrorCode hprobe
        exact ((ih hback id).executed hsettled).reading hsteady statements
    · obtain ⟨hprint, htold⟩ :=
        runs_print_last (p := fun printer => printer.printIfVerbose Shell.farewell) hrest
      cases htold
      have hprinted := steady_printIfVerbose steady_interrupts _ _ _ _ _ _ hprint
      refine concluded_reading (steady_frame.trans hsteady hprinted) fun hl => ?_
      -- a code that the shell remembers tells the loop nothing new
      have hfailed : (l.failed || lastFailed) = l.failed := Bool.or_eq_left_iff_imp.2 (hlast hl)
      rw [hsteady.settings, hsteady.failed, hfailed, ← Story.verdict_nothing]
      exact (Story.verdict_reading rfl {}).symm
    · obtain ⟨-, htold, rfl⟩ := runs_pure hrest
      cases htold
      exact concluded_reading hsteady fun _ => rfl
    · rename_i e hend hexit
      obtain ⟨hprint, htold⟩ := runs_print_last (p := fun printer => printer.printError e) hrest
      cases htold
      have hprinted := steady_writeLine steady_interrupts _ _ _ _ _ _ hprint
      refine concluded_reading (steady_frame.trans hsteady hprinted) fun _ => ?_
      cases e with
      | noMoreInput => exact absurd rfl hend
      | exit code => exact absurd rfl (hexit code)
      | _ => rfl

/-- Saving the history changes nothing of what the run came to. -/
theorem runUntilEndTold_concluded {reads : Nat} {code? : Option Int} {story : Story}
    (h : Runs (interrupts (handle .shell) depth) (runUntilEndTold .shell reads) l events (code?, story) l') :
    Concluded reads l code? story l' := by
  obtain ⟨first, _, _, second, hprobe, hrest, rfl⟩ := runs_bind h
  obtain ⟨rfl, rfl⟩ := runs_lastErrorCode hprobe
  obtain ⟨third, ⟨stop?, tale⟩, m, fourth, hloop, hsave, rfl⟩ := runs_bind hrest
  have hconcluded := readAndExecuteTold_runs hloop id
  cases stop? with
  | none =>
    obtain ⟨-, htold, rfl⟩ := runs_pure hsave
    cases htold
    exact hconcluded
  | some code =>
    obtain ⟨fifth, _, _, sixth, hsaved, hpure, rfl⟩ := runs_bind hsave
    obtain ⟨rfl, htold, rfl⟩ := runs_pure hpure
    cases htold
    have hsteady := steady_trySaveHistory steady_interrupts _ _ _ _ hsaved
    exact ⟨hsteady.failed.trans hconcluded.failed,
      fun hl => hsteady.remembers_iff.2 (hconcluded.remembers hl), hconcluded.judged⟩

end Runs

/-! ## One run after another -/

/-- The runs that a loop has behind it, by their stories. Between two of them anything may become of the
loop and of its shell but for its note of failures, which nothing else writes. -/
inductive Past : List Story → Loop Shell → Prop where
  /-- A new loop knows of no failure. -/
  | new {l : Loop Shell} : l.failed = false → Past [] l
  | run {depth reads : Nat} {stories : List Story} {l l' : Loop Shell} {events : List Event} {code : Int}
      {story : Story} : Past stories l →
      Runs (interrupts (handle .shell) depth) (runUntilEndTold .shell reads) l events (some code, story) l' →
      Past (stories ++ [story]) l'
  | meanwhile {stories : List Story} {l l' : Loop Shell} : Past stories l → l'.failed = l.failed →
      Past stories l'

/-- A loop knows of a failure exactly if a statement has failed in one of its runs. -/
theorem Past.failed {stories : List Story} {l : Loop Shell} (h : Past stories l) :
    l.failed = stories.any Story.failed := by
  induction h with
  | new hfailed => exact hfailed
  | run _ hrun ih =>
    rw [(runUntilEndTold_concluded hrun).failed, ih, List.any_append, List.any_cons, List.any_nil,
      Bool.or_false]
  | meanwhile _ hsame ih => exact hsame.trans ih

/-- The exit code of a run, with its two sides. A loop knows of all failures in the runs that it has behind
it, and in this one when it ends. If its shell remembers no other, the run ends with the code of the first
statement that asks to exit; else with the code of the reading that fails; else, unless the policy is to
carry on, it fails exactly if a statement has failed, in this run or in an earlier one. And whatever an
executor says, it is asked for the code of its latest failure once in each cycle and once for each idle
interrupt. -/
theorem runUntilEnd_code :
    (∀ {depth reads : Nat} {stories : List Story} {l l' : Loop Shell} {events : List Event}
      {code? : Option Int},
      Past stories l → Remembers l →
      Runs (interrupts (handle .shell) depth) (runUntilEnd .shell reads) l events code? l' →
      ∃ story,
        Runs (interrupts (handle .shell) depth) (runUntilEndTold .shell reads) l events (code?, story)
          l' ∧
        story.Judged reads l.settings.policy (stories.any Story.failed) code? ∧
        l'.failed = (stories ++ [story]).any Story.failed ∧ Remembers l') ∧
    ∀ {depth reads : Nat} {l l' : Loop Unit} {events : List Event} {code : Int},
      Runs (interrupts (handle .delegated) depth) (runUntilEnd .delegated reads) l events (some code)
        l' →
      (count l events).probes = (count l events).cycles + (count l events).idle := by
  refine ⟨fun {depth reads stories l l' events code?} hpast hl hrun => ?_, runUntilEnd_probes⟩
  obtain ⟨story, htold⟩ := runUntilEndTold_runs hrun
  have hconcluded := runUntilEndTold_concluded htold
  refine ⟨story, htold, ?_, ?_, hconcluded.remembers hl⟩
  · rw [← hpast.failed]
    exact hconcluded.judged hl
  · rw [hconcluded.failed, hpast.failed, List.any_append, List.any_cons, List.any_nil, Bool.or_false]

/-- A loop over a shell that is not connected. -/
def offline (policy : ErrorPolicy) : Loop Shell where
  settings := { policy }
  printer := { format := .plain }
  executor := { connection := { interactive := false }, printer := { format := .plain } }

theorem Past.play {stories : List Story} {l : Loop Shell} {reads : Nat} {replies : List (Except Failure Read)}
    {code : Int} (h : Past stories l) (run : List Event × (Option Int × Story) × Loop Shell)
    (hrun : Program.play (failingOn "") (runUntilEndTold .shell reads) l replies = run)
    (hcode : run.2.1.1 = some code) : Past (stories ++ [run.2.1.2]) run.2.2 := by
  have hruns := runs_play (interrupts_quiet (handle .shell) 0) (failingOn "") (runUntilEndTold .shell reads) l
    replies
  obtain ⟨events, ⟨code?, story⟩, l'⟩ := run
  cases hcode
  rw [hrun] at hruns
  exact h.run hruns

/-- In a first run a statement fails without a code of a server, and another one succeeds. In a second run
of the same loop nothing fails, but the failure counts. -/
theorem runUntilEnd_code_later :
    let before := play (failingOn "") (runUntilEndTold .shell 3) (offline .failAtEnd)
      [.ok (.line "RETURN 1;"), .ok (.line ":param x => 1")]
    let run := play (failingOn "") (runUntilEnd .shell 2) before.2.2 [.ok (.line ":param y => 2")]
    before.2.1.1 = some exitFailure ∧ before.2.1.2.executed.map (fun turn => fails turn.2) = [true, false] ∧
      Past [before.2.1.2] before.2.2 ∧ Remembers before.2.2 ∧ before.2.2.executor.lastError? = none ∧
      run.2.1 = some exitFailure ∧ run.2.2.executor.parameters.length = 2 ∧
      ∃ story,
        Runs (interrupts (handle .shell) 0) (runUntilEndTold .shell 2) before.2.2 run.1 (run.2.1, story)
          run.2.2 ∧
        story.Judged 2 before.2.2.settings.policy ([before.2.1.2].any Story.failed) run.2.1 ∧
        run.2.2.failed = ([before.2.1.2] ++ [story]).any Story.failed ∧ Remembers run.2.2 := by
  intro before run
  -- under a name of its own the run is not evaluated to see that it is one
  have hsecond : ∀ l r, play (failingOn "") (runUntilEnd .shell 2) l [.ok (.line ":param y => 2")] = r →
      Runs (interrupts (handle .shell) 0) (runUntilEnd .shell 2) l r.1 r.2.1 r.2.2 := by
    rintro l _ rfl
    exact runs_play (interrupts_quiet (handle .shell) 0) _ _ _ _
  have hcode : before.2.1.1 = some exitFailure := by decide +kernel
  have hclear : before.2.2.executor.lastError? = none := by decide +kernel
  have hnew : Past [] (offline .failAtEnd) := .new rfl
  have hpast := hnew.play before rfl hcode
  have hremembers : Remembers before.2.2 := by
    rw [Remembers, hclear]
    nofun
  rw [List.nil_append] at hpast
  exact ⟨hcode, by decide +kernel, hpast, hremembers, hclear, by decide +kernel, by decide +kernel,
    runUntilEnd_code.1 hpast hremembers (hsecond before.2.2 run rfl)⟩

deriving instance DecidableEq for Story

/-- A reader can ask to exit, with a code of its own. And a loop that runs again has not forgotten what
failed before, though its shell has. -/
theorem exitFailure_exceptions :
    (¬ ∀ (reads : Nat) (l l' : Loop Shell) (events : List Event) (code : Int) (story : Story),
      l.executor.lastError? = none →
      Runs (interrupts (handle .shell) 0) (runUntilEndTold .shell reads) l events (some code, story) l' →
      story.exitCode? = none → (∃ e, e ≠ .noMoreInput ∧ .error e ∈ story.readings) →
      code = exitFailure) ∧
    ¬ ∀ (reads : Nat) (l l' : Loop Shell) (events : List Event) (code : Int) (story : Story),
      l.executor.lastError? = none →
      Runs (interrupts (handle .shell) 0) (runUntilEndTold .shell reads) l events (some code, story) l' →
      story.exitCode? = none → story.readingCode? = none → story.failed = false →
      code = exitSuccess := by
  have hplay (reads : Nat) (l : Loop Shell) (replies : List (Except Failure Read)) :=
    runs_play (interrupts_quiet (handle .shell) 0) (failingOn "") (runUntilEndTold .shell reads) l replies
  constructor
  · intro h
    have hresult : (play (failingOn "") (runUntilEndTold .shell 1) (offline .failAtEnd)
        [.error (.exit 5)]).2.1 = (some 5, { readings := [.error (.exit 5)] }) := by decide +kernel
    have hrun := hplay 1 (offline .failAtEnd) [.error (.exit 5)]
    rw [hresult] at hrun
    exact absurd (h _ _ _ _ _ _ rfl hrun rfl ⟨.exit 5, by decide, by decide⟩) (by decide)
  · intro h
    -- the loop after a run in which a statement failed
    let l := (play (failingOn "") (runUntilEnd .shell 2) (offline .failAtEnd)
      [.ok (.line "RETURN 1;")]).2.2
    have hresult : (play (failingOn "") (runUntilEndTold .shell 1) l []).2.1 =
        (some 1, { readings := [.error .noMoreInput] }) := by decide +kernel
    have hclear : l.executor.lastError? = none := by decide +kernel
    have hrun := hplay 1 l []
    rw [hresult] at hrun
    exact absurd (h _ _ _ _ _ _ hclear hrun rfl rfl rfl) (by decide)

end QueryShell.Loop
