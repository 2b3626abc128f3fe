import QueryShell.Proofs.Command.Names
import QueryShell.Proofs.Json.Members
import QueryShell.Proofs.Program.Logs
import QueryShell.Proofs.Shell.Executing

/-
Which parameters a query carries: those in force when it was issued, whether it is sent at once or
waits in a transaction. What is in force comes from the statements executed before (`inForce`), and of
those only from the ones that set a parameter or clear all of them, and succeeded. Nothing that is
executed later gets at a query that waits.
-/
namespace QueryShell.Shell

open Program Connection

/-! ## Histories -/

/-- One step of a shell's history. -/
inductive Step where
  | executed (statement : String) (events : List Event) (result : Except Failure Unit)
  | connected (endpoint : Endpoint) (events : List Event) (result : Except Failure Unit)
  | disconnected (events : List Event)
  /-- The reset handle was used between two of the others. -/
  | handled (events : List Event)

namespace Step

/-- All that happened. -/
def events : Step → List Event
  | .executed _ events _ => events
  | .connected _ events _ => events
  | .disconnected events => events
  | .handled events => events

/-- What was executed. -/
def meaning? : Step → Option Meaning
  | .executed statement _ _ => some (meaning statement)
  | _ => none

/-- What was executed, if that succeeded. -/
def done? : Step → Option Meaning
  | .executed statement _ (.ok ()) => some (meaning statement)
  | _ => none

/-- The step opens a transaction. -/
def opens (step : Step) : Bool :=
  step.done? = some (.command .begin)

/-- Why it failed. -/
def failure? : Step → Option Failure
  | .executed _ _ (.error e) => some e
  | _ => none

/-- The value that was answered last. -/
def answer? (step : Step) : Option Json :=
  (lastOutcome? (turns step.events)).bind firstValue?

/-- The parameter that the step sets. -/
def sets? (step : Step) : Option (String × Json) :=
  match step.done? with
  | some (.command (.setParam name expression)) =>
    ((Parameters.literal? expression).or step.answer?).map (Command.parameterName name, ·)
  | _ => none

/-- The step clears all parameters. -/
def clears (step : Step) : Bool :=
  step.done? = some (.command .clearParams)

/-- The parameters in force behind a step. -/
def update (ps : Parameters) (step : Step) : Parameters :=
  if step.clears then []
  else match step.sets? with
    | some (name, value) => ps.set name value
    | none => ps

/-- The query that the step issues with the parameters in force. -/
def issues? (ps : Parameters) : Step → Option Query
  | .executed statement _ _ =>
    match meaning statement with
    | .query => some { text := statement, parameters := ps }
    | .command (.setParam _ expression) =>
      match Parameters.literal? expression with
      | some _ => none
      | none => some (expressionQuery expression ps)
    | _ => none
  | _ => none

/-- The query that the step puts into the queue: it succeeds without being run. -/
def queues (ps : Parameters) (step : Step) : List Query :=
  if step.done? = some .query ∧ (ownQueries (turns step.events)).isEmpty then
    (step.issues? ps).toList
  else []

end Step

/-- The parameters in force behind a history. -/
def inForce (history : List Step) : Parameters :=
  history.foldl Step.update []

/-- The value of one parameter behind a history: the one that was set last, if they were not cleared
since. -/
def latest? (name : String) (history : List Step) : Option Json :=
  history.foldl (fun value? step =>
    if step.clears then none
    else match step.sets? with
      | some (other, value) => if other = name then some value else value?
      | none => value?) none

/-- The queries that are put into the queue behind `before`, each with the parameters in force then. -/
def queued (before : List Step) : List Step → List Query
  | [] => []
  | step :: rest => step.queues (inForce before) ++ queued (before ++ [step]) rest

/-- The queries were put into the queue since a transaction was opened. -/
def Collected (history : List Step) (queries : List Query) : Prop :=
  ∃ before opening own, history = before ++ opening :: own ∧ opening.opens = true ∧
    (∀ step ∈ own, step.opens = false) ∧ queries = queued (before ++ [opening]) own

/-- What a shell may have been used for since it is there, and the shell as it is now. -/
inductive Served (depth : Nat) : List Step → Shell → Prop where
  | new {interactive : Bool} {printer : Printer} {listed : Listed} :
      Served depth [] { connection := { interactive }, printer, listed }
  | executed {history : List Step} {s s' : Shell} {statement : String} {events : List Event}
      {result : Except Failure Unit} : Served depth history s →
      Runs (handling depth) (execute statement).run s events result s' →
      Served depth (history ++ [.executed statement events result]) s'
  | connected {history : List Step} {s s' : Shell} {endpoint : Endpoint} {events : List Event}
      {result : Except Failure Unit} : Served depth history s →
      Runs (handling depth) (connect endpoint).run s events result s' →
      Served depth (history ++ [.connected endpoint events result]) s'
  | disconnected {history : List Step} {s s' : Shell} {events : List Event} :
      Served depth history s → Runs (handling depth) disconnect s events () s' →
      Served depth (history ++ [.disconnected events]) s'
  | handled {history : List Step} {s : Shell} {events : List Event} {c : Connection} :
      Served depth history s → Uses (handleUses depth) s.connection events c →
      Served depth (history ++ [.handled events]) { s with connection := c }
  /-- The list of entries follows someone else's. -/
  | listed {history : List Step} {s : Shell} {entries : Listed} : Served depth history s →
      Served depth history { s with listed := entries }

variable {depth : Nat} {s s' : Shell} {history before own : List Step} {step : Step}
  {events : List Event} {ps : Parameters} {queries : List Query}

/-! ## Parameters in force -/

theorem inForce_snoc (history : List Step) (step : Step) :
    inForce (history ++ [step]) = step.update (inForce history) :=
  List.foldl_concat _ _ _ _

theorem sorted_inForce (history : List Step) : Json.Sorted (inForce history) := by
  induction history using List.reverseRecOn with
  | nil => exact List.Pairwise.nil
  | append_singleton history step ih =>
    rw [inForce_snoc]
    unfold Step.update
    split
    · exact List.Pairwise.nil
    split
    · exact ih.insert
    · exact ih

/-- What is in force is what was set last. -/
theorem lookup_inForce (name : String) (history : List Step) :
    (inForce history).lookup name = latest? name history := by
  induction history using List.reverseRecOn with
  | nil => rfl
  | append_singleton history step ih =>
    rw [inForce_snoc]
    unfold latest? at ih ⊢
    rw [List.foldl_concat]
    unfold Step.update
    split
    · rfl
    split
    · rename_i other value _
      by_cases hname : other = name
      · subst hname
        rw [if_pos rfl]
        exact Json.lookup_insert_self _ _ _
      · rw [if_neg hname, ← ih]
        exact Json.lookup_insert_of_ne (Ne.symm hname)
    · exact ih

/-! ## Queues -/

theorem queued_snoc (before own : List Step) (step : Step) :
    queued before (own ++ [step]) = queued before own ++ step.queues (inForce (before ++ own)) := by
  induction own generalizing before with
  | nil => simp [queued]
  | cons first own ih => simp [queued, ih]

theorem Collected.snoc (h : Collected history queries) (hopens : step.opens = false) :
    Collected (history ++ [step]) (queries ++ step.queues (inForce history)) := by
  obtain ⟨before, opening, own, rfl, hopening, hown, rfl⟩ := h
  refine ⟨before, opening, own ++ [step], by simp, hopening,
    List.forall_mem_append.2 ⟨hown, List.forall_mem_singleton.2 hopens⟩, ?_⟩
  rw [queued_snoc]
  simp

theorem collected_opening (history : List Step) (hopens : step.opens = true) :
    Collected (history ++ [step]) [] :=
  ⟨history, step, [], rfl, hopens, nofun, rfl⟩

/-! ## The invariant -/

/-- The connection is as operations leave it. -/
def Resting (c : Connection) : Prop :=
  ∃ log, Rests ⟨log, c.active⟩ (c, log)

theorem Resting.undergoes {c d : Connection} (h : Resting c) (huses : Undergoes c events d) :
    Resting d := by
  obtain ⟨log, hrests⟩ := h
  exact ⟨_, (hrests.undergoes huses).again⟩

theorem Resting.operation {c d : Connection} {op : Operation} {result : op.Result} (h : Resting c)
    (hrun : Runs (handleUses depth) op.program c events result d) : Resting d := by
  obtain ⟨log, hrests⟩ := h
  obtain ⟨aim, hafter⟩ := ensures_of_runs (ensures_operation op hrests) hrun
  exact ⟨_, hafter.again⟩

theorem Resting.installed {c : Connection} (h : Resting c) :
    c.link.session?.isSome = true → c.link.driver?.isSome = true := by
  obtain ⟨log, hrests⟩ := h
  exact hrests.sound.installed

/-- The queue behind an operation, and what it sends of the queue before. -/
theorem Resting.effect {c d : Connection} {op : Operation} {result : op.Result} (h : Resting c)
    (hrun : Runs (handleUses depth) op.program c events result d) :
    ∃ settled, (∀ queries, settled.pending? = some queries → c.pending? = some queries) ∧
      Effect settled (.operation op events result) d := by
  obtain ⟨log, hrests⟩ := h
  have heffects := effect_of_runs (fun _ _ _ _ => handleUses_keeps) hrests.sound.coherent hrun
  obtain ⟨settled, -, hsettled, heffect⟩ := exists_effect hrests.sound.coherent heffects
  exact ⟨settled, hsettled, heffect⟩

/-- How the state of a shell comes from its history. -/
structure Inv (history : List Step) (s : Shell) : Prop where
  parameters : s.parameters = inForce history
  queue : ∀ queries, s.connection.pending? = some queries → Collected history queries
  rests : Resting s.connection

/-- What a step sends, with the history before it. -/
structure Sent (before : List Step) (step : Step) : Prop where
  /-- Only the query that the step issues is sent at once, and it has the parameters in force. -/
  single : ∀ query ∈ ownQueries (turns step.events), step.issues? (inForce before) = some query
  /-- A transaction is what was put into the queue since it was opened. -/
  whole : ∀ queries ∈ transactions step.events, Collected before queries

/-- An operation of the connection, and what is said about it. -/
theorem Inv.operated (h : Inv history s) {op : Operation} {result : op.Result} {c : Connection}
    {first second : List Event}
    (hrun : Runs (handleUses depth) op.program s.connection first result c)
    (htalks : Talks { s with connection := c, parameters := ps } second s')
    (hevents : step.events = first ++ second) (hps : ps = step.update (inForce history))
    (hopens : (Connection.Step.operation op first result).opens = step.opens)
    (hqueued : (Connection.Step.operation op first result).queued = step.queues (inForce history))
    (howns : ∀ query, (Connection.Step.operation op first result).own? = some query →
      step.issues? (inForce history) = some query) :
    Inv (history ++ [step]) s' ∧ Sent history step := by
  obtain ⟨uses, huses⟩ := htalks.uses
  obtain ⟨settled, hsettled, heffect⟩ := h.rests.effect hrun
  refine ⟨⟨?_, fun queries hqueries => ?_, (h.rests.operation hrun).undergoes huses⟩, ?_, ?_⟩
  · rw [inForce_snoc, htalks.parameters]
    exact hps
  · rw [huses.pending] at hqueries
    rcases heffect.pending hqueries with ⟨hopening, rfl⟩ | ⟨hopening, before, hbefore, rfl⟩
    · exact collected_opening history (hopens ▸ hopening)
    · rw [hqueued]
      exact (h.queue before (hsettled before hbefore)).snoc (hopens ▸ hopening)
  · rw [hevents, turns_append, htalks.turns, List.append_nil]
    exact fun query hquery => howns query (own_of_runs h.rests.installed hrun query hquery)
  · intro queries hqueries
    rw [hevents, transactions_append, htalks.transactions, List.append_nil] at hqueries
    exact h.queue queries (hsettled queries (heffect.transactions hqueries))

/-- Nothing is asked of the connection. -/
theorem Inv.talked (h : Inv history s) (htalks : Talks { s with parameters := ps } step.events s')
    (hps : ps = step.update (inForce history)) (hopens : step.opens = false)
    (hqueues : step.queues (inForce history) = []) :
    Inv (history ++ [step]) s' ∧ Sent history step := by
  obtain ⟨uses, huses⟩ := htalks.uses
  refine ⟨⟨?_, fun queries hqueries => ?_, h.rests.undergoes huses⟩, ?_, ?_⟩
  · rw [inForce_snoc, htalks.parameters]
    exact hps
  · rw [huses.pending] at hqueries
    have hsnoc := (h.queue queries hqueries).snoc hopens
    rwa [hqueues, List.append_nil] at hsnoc
  · rw [htalks.turns]
    nofun
  · rw [htalks.transactions]
    nofun

/-! ## Statements -/

variable {statement : String} {result : Except Failure Unit}

/-- A parameter is set to what the server gave in this step. -/
theorem answer?_of_retrying {c : Connection} {query : Query} {came : Except Failure Outcome}
    {second : List Event} (h : Retrying c query (turns events) came)
    (hevents : step.events = events ++ second) (hsecond : turns second = []) :
    step.answer? = came.toOption.bind firstValue? := by
  unfold Step.answer?
  rw [hevents, turns_append, hsecond, List.append_nil, h.lastOutcome?]

theorem unquote_of_meaning {name expression : String}
    (h : meaning statement = .command (.setParam name expression)) :
    Command.unquote (Text.trim name) = Command.parameterName name := by
  unfold meaning at h
  split at h
  · cases h
  split at h
  · split at h
    · rename_i c hparse
      cases h
      exact Command.unquote_of_parse hparse
    · cases h
  · cases h

/-- Setting a parameter, or failing to, is followed by what is said about it. -/
theorem Inv.assigned (h : Inv history s) {name expression : String} {first second : List Event}
    {value : Except Failure Json} {t : Shell}
    (hmeaning : meaning statement = .command (.setParam name expression))
    (hassigns : Assigns depth s name expression first value t) (htalks : Talks t second s') :
    let step := Step.executed statement (first ++ second) (value.map fun _ => ())
    Inv (history ++ [step]) s' ∧ Sent history step := by
  intro step
  have hopens : step.opens = false := by
    cases value with
    | error e => rfl
    | ok v => simp [step, Step.opens, Step.done?, hmeaning, Except.map]
  have hqueues : step.queues (inForce history) = [] := by
    cases value with
    | error e => rfl
    | ok v => simp [step, Step.queues, Step.done?, hmeaning, Except.map]
  have hissues (hliteral : Parameters.literal? expression = none) (query : Query)
      (hquery : some (expressionQuery expression s.parameters) = some query) :
      step.issues? (inForce history) = some query := by
    rw [← hquery]
    simp [step, Step.issues?, hmeaning, hliteral, h.parameters]
  cases hassigns with
  | @literal v hliteral =>
    refine h.talked htalks ?_ hopens hqueues
    show s.parameters.set (Command.unquote (Text.trim name)) v = _
    rw [h.parameters, unquote_of_meaning hmeaning]
    simp [step, Step.update, Step.clears, Step.sets?, Step.done?, hmeaning, hliteral, Except.map]
  | @evaluated _ outcome v c hliteral hfirst hrun =>
    have hretrying := runs_evaluate h.rests.installed hrun
    have hanswer : step.answer? = some v :=
      (answer?_of_retrying hretrying rfl htalks.turns).trans hfirst
    refine h.operated (show Runs _ (Operation.evaluate _).program _ _ _ _ from hrun) htalks rfl ?_
      hopens.symm hqueues.symm (hissues hliteral)
    show s.parameters.set (Command.unquote (Text.trim name)) v = _
    rw [h.parameters, unquote_of_meaning hmeaning]
    simp [step, Step.update, Step.clears, Step.sets?, Step.done?, hmeaning, hliteral,
      Except.map] at hanswer ⊢
    rw [hanswer]
    rfl
  | failed hliteral hrun =>
    exact h.operated (show Runs _ (Operation.evaluate _).program _ _ _ _ from hrun) htalks rfl
      h.parameters hopens.symm hqueues.symm (hissues hliteral)
  | lacking hliteral _ hrun =>
    exact h.operated (show Runs _ (Operation.evaluate _).program _ _ _ _ from hrun) htalks rfl
      h.parameters hopens.symm hqueues.symm (hissues hliteral)

/-- A query is sent, queued or refused. -/
theorem Inv.queried (h : Inv history s) {came : Except Failure (Option Outcome)}
    (hmeaning : meaning statement = .query)
    (hperforms : Performs depth s (.runStatement { text := statement, parameters := s.parameters })
      events came s.parameters s') :
    let step := Step.executed statement events (came.map fun _ => ())
    Inv (history ++ [step]) s' ∧ Sent history step := by
  intro step
  obtain ⟨first, c, second, hrun, htalks, hevents⟩ := hperforms
  have hturns : turns events = turns first := by
    rw [hevents, turns_append, htalks.turns, List.append_nil]
  have hissues : step.issues? (inForce history) =
      some { text := statement, parameters := s.parameters } := by
    simp [step, Step.issues?, hmeaning, h.parameters]
  refine h.operated hrun htalks hevents ?_ ?_ ?_ ?_
  · rw [h.parameters]
    cases came <;> simp [step, Step.update, Step.clears, Step.sets?, Step.done?, hmeaning, Except.map]
  · cases came <;> simp [step, Connection.Step.opens, Step.opens, Step.done?, hmeaning, Except.map]
  · -- what was run succeeded by being run, and what was not was queued
    rcases runs_runStatement h.rests.installed hrun with ⟨-, rfl, hlooks⟩ | ⟨sent, rfl, hretrying⟩
    · unfold Step.queues
      rw [hissues]
      simp [step, Connection.Step.queued, Step.done?, Step.events, hmeaning, Except.map, hturns, hlooks]
    · cases sent with
      | error e => rfl
      | ok outcome =>
        have hrun : (ownQueries (turns events)).isEmpty = false := by
          rw [hturns, List.isEmpty_eq_false_iff]
          exact List.ne_nil_of_mem (hretrying.sent.resolve_left nofun)
        simp [step, Connection.Step.queued, Step.queues, Step.events, hrun, Except.map]
  · intro query hquery
    rw [hissues]
    cases came with
    | error e => exact hquery
    | ok outcome? =>
      cases outcome? with
      | none => cases hquery
      | some outcome => exact hquery

/-! ## All other steps -/

/-- Neither a query nor about parameters, nor the opening of a transaction. -/
def Meaning.plain : Meaning → Bool
  | .query => false
  | .command .begin => false
  | .command (.setParam _ _) => false
  | .command .clearParams => false
  | _ => true

/-- What is plain or fails changes nothing that is in force, opens no transaction and queues nothing. -/
theorem plain_step (h : ∀ m ∈ step.done?, m.plain = true) (ps : Parameters) :
    step.update ps = ps ∧ step.opens = false ∧ step.queues ps = [] := by
  unfold Step.update Step.clears Step.sets? Step.opens Step.queues
  cases hdone : step.done? with
  | none => exact ⟨rfl, rfl, rfl⟩
  | some m =>
    have hplain := h m hdone
    cases m with
    | query => cases hplain
    | nothing => exact ⟨rfl, rfl, rfl⟩
    | misuse => exact ⟨by simp, by simp, by simp⟩
    | command c =>
      cases c <;> first | exact absurd hplain Bool.false_ne_true | exact ⟨by simp, by simp, by simp⟩

/-- Nothing is asked of the connection, and the step is plain. -/
theorem Inv.idled (h : Inv history s) (hplain : ∀ m ∈ step.done?, m.plain = true)
    (htalks : Talks s step.events s') : Inv (history ++ [step]) s' ∧ Sent history step := by
  obtain ⟨hupdate, hopens, hqueues⟩ := plain_step hplain (inForce history)
  exact h.talked htalks (h.parameters.trans hupdate.symm) hopens hqueues

/-- An operation that runs no query and opens no transaction. -/
theorem Inv.commanded (h : Inv history s) (hplain : ∀ m ∈ step.done?, m.plain = true) {op : Operation}
    {came : op.Result} (hop : ∀ first, (Connection.Step.operation op first came).opens = false ∧
      (Connection.Step.operation op first came).queued = [] ∧
      (Connection.Step.operation op first came).own? = none)
    (hperforms : Performs depth s op step.events came s.parameters s') :
    Inv (history ++ [step]) s' ∧ Sent history step := by
  obtain ⟨first, c, second, hrun, htalks, hevents⟩ := hperforms
  obtain ⟨hopens, hqueued, hown⟩ := hop first
  obtain ⟨hupdate, hnotopens, hqueues⟩ := plain_step hplain (inForce history)
  refine h.operated hrun htalks hevents (h.parameters.trans hupdate.symm) (hopens.trans hnotopens.symm)
    (hqueued.trans hqueues.symm) ?_
  rw [hown]
  nofun

theorem Inv.begun (h : Inv history s) (hmeaning : meaning statement = .command .begin)
    (hperforms : Performs depth s .begin events result s.parameters s') :
    let step := Step.executed statement events result
    Inv (history ++ [step]) s' ∧ Sent history step := by
  intro step
  obtain ⟨first, c, second, hrun, htalks, hevents⟩ := hperforms
  refine h.operated hrun htalks hevents ?_ ?_ ?_ nofun
  · rw [h.parameters]
    cases result <;> simp [step, Step.update, Step.clears, Step.sets?, Step.done?, hmeaning]
  · cases result <;> simp [step, Connection.Step.opens, Step.opens, Step.done?, hmeaning]
  · cases result <;> simp [step, Connection.Step.queued, Step.queues, Step.done?, hmeaning]

/-- Executing a statement keeps the invariant. -/
theorem Inv.executes (h : Inv history s)
    (hexecutes : Executes depth s statement events (meaning statement) result s') :
    let step := Step.executed statement events result
    Inv (history ++ [step]) s' ∧ Sent history step := by
  intro step
  have hdone : ∀ m ∈ step.done?, m = meaning statement := by
    intro m hm
    cases result with
    | error e => cases hm
    | ok => exact (Option.some.inj hm).symm
  have hplain (hm : (meaning statement).plain = true) : ∀ m ∈ step.done?, m.plain = true :=
    fun m hmem => hdone m hmem ▸ hm
  generalize hmeaning : meaning statement = m at hexecutes hplain
  cases hexecutes with
  | nothing htalks => exact h.idled (hplain rfl) htalks
  | misuse htalks => exact h.idled (hplain rfl) htalks
  | query hperforms => exact h.queried hmeaning hperforms
  | begins hperforms => exact h.begun hmeaning hperforms
  | commits hperforms => exact h.commanded (hplain rfl) (fun _ => ⟨rfl, rfl, rfl⟩) hperforms
  | rollsBack hperforms => exact h.commanded (hplain rfl) (fun _ => ⟨rfl, rfl, rfl⟩) hperforms
  | switches hperforms => exact h.commanded (hplain rfl) (fun _ => ⟨rfl, rfl, rfl⟩) hperforms
  | param hassigns htalks hevents =>
    subst hevents
    exact h.assigned hmeaning hassigns htalks
  | clears htalks =>
    refine h.talked htalks ?_ ?_ ?_
    · simp [step, Step.update, Step.clears, Step.done?, hmeaning]
    · simp [step, Step.opens, Step.done?, hmeaning]
    · simp [step, Step.queues, Step.done?, hmeaning]
  | @tells c r s' hc htalks =>
    refine h.idled (hplain ?_) htalks
    cases c <;> first | rfl | cases hc

/-! ## Evaluation -/

/-- An expression that is no literal is evaluated in the step itself, with the parameters in force,
unless there is no open session. The step succeeds if and only if the server gives a value. -/
def Evaluates (before : List Step) (step : Step) : Prop :=
  ∀ name expression, step.meaning? = some (.command (.setParam name expression)) →
    Parameters.literal? expression = none →
    (step.failure? = some (.refused .notConnected) ∨
      expressionQuery expression (inForce before) ∈ ownQueries (turns step.events)) ∧
    step.failure?.isNone = step.answer?.isSome

theorem Inv.evaluates (h : Inv history s)
    (hexecutes : Executes depth s statement events (meaning statement) result s') :
    Evaluates history (.executed statement events result) := by
  intro name expression hmeaning hliteral
  rw [Option.some.inj hmeaning] at hexecutes
  cases hexecutes with
  | tells htells => cases htells
  | @param _ _ first second value t _ hassigns htalks hevents =>
    have hturns : turns events = turns first := by
      rw [hevents, turns_append, htalks.turns, List.append_nil]
    have hsends {came : Except Failure Outcome} {c : Connection}
        (hrun : Runs (handleUses depth)
          (Connection.evaluate (expressionQuery expression s.parameters)).run s.connection first came c) :
        (came = .error (.refused .notConnected) ∨
          expressionQuery expression (inForce history) ∈ ownQueries (turns events)) ∧
        ∀ result, (Step.executed statement events result).answer? = came.toOption.bind firstValue? := by
      have hretrying := runs_evaluate h.rests.installed hrun
      rw [hturns, ← h.parameters]
      exact ⟨hretrying.sent, fun _ => answer?_of_retrying hretrying hevents htalks.turns⟩
    cases hassigns with
    | literal hvalue =>
      rw [hliteral] at hvalue
      cases hvalue
    | @evaluated _ outcome v c _ hfirst hrun =>
      obtain ⟨hsent, hanswer⟩ := hsends hrun
      refine ⟨.inr (hsent.resolve_left nofun), ?_⟩
      rw [hanswer]
      exact (congrArg Option.isSome hfirst).symm
    | failed _ hrun =>
      obtain ⟨hsent, hanswer⟩ := hsends hrun
      refine ⟨hsent.imp_left fun he => congrArg some (Except.error.inj he), ?_⟩
      rw [hanswer]
      rfl
    | lacking _ hlacks hrun =>
      obtain ⟨hsent, hanswer⟩ := hsends hrun
      refine ⟨.inr (hsent.resolve_left nofun), ?_⟩
      rw [hanswer]
      exact (congrArg Option.isSome hlacks).symm

/-! ## Whole histories -/

theorem Inv.of_fields (h : Inv history s) (hconnection : s'.connection = s.connection)
    (hparameters : s'.parameters = s.parameters) : Inv history s' := by
  refine ⟨hparameters.trans h.parameters, ?_, ?_⟩
  · rw [hconnection]
    exact h.queue
  · rw [hconnection]
    exact h.rests

/-- Each step keeps the invariant, and what it sends is described by the history before it. -/
theorem Served.inv (h : Served depth history s) :
    Inv history s ∧ Throughout Sent history ∧ Throughout Evaluates history := by
  induction h with
  | @new interactive =>
    have hvisited : Visited depth interactive [] { interactive } := .new
    exact ⟨⟨rfl, nofun, [], hvisited.rests⟩, throughout_nil, throughout_nil⟩
  | executed _ hrun ih =>
    obtain ⟨hinv, hsent, hevaluates⟩ := ih
    obtain ⟨t, hexecutes, hconnection, hparameters⟩ := executes_of_runs hrun
    obtain ⟨hkept, hstep⟩ := hinv.executes hexecutes
    exact ⟨hkept.of_fields hconnection hparameters, throughout_snoc.2 ⟨hsent, hstep⟩,
      throughout_snoc.2 ⟨hevaluates, hinv.evaluates hexecutes⟩⟩
  | @connected history s s' endpoint events result _ hrun ih =>
    obtain ⟨hinv, hsent, hevaluates⟩ := ih
    obtain ⟨hconnect, hstate⟩ := runs_tryConnection hrun
    have hperforms : Performs depth s (.connect endpoint) events result _ s' :=
      performs_alone hconnect hstate
    obtain ⟨hkept, hstep⟩ : Inv (history ++ [.connected endpoint events result]) s' ∧ Sent history _ :=
      hinv.commanded nofun (fun _ => ⟨rfl, rfl, rfl⟩) hperforms
    exact ⟨hkept, throughout_snoc.2 ⟨hsent, hstep⟩, throughout_snoc.2 ⟨hevaluates, nofun⟩⟩
  | @disconnected history s s' events _ hrun ih =>
    obtain ⟨hinv, hsent, hevaluates⟩ := ih
    obtain ⟨hdisconnect, hstate⟩ := runs_onConnection hrun
    have hperforms : Performs depth s .disconnect events () _ s' := performs_alone hdisconnect hstate
    obtain ⟨hkept, hstep⟩ : Inv (history ++ [.disconnected events]) s' ∧ Sent history _ :=
      hinv.commanded nofun (fun _ => ⟨rfl, rfl, rfl⟩) hperforms
    exact ⟨hkept, throughout_snoc.2 ⟨hsent, hstep⟩, throughout_snoc.2 ⟨hevaluates, nofun⟩⟩
  | @handled history s events c _ huses ih =>
    obtain ⟨hinv, hsent, hevaluates⟩ := ih
    have huses : handleUses (depth + 1) s.connection events c := huses
    obtain ⟨hkept, hstep⟩ : Inv (history ++ [.handled events]) _ ∧ Sent history _ :=
      hinv.idled nofun (talks_uses huses)
    exact ⟨hkept, throughout_snoc.2 ⟨hsent, hstep⟩, throughout_snoc.2 ⟨hevaluates, nofun⟩⟩
  | listed _ ih => exact ⟨ih.1.of_fields rfl rfl, ih.2⟩

/-- What holds of the parameters in the history of a shell that is now in state `s`. -/
structure Parametric (history : List Step) (s : Shell) : Prop where
  parameters : s.parameters = inForce history
  /-- What is in force is there once, and it is what was set last. -/
  latest : ∀ earlier, Json.Sorted (inForce earlier) ∧
    ∀ name, (inForce earlier).lookup name = latest? name earlier
  /-- The queries that wait have the parameters that were in force when they were issued. -/
  queue : ∀ queries, s.connection.pending? = some queries → Collected history queries
  sent : Throughout Sent history
  evaluated : Throughout Evaluates history

/-- Queries carry the parameters that were in force when they were issued, in every history, whatever
the driver answers and whenever interrupts arrive. -/
theorem served_parametric (h : Served depth history s) : Parametric history s := by
  obtain ⟨hinv, hsent, hevaluates⟩ := h.inv
  have hlatest (earlier : List Step) : Json.Sorted (inForce earlier) ∧
      ∀ name, (inForce earlier).lookup name = latest? name earlier :=
    ⟨sorted_inForce earlier, fun name => lookup_inForce name earlier⟩
  exact ⟨hinv.parameters, hlatest, hinv.queue, hsent, hevaluates⟩

/-- How a shell executes one statement after the other if nothing comes in between and each call has a
reply of its own. -/
def replay (respond : (call : Call) → call.Reply) : List String → Shell → List Step × Shell
  | [], s => ([], s)
  | statement :: rest, s =>
    let (events, result, t) := (execute statement).run.trace respond s
    let (history, s') := replay respond rest t
    (.executed statement events result :: history, s')

theorem served_replay (respond : (call : Call) → call.Reply) (statements : List String)
    (h : Served depth history s) :
    Served depth (history ++ (replay respond statements s).1) (replay respond statements s).2 := by
  induction statements generalizing history s with
  | nil => simpa [replay] using h
  | cons statement statements ih =>
    have hrun := runs_trace (handling_quiet depth) respond (execute statement).run s
    simpa [replay] using ih (.executed h hrun)

/-- Each expression is evaluated to the same text. -/
def evaluating : (call : Call) → call.Reply
  | .driver (.run _ _) => .ok { keys := ["value"], rows := [[.string "today"]] }
  | call => willing call

/-- A parameter is set twice and cleared inside a transaction. -/
def setAndClear : List String :=
  [":param a => 1", ":begin", "CREATE ($a);", ":param \x60a\x60 => date()", "CREATE ($a);",
    ":params clear", "CREATE (2);", ":commit"]

/-- Each of the queries is sent with the parameters that were in force when it was queued. -/
theorem parametric_setAndClear :
    let shell : Shell := { connection := { interactive := true }, printer := { format := .plain } }
    let connected := (connect {}).run.trace evaluating shell
    let run := replay evaluating setAndClear connected.2.2
    let history := .connected {} connected.1 connected.2.1 :: run.1
    Served 0 history run.2 ∧ Parametric history run.2 ∧
      (transactions (history.flatMap Step.events)).map (·.map (·.parameters.describe)) =
        [[[":param a => 1"], [":param a => \"today\""], []]] := by
  intro shell connected run history
  have hconnected : Served 0 ([] ++ [.connected {} connected.1 connected.2.1]) connected.2.2 :=
    .connected .new (runs_trace (handling_quiet 0) evaluating _ _)
  have hserved : Served 0 history run.2 := served_replay evaluating setAndClear hconnected
  exact ⟨hserved, served_parametric hserved, by decide +kernel⟩

end QueryShell.Shell
