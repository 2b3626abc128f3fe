import QueryShell.Proofs.Connection.FailedConnect
import QueryShell.Proofs.Connection.Retrying

/-
Which queries an operation runs for whoever asked for it. Every session that is opened is tested with
a query of its own, right behind its opening; all other queries that an operation runs are those it
was asked to run. So only two operations run any, and each of them one.
-/
namespace QueryShell.Connection

open Program

/-! ## Queries in turns -/

namespace Turn

/-- The query that is run. -/
def query? : Turn → Option Query
  | ⟨.run _ query, _⟩ => some query
  | _ => none

/-- What a query that is run comes to. -/
def outcome? : Turn → Option Outcome
  | ⟨.run _ _, .ok o⟩ => some o
  | _ => none

/-- The database of the session that is asked for. -/
def database? : Turn → Option String
  | ⟨.openSession _ config, _⟩ => some (config.database.getD defaultDatabase)
  | _ => none

end Turn

/-- It is the query that tests a new session on a database. -/
def isProbe (query : Query) (database : String) : Bool :=
  query.text = (probe database).text && query.parameters.isEmpty

/-- The queries that are run, other than the first if it tests a session on the database. -/
def queriesFrom : Option String → List Turn → List Query
  | _, [] => []
  | database?, t :: ts =>
    (t.query?.filter fun query => !database?.any (isProbe query)).toList ++
      queriesFrom t.database? ts

/-- The queries that are run, other than right behind the opening of a session to test it. -/
def ownQueries (ts : List Turn) : List Query :=
  queriesFrom none ts

theorem queriesFrom_sublist (database? : Option String) (ts : List Turn) :
    (queriesFrom database? ts).Sublist (ownQueries ts) := by
  cases ts with
  | nil => exact .slnil
  | cons t ts =>
    refine List.Sublist.append_right ?_ _
    cases t.query? with
    | none => exact .slnil
    | some query => cases hprobe : database?.any (isProbe query) <;> simp [Option.filter_some, hprobe]

theorem queriesFrom_append_sublist (database? : Option String) (first second : List Turn) :
    (queriesFrom database? (first ++ second)).Sublist
      (queriesFrom database? first ++ ownQueries second) := by
  induction first generalizing database? with
  | nil => exact queriesFrom_sublist database? second
  | cons t ts ih =>
    unfold queriesFrom
    rw [List.append_assoc]
    exact (ih _).append_left _

/-- Own queries of two pieces are own queries of one of them. -/
theorem mem_ownQueries_append {first second : List Turn} {query : Query}
    (h : query ∈ ownQueries (first ++ second)) : query ∈ ownQueries first ∨ query ∈ ownQueries second :=
  List.mem_append.1 ((queriesFrom_append_sublist none first second).subset h)

theorem ownQueries_append_nil {first second : List Turn} (h₁ : ownQueries first = [])
    (h₂ : ownQueries second = []) : ownQueries (first ++ second) = [] := by
  refine List.eq_nil_iff_forall_not_mem.2 fun query hquery => ?_
  rcases mem_ownQueries_append hquery with h | h
  · rw [h₁] at h
    cases h
  · rw [h₂] at h
    cases h

@[simp]
theorem ownQueries_nil : ownQueries [] = [] := rfl

@[simp]
theorem ownQueries_isOpen (session : Driver.SessionRef) (isOpen : Bool) (ts : List Turn) :
    ownQueries (⟨.isOpen session, isOpen⟩ :: ts) = ownQueries ts := rfl

@[simp]
theorem ownQueries_run (session : Driver.SessionRef) (query : Query)
    (reply : Except Driver.Error Outcome) (ts : List Turn) :
    ownQueries (⟨.run session query, reply⟩ :: ts) = query :: ownQueries ts := rfl

@[simp]
theorem ownQueries_looks (session? : Option Driver.SessionRef) (isOpen : Bool) :
    ownQueries (looks session? isOpen) = [] := by
  cases session? <;> rfl

@[simp]
theorem database_sessionConfig (active : String) (bookmark? : Option Bookmark) :
    (sessionConfig active bookmark?).database.getD defaultDatabase = active := by
  unfold sessionConfig
  by_cases hactive : active = defaultDatabase <;> simp [hactive]

/-- Replacing a session runs the query that tests it, and no other. -/
theorem Renewal.ownQueries_eq {driver : Driver.Ref} {active : String} {bookmark? : Option Bookmark}
    {ts : List Turn} {r : Except Driver.Error Driver.SessionRef}
    (h : Renewal driver active bookmark? ts r) : ownQueries ts = [] := by
  cases h with
  | unverified => rfl
  | unopened => rfl
  | _ => simp [ownQueries, queriesFrom, Turn.query?, Turn.database?, isProbe, probe]

theorem Replacement.ownQueries_eq {driver : Driver.Ref} {c : Connection} {ts : List Turn}
    {r : Except Driver.Error Driver.SessionRef} (h : Replacement driver c ts r) :
    ownQueries ts = [] := by
  cases h with
  | first _ hrenewal => exact hrenewal.ownQueries_eq
  | next latest? closed _ hrenewal => exact hrenewal.ownQueries_eq

variable {depth : Nat} {c c' : Connection} {events : List Event} {query : Query} {ts : List Turn}

/-! ## Sending a query -/

/-- Whoever sends a query runs no other. -/
theorem Sending.own {r : Except Failure Outcome} (h : Sending c query ts r) :
    ∀ other ∈ ownQueries ts, other = query := by
  have hreplaced {driver : Driver.Ref} {between behind : List Turn}
      {renewed : Except Driver.Error Driver.SessionRef} (h : Replacement driver c between renewed)
      (hbehind : ∀ other ∈ ownQueries behind, other = query) :
      ∀ other ∈ ownQueries (between ++ behind), other = query := by
    intro other hother
    rcases mem_ownQueries_append hother with hother | hother
    · rw [h.ownQueries_eq] at hother
      cases hother
    · exact hbehind other hother
  cases h with
  | unsent => simp
  | once => simp
  | unrenewed _ _ hreplacement => simp [hreplacement.ownQueries_eq]
  | lost _ _ hreplacement => simpa using hreplaced hreplacement (by simp)
  | twice _ _ hreplacement => simpa using hreplaced hreplacement (by simp)

theorem Retrying.own {r : Except Failure Outcome} (h : Retrying c query ts r) :
    ∀ other ∈ ownQueries ts, other = query := by
  cases h with
  | refused => simp
  | sending _ hsending => simpa using hsending.own

/-- A query is run at once, unless there is no open session. -/
theorem Retrying.sent {r : Except Failure Outcome} (h : Retrying c query ts r) :
    r = .error (.refused .notConnected) ∨ query ∈ ownQueries ts := by
  cases h with
  | refused => exact .inl rfl
  | sending _ hsending =>
    cases hsending with
    | unsent => exact .inl rfl
    | _ => exact .inr (by simp)

/-- What was answered last. -/
def lastOutcome? (ts : List Turn) : Option Outcome :=
  ts.getLast?.bind Turn.outcome?

theorem lastOutcome?_concat (ts : List Turn) (t : Turn) : lastOutcome? (ts ++ [t]) = t.outcome? := by
  unfold lastOutcome?
  rw [List.getLast?_concat]
  rfl

theorem FailsWith.lastOutcome? {source : Driver.Error} (h : FailsWith source ts) (front : List Turn) :
    lastOutcome? (front ++ ts) = none := by
  obtain ⟨before, t, rfl, ht, -⟩ := h
  rw [← List.append_assoc, lastOutcome?_concat]
  unfold Turn.failure? at ht
  split at ht <;> first | rfl | cases ht

/-- What a query comes to is what was answered last. -/
theorem Retrying.lastOutcome? {r : Except Failure Outcome} (h : Retrying c query ts r) :
    lastOutcome? ts = r.toOption := by
  cases h with
  | refused => cases c.link.session? <;> rfl
  | @sending session ts _ _ hsending =>
    cases hsending with
    | unsent => cases c.link.session? <;> rfl
    | @once session' reply => cases reply <;> rfl
    | @unrenewed session' _ m _ _ _ _ hreplacement =>
      exact hreplacement.failsWith.lastOutcome? [⟨.isOpen session, true⟩, ⟨.isOpen session', true⟩,
        ⟨.run session' query, .error (.sessionExpired m)⟩]
    | lost => exact lastOutcome?_concat (_ :: _) _
    | @twice _ _ _ _ _ reply =>
      rw [List.append_cons]
      refine (lastOutcome?_concat (_ :: _) _).trans ?_
      cases reply <;> rfl

/-! ## All other operations -/

/-- Nothing is run but to test new sessions. -/
def Modest (_ : Connection) (events : List Event) (_ : Connection) : Prop :=
  ownQueries (turns events) = []

theorem modestFrame : Frame Modest :=
  ⟨fun _ => rfl, fun h₁ h₂ => by
    unfold Modest
    rw [turns_append]
    exact ownQueries_append_nil h₁ h₂⟩

/-- A call that runs no query. -/
def Unquerying : Call → Prop
  | .driver (.run _ _) => False
  | _ => True

theorem modest_answered {x : Call} (h : Unquerying x) (reply : x.Reply) :
    ownQueries (turns [.answered x reply]) = [] := by
  cases x with
  | driver call => cases call <;> first | rfl | cases h
  | _ => rfl

theorem modest_call {x : Call} (hx : Unquerying x) :
    Obeys (handleUses depth) Modest (Program.call x) := by
  refine Program.obeys_call fun {c during c'} hduring reply => ?_
  have hasked : turns [.asked x] = [] := rfl
  show ownQueries (turns (.asked x :: during ++ [.answered x reply])) = []
  rw [← List.singleton_append, turns_append, turns_append, hasked, turns_handleUses hduring]
  exact modest_answered hx reply

theorem modest_isConnected : Obeys (handleUses depth) Modest isConnected := by
  intro c events connected d hrun
  show ownQueries (turns events) = []
  rw [(runs_isConnected hrun).turns_eq, ownQueries_looks]

theorem modest_reconnect : Obeys (handleUses depth) Modest reconnect.run := by
  intro c events r d hrun
  show ownQueries (turns events) = []
  cases hdriver : c.link.driver? with
  | none =>
    have hrest := Attempt.runs_get_bind hrun
    rw [hdriver] at hrest
    obtain ⟨rfl, -, -⟩ := Attempt.runs_throw hrest
    rfl
  | some driver =>
    obtain ⟨renewed, hreplacement, -⟩ := runs_reconnect hdriver hrun
    exact hreplacement.ownQueries_eq

theorem modest_tearDown : Obeys (handleUses depth) Modest tearDown := by
  intro c events failures d hrun
  show ownQueries (turns events) = []
  obtain ⟨ofSession, ofDriver, ts, rfl, hturns, -⟩ :=
    ensures_of_runs_alone (ensures_tearDown_turns _) hrun
  rw [turns_nil, List.nil_append] at hturns
  rw [hturns]
  cases c.link.session? <;> cases c.link.driver? <;> rfl

theorem modest_requireConnected : Obeys (handleUses depth) Modest requireConnected.run := by
  unfold requireConnected
  refine modestFrame.attempt_bind (Attempt.obeys_lift modest_isConnected) fun connected => ?_
  cases connected with
  | true => exact modestFrame.attempt_pure ()
  | false => exact modestFrame.attempt_throw _

theorem modest_requireSession : Obeys (handleUses depth) Modest requireSession.run := by
  have hopen : Obeys (handleUses depth) Modest openSession? := by
    intro c events session? d hrun
    show ownQueries (turns events) = []
    rw [(runs_openSession? hrun).1.turns_eq, ownQueries_looks]
  unfold requireSession
  refine modestFrame.attempt_bind (Attempt.obeys_lift hopen) fun session? => ?_
  cases session? with
  | none => exact modestFrame.attempt_throw _
  | some session => exact modestFrame.attempt_pure session

theorem modest_settle : Obeys (handleUses depth) Modest settle.run :=
  Attempt.obeys_lift (Program.obeys_modify fun _ => rfl)

theorem modest_takePending : Obeys (handleUses depth) Modest takePending :=
  Program.obeys_modifyGet fun _ => rfl

theorem modest_activate (name : String) : Obeys (handleUses depth) Modest (activate name) :=
  Program.obeys_modifyGet fun _ => rfl

theorem modest_connect (endpoint : Endpoint) :
    Obeys (handleUses depth) Modest (connect endpoint).run := by
  have hframe := modestFrame
  have hestablish : Obeys (handleUses depth) Modest (establish endpoint).run := by
    unfold establish
    refine hframe.attempt_bind (modest_call trivial) fun driver => ?_
    refine hframe.attempt_bind (Attempt.obeys_lift (Program.obeys_modify fun _ => rfl)) fun _ => ?_
    exact modest_reconnect
  unfold connect
  refine hframe.attempt_bind modest_settle fun _ => ?_
  refine hframe.attempt_bind (Attempt.obeys_lift modest_isConnected) fun connected => ?_
  cases connected with
  | true => exact hframe.attempt_throw_bind _ _
  | false =>
    refine hframe.attempt_bind (Attempt.obeys_modify fun _ => rfl) fun _ => ?_
    refine hframe.attempt_bind (Attempt.obeys_lift hestablish) fun reply => ?_
    cases reply with
    | ok => exact hframe.attempt_pure ()
    | error source =>
      exact hframe.attempt_bind (Attempt.obeys_lift modest_tearDown) fun _ => hframe.attempt_throw _

theorem modest_disconnect : Obeys (handleUses depth) Modest disconnect :=
  modestFrame.obeys_bind modest_tearDown fun failures =>
    modestFrame.obeys_forM _ (fun _ => modest_call (x := .console (.warn _ _)) trivial) failures

theorem modest_switchDatabase (name : String) :
    Obeys (handleUses depth) Modest (switchDatabase name).run := by
  have hframe := modestFrame
  unfold switchDatabase
  refine hframe.attempt_bind modest_settle fun _ => hframe.attempt_bind hframe.attempt_get fun c => ?_
  split
  · exact hframe.attempt_throw_bind _ _
  refine hframe.attempt_bind (Attempt.obeys_lift (modest_activate name)) fun previous => ?_
  refine hframe.attempt_bind (Attempt.obeys_lift modest_isConnected) fun connected => ?_
  cases connected with
  | false => exact hframe.attempt_pure ()
  | true =>
    refine hframe.attempt_bind (Attempt.obeys_lift modest_reconnect) fun reply => ?_
    cases reply with
    | ok => exact hframe.attempt_pure ()
    | error source =>
      refine hframe.attempt_bind hframe.attempt_get fun d => ?_
      split
      · refine hframe.attempt_bind (Attempt.obeys_lift (modest_activate previous)) fun _ => ?_
        refine hframe.attempt_bind (Attempt.obeys_lift modest_reconnect) fun reply => ?_
        cases reply with
        | ok => exact hframe.attempt_throw_bind _ _
        | error e => exact hframe.attempt_throw_bind _ _
      · exact hframe.attempt_throw _

theorem modest_begin : Obeys (handleUses depth) Modest begin.run := by
  have hframe := modestFrame
  unfold begin
  refine hframe.attempt_bind modest_settle fun _ => ?_
  refine hframe.attempt_bind modest_requireConnected fun _ => ?_
  refine hframe.attempt_bind hframe.attempt_get fun c => ?_
  split
  · exact hframe.attempt_throw_bind _ _
  · exact Attempt.obeys_modify fun _ => rfl

theorem modest_commit : Obeys (handleUses depth) Modest commit.run := by
  have hframe := modestFrame
  unfold commit
  refine hframe.attempt_bind modest_settle fun _ => ?_
  refine hframe.attempt_bind modest_requireConnected fun _ => ?_
  refine hframe.attempt_bind (Attempt.obeys_lift modest_takePending) fun taken => ?_
  split
  · exact hframe.attempt_throw _
  · exact hframe.attempt_pure _
  · rename_i queries _
    refine hframe.attempt_bind modest_requireSession fun session => ?_
    refine hframe.attempt_bind (Attempt.obeys_mapError _ (modest_call trivial)) fun outcomes => ?_
    exact hframe.attempt_bind (Attempt.obeys_modify fun _ => rfl) fun _ => hframe.attempt_pure _

theorem modest_rollback : Obeys (handleUses depth) Modest rollback.run := by
  have hframe := modestFrame
  unfold rollback
  refine hframe.attempt_bind modest_settle fun _ => ?_
  refine hframe.attempt_bind modest_requireConnected fun _ => ?_
  refine hframe.attempt_bind (Attempt.obeys_lift modest_takePending) fun taken => ?_
  cases taken with
  | none => exact hframe.attempt_throw _
  | some queries => exact hframe.attempt_pure ()

/-- A reset is what the handle does. -/
theorem modest_reset : Obeys (handleUses depth) Modest reset := by
  refine modestFrame.obeys_bind ?_ fun _ => modestFrame.obeys_bind ?_ fun _ =>
    Program.obeys_modify fun _ => rfl
  · intro c events _ d hrun
    have huses : handleUses (depth + 1) c (.interrupted :: events ++ []) d := .reset hrun .none
    have hturns := turns_handleUses huses
    rw [List.append_nil] at hturns
    show ownQueries (turns events) = []
    rw [show turns events = [] from hturns]
    rfl
  · intro c events _ d hrun
    have huses : handleUses (depth + 1) c (events ++ []) d := .clear hrun .none
    have hturns := turns_handleUses huses
    rw [List.append_nil] at hturns
    show ownQueries (turns events) = []
    rw [hturns]
    rfl

/-- An operation runs the query that it was asked to run, and no other but to test new sessions. -/
theorem own_of_runs {op : Operation} {result : op.Result}
    (hinstalled : c.link.session?.isSome = true → c.link.driver?.isSome = true)
    (h : Runs (handleUses depth) op.program c events result c') :
    ∀ query ∈ ownQueries (turns events), (Step.operation op events result).own? = some query := by
  have hmodest (hobeys : Obeys (handleUses depth) Modest op.program) :
      ∀ query ∈ ownQueries (turns events), (Step.operation op events result).own? = some query := by
    rw [show ownQueries (turns events) = [] from hobeys _ _ _ _ h]
    nofun
  cases op with
  | connect endpoint => exact hmodest (modest_connect endpoint)
  | disconnect => exact hmodest modest_disconnect
  | switchDatabase name => exact hmodest (modest_switchDatabase name)
  | begin => exact hmodest modest_begin
  | commit => exact hmodest modest_commit
  | rollback => exact hmodest modest_rollback
  | reset => exact hmodest modest_reset
  | runStatement own =>
    intro query hquery
    rcases runs_runStatement hinstalled h with ⟨-, rfl, hturns⟩ | ⟨sent, rfl, hretrying⟩
    · rw [hturns, ownQueries_looks] at hquery
      cases hquery
    · rw [hretrying.own query hquery]
      cases sent <;> rfl
  | evaluate own =>
    intro query hquery
    rw [(runs_evaluate hinstalled h).own query hquery]
    rfl

end QueryShell.Connection
