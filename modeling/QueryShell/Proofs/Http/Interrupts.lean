import QueryShell.Proofs.Http.Traffic

/-
Interrupts that come at any time. A driver is interrupted, cleared and used by threads of their own, and
clearing takes two steps, so that interrupts may come in between. As long as the count does not come
round, an interrupt is pending exactly if one came behind the first step of the last clear
(`reached_remembers`); and as long as one is pending, nothing is sent and nothing is changed.
-/
namespace QueryShell.Http

/-! ## Counting -/

/-- The count tells whether there was an interrupt, as long as it does not come round. -/
theorem Interrupts.pending_iff {i : Interrupts} {n : Nat}
    (h : i.requested = i.cleared + UInt64.ofNat n) (hn : n < UInt64.size) : i.pending = true ↔ 0 < n := by
  have hcount := congrArg UInt64.toNat h
  rw [UInt64.toNat_add, UInt64.toNat_ofNat'] at hcount
  have hrequested := i.requested.toNat_lt
  have hcleared := i.cleared.toNat_lt
  have hn : n < 18446744073709551616 := hn
  rw [pending, bne_iff_ne, ne_eq, ← UInt64.toNat_inj]
  omega

theorem Interrupts.requested_interrupt (i : Interrupts) {base : UInt64} {n : Nat}
    (h : i.requested = base + UInt64.ofNat n) :
    i.interrupt.requested = base + UInt64.ofNat (n + 1) := by
  rw [interrupt, h, UInt64.ofNat_add, UInt64.add_assoc]
  rfl

namespace State

/-! ## The interrupts of one driver -/

/-- The interrupts of a driver. -/
def interrupts? (st : State) (d : Nat) : Option Interrupts :=
  (st.servers[d]?).map (·.interrupts)

/-- A call interrupts a driver directly, or by the reset of one of its sessions. -/
def hits (st : State) (d : Nat) : Driver.Call → Bool
  | .interrupt driver => driver.number == d
  | .resetSession session => (st.sessions[session.number]?).any (·.server == d)
  | _ => false

theorem isInterrupted_eq {st : State} {d : Nat} {i : Interrupts} (h : st.interrupts? d = some i) :
    st.isInterrupted d = i.pending := by
  obtain ⟨server, hserver, rfl⟩ := Option.map_eq_some_iff.1 h
  rw [isInterrupted, hserver]

theorem exists_server {st : State} {d : Nat} (h : st.isInterrupted d = true) :
    ∃ server, st.servers[d]? = some server := by
  unfold isInterrupted at h
  split at h
  · exact ⟨_, ‹_›⟩
  · cases h

/-- A change of a server is one of its interrupts. -/
theorem interrupts?_onServer (st : State) (i : Nat) {f : Server → Server} {g : Interrupts → Interrupts}
    (hfg : ∀ server, (f server).interrupts = g server.interrupts) (d : Nat) :
    (st.onServer i f).interrupts? d =
      if i = d then (st.interrupts? d).map g else st.interrupts? d := by
  unfold interrupts? onServer
  rw [List.getElem?_modify]
  by_cases h : i = d
  · cases st.servers[d]? with
    | none => simp
    | some server => simp [h, hfg]
  · simp [h]

theorem interrupts?_onServer_same (st : State) (i : Nat) {f : Server → Server}
    (hf : ∀ server, (f server).interrupts = server.interrupts) (d : Nat) :
    (st.onServer i f).interrupts? d = st.interrupts? d := by
  rw [interrupts?_onServer st i (g := id) hf]
  split
  · exact Option.map_id_apply
  · rfl

theorem begin_of_hits {st : State} {d : Nat} {c : Driver.Call} (h : st.hits d c = true) :
    ∃ reply st', st.begin c = .replied reply st' ∧
      st'.interrupts? d = (st.interrupts? d).map Interrupts.interrupt := by
  unfold hits at h
  split at h
  · rename_i driver
    refine ⟨_, _, rfl, ?_⟩
    rw [interrupts?_onServer st driver.number (g := Interrupts.interrupt) (fun _ => rfl),
      if_pos (beq_iff_eq.1 h)]
  · rename_i session
    cases hsession : st.sessions[session.number]? with
    | none =>
      rw [hsession] at h
      cases h
    | some s =>
      rw [hsession] at h
      refine ⟨.ok (), st.onServer s.server fun server =>
        { server with interrupts := server.interrupts.interrupt }, by simp only [State.begin, hsession], ?_⟩
      rw [interrupts?_onServer st s.server (g := Interrupts.interrupt) (fun _ => rfl),
        if_pos (beq_iff_eq.1 h)]
  · cases h

/-- The reply to a call that was interrupted. -/
def interruptedReply? : (c : Driver.Call) → Option c.Reply
  | .verify _ => some (.error .interrupted)
  | .run _ _ => some (.error .interrupted)
  | .write _ _ => some (.error .interrupted)
  | _ => none

/-- What any other call does about the interrupts of a driver: it leaves them alone, and it gives up its
request if there is one pending when the answer arrives. -/
inductive Heeds (st : State) (d : Nat) (c : Driver.Call) : Step c.Reply → Prop where
  | replied {reply : c.Reply} {st' : State} :
      (∀ i, st.interrupts? d = some i → st'.interrupts? d = some i) →
      Heeds st d c (.replied reply st')
  | exchange {server : Nat} {request : Request} {conclude : Answer → State → c.Reply × State} :
      st.asked? c = some server →
      (∀ answer st', (conclude answer st').2.interrupts? d = st'.interrupts? d) →
      (∀ st', st'.isInterrupted server = true → ∃ reply, interruptedReply? c = some reply ∧
        ∀ answer, conclude answer st' = (reply, st')) →
      Heeds st d c (.exchange request conclude)

theorem heeds_same {st : State} {d : Nat} {c : Driver.Call} {reply : c.Reply} :
    Heeds st d c (.replied reply st) :=
  .replied fun _ h => h

theorem heeds_verify (st : State) (d : Nat) (driver : Driver.Ref) :
    Heeds st d (.verify driver) (st.begin (.verify driver)) := by
  show Heeds st d (.verify driver) (st.verify driver.number)
  unfold State.verify
  split
  · exact heeds_same
  unfold sendUnlessInterrupted
  split
  · exact heeds_same
  dsimp only
  split
  · exact heeds_same
  refine .exchange rfl (fun answer st' => ?_) fun st' hpending => ⟨_, rfl, fun answer => ?_⟩
  · split
    · rfl
    · split
      · rfl
      · show (st'.onServer driver.number _).interrupts? d = _
        refine interrupts?_onServer_same st' driver.number ?_ d
        exact fun _ => rfl
  · rw [if_pos hpending]

/-- Whatever becomes of the reply, committing heeds interrupts in one way. -/
theorem heeds_commit {c : Driver.Call} {session : Driver.SessionRef}
    (hcommitting : committing? c = some session) (st : State) (d : Nat) (queries : List Query)
    {f : Except Driver.Error (List Outcome) → c.Reply}
    (hf : interruptedReply? c = some (f (.error .interrupted))) :
    Heeds st d c ((st.commit session.number queries).map f) := by
  have hstep := commit_step st session.number queries
  generalize st.commit session.number queries = step at hstep ⊢
  cases hstep with
  | unknown | closed | interrupted | unsendable => exact heeds_same
  | @sent s _ _ hsession _ _ _ _ hconclude =>
    have hasked : st.asked? c = some s.server := by
      rw [asked?_of_committing hcommitting, hsession]
      rfl
    refine .exchange hasked (fun answer st' => ?_) fun st' hpending => ⟨_, hf, fun answer => ?_⟩
    · dsimp only
      rw [hconclude]
      unfold concludeCommit
      split
      · rfl
      split
      · rfl
      · dsimp only
        split <;> rfl
    · dsimp only
      rw [hconclude, concludeCommit, if_pos hpending]

/-- Opening something leaves what is open alone. -/
theorem interrupts?_append {st : State} {d : Nat} {i : Interrupts} (h : st.interrupts? d = some i)
    (servers : List Server) : { st with servers := st.servers ++ servers }.interrupts? d = some i := by
  obtain ⟨server, hserver, rfl⟩ := Option.map_eq_some_iff.1 h
  have hd := (List.getElem?_eq_some_iff.1 hserver).1
  show (((st.servers ++ servers)[d]?).map _) = _
  rw [List.getElem?_append_left hd, hserver]
  rfl

theorem heeds_begin {st : State} {d : Nat} {c : Driver.Call} (hhits : st.hits d c = false)
    (hclear : c ≠ .clearInterrupt ⟨d⟩) : Heeds st d c (st.begin c) := by
  cases c with
  | openDriver e =>
    refine .replied fun i hi => ?_
    split
    · exact hi
    · split
      · exact interrupts?_append hi _
      · exact interrupts?_append hi _
      · exact hi
  | verify driver => exact heeds_verify st d driver
  | run session query => exact heeds_commit (c := .run session query) rfl st d [query] rfl
  | write session queries =>
    cases queries with
    | nil => exact heeds_same
    | cons query queries =>
      have hheeds := heeds_commit (c := .write session (query :: queries)) (f := id) rfl st d
        (query :: queries) rfl
      rwa [map_id] at hheeds
  | resetSession session =>
    unfold State.begin
    dsimp only
    cases hsession : st.sessions[session.number]? with
    | none => exact heeds_same
    | some s =>
      have hother : s.server ≠ d := by simpa [hits, hsession] using hhits
      refine .replied fun i hi => ?_
      rw [interrupts?_onServer st s.server (g := Interrupts.interrupt) (fun _ => rfl), if_neg hother, hi]
  | interrupt driver =>
    have hother : driver.number ≠ d := by simpa [hits] using hhits
    refine .replied fun i hi => ?_
    rw [interrupts?_onServer st driver.number (g := Interrupts.interrupt) (fun _ => rfl), if_neg hother, hi]
  | clearInterrupt driver =>
    have hother : driver.number ≠ d := by
      rintro rfl
      exact hclear rfl
    refine .replied fun i hi => ?_
    rw [interrupts?_onServer st driver.number (g := Interrupts.clear) (fun _ => rfl), if_neg hother, hi]
  | openSession | closeSession => exact .replied fun _ h => h
  | closeDriver | isOpen | lastBookmark => exact heeds_same

/-! ## Nothing is sent -/

theorem commit_of_interrupted {st : State} {i : Nat} {session : Session}
    (hsession : st.sessions[i]? = some session) (hopen : session.isOpen = true)
    (hpending : st.isInterrupted session.server = true) (queries : List Query) :
    st.commit i queries = .replied (.error .interrupted) st := by
  obtain ⟨server, hserver⟩ := exists_server hpending
  simp [commit, sendUnlessInterrupted, hsession, hserver, hopen, hpending]

/-- What comes of requests to an interrupted driver: they are not sent, they fail for the interrupt, and
nothing is changed. -/
structure Withheld (st : State) (d : Nat) : Prop where
  verify : st.begin (.verify ⟨d⟩) = .replied (.error .interrupted) st
  run : ∀ (s : Driver.SessionRef) (session : Session), st.sessions[s.number]? = some session →
    session.server = d → session.isOpen = true → ∀ query,
    st.begin (.run s query) = .replied (.error .interrupted) st
  write : ∀ (s : Driver.SessionRef) (session : Session), st.sessions[s.number]? = some session →
    session.server = d → session.isOpen = true → ∀ queries, queries ≠ [] →
    st.begin (.write s queries) = .replied (.error .interrupted) st

theorem withheld {st : State} {d : Nat} (hpending : st.isInterrupted d = true) : st.Withheld d where
  verify := by
    obtain ⟨server, hserver⟩ := exists_server hpending
    show st.verify d = _
    simp [State.verify, sendUnlessInterrupted, hserver, hpending]
  run s session hsession hserver hopen query := by
    subst hserver
    show (st.commit s.number [query]).map single = _
    rw [commit_of_interrupted hsession hopen hpending]
    rfl
  write s session hsession hserver hopen queries hne := by
    subst hserver
    obtain ⟨query, rest, rfl⟩ := List.exists_cons_of_ne_nil hne
    exact commit_of_interrupted hsession hopen hpending (query :: rest)

end State

/-! ## Threads -/

/-- A request that is under way. -/
structure Flight where
  call : Driver.Call
  /-- The driver that is asked. -/
  server : Nat
  conclude : Answer → State → call.Reply × State

/-- A driver that several threads work with: any number interrupt it, one clears it, and one makes calls
and waits for their answers. -/
structure Race where
  state : State
  /-- The count that was read by a clear and is still to be stored. -/
  held? : Option UInt64 := none
  flight? : Option Flight := none

/-- What one of the threads does. -/
inductive Deed where
  | interrupted
  /-- The first step of a clear. -/
  | read
  /-- The second step of a clear. -/
  | stored
  | replied (c : Driver.Call) (reply : c.Reply)
  | sent (c : Driver.Call) (request : Request)
  | answered (c : Driver.Call) (reply : c.Reply)

/-- Stores a count that was read before. -/
def State.store (st : State) (d : Nat) (count : UInt64) : State :=
  st.onServer d fun server => { server with interrupts := server.interrupts.clearTo count }

/-- The steps of all threads. An interrupt is any call that interrupts the driver; the calls of the last
thread are all others but clearing the driver. -/
inductive Does (d : Nat) : Race → Deed → Race → Prop where
  | interrupt {race : Race} {c : Driver.Call} {reply : c.Reply} {st : State} :
      race.state.hits d c = true → race.state.begin c = .replied reply st →
      Does d race .interrupted { race with state := st }
  | read {race : Race} {i : Interrupts} : race.held? = none → race.state.interrupts? d = some i →
      Does d race .read { race with held? := some i.requested }
  | store {race : Race} {count : UInt64} : race.held? = some count →
      Does d race .stored { race with held? := none, state := race.state.store d count }
  | reply {race : Race} {c : Driver.Call} {reply : c.Reply} {st : State} : race.flight? = none →
      race.state.hits d c = false → c ≠ .clearInterrupt ⟨d⟩ → race.state.begin c = .replied reply st →
      Does d race (.replied c reply) { race with state := st }
  | send {race : Race} {c : Driver.Call} {server : Nat} {request : Request}
      {conclude : Answer → State → c.Reply × State} : race.flight? = none →
      race.state.hits d c = false → race.state.asked? c = some server →
      race.state.begin c = .exchange request conclude →
      Does d race (.sent c request) { race with flight? := some ⟨c, server, conclude⟩ }
  | answer {race : Race} {flight : Flight} {answer : Answer} {reply : flight.call.Reply} {st : State} :
      race.flight? = some flight → flight.conclude answer race.state = (reply, st) →
      Does d race (.answered flight.call reply) { race with state := st, flight? := none }

/-- What was done from a start on, and what came of it. -/
inductive Reached (d : Nat) (start : Race) : List Deed → Race → Prop where
  | start : Reached d start [] start
  | step {log : List Deed} {race race' : Race} {deed : Deed} : Reached d start log race →
      Does d race deed race' → Reached d start (log ++ [deed]) race'

/-- With nothing in between, the two steps of a clear are the driver's own. -/
theorem does_clear {d : Nat} {race : Race} {i : Interrupts} (hheld : race.held? = none)
    (hi : race.state.interrupts? d = some i) : ∃ between after, Does d race .read between ∧
      Does d between .stored after ∧
      race.state.begin (.clearInterrupt ⟨d⟩) = .replied () after.state := by
  refine ⟨_, _, .read hheld hi, .store rfl, ?_⟩
  obtain ⟨server, hserver, rfl⟩ := Option.map_eq_some_iff.1 hi
  show Step.replied () _ = Step.replied () _
  congr 1
  unfold State.store State.onServer
  congr 1
  refine List.ext_getElem? fun j => ?_
  rw [List.getElem?_modify, List.getElem?_modify]
  by_cases h : d = j
  · subst h
    rw [hserver]
    rfl
  · simp [h]

/-! ## What is counted -/

/-- How many interrupts there were. -/
def interruptions (log : List Deed) : Nat :=
  log.countP fun deed =>
    match deed with
    | .interrupted => true
    | _ => false

theorem interruptions_append (log log' : List Deed) :
    interruptions (log ++ log') = interruptions log + interruptions log' :=
  List.countP_append

theorem interruptions_pos_iff {log : List Deed} : 0 < interruptions log ↔ .interrupted ∈ log := by
  unfold interruptions
  rw [List.countP_pos_iff]
  constructor
  · rintro ⟨deed, hmem, hdeed⟩
    split at hdeed
    · exact hmem
    · cases hdeed
  · exact fun hmem => ⟨_, hmem, rfl⟩

/-- The interrupts that count: those behind the first step of the last clear, and those behind the first
step of a clear that is still to be completed. -/
structure Tally where
  behind : Nat := 0
  held? : Option Nat := none

/-- What is counted after one more deed. -/
def Tally.add (t : Tally) : Deed → Tally
  | .interrupted => { behind := t.behind + 1, held? := t.held?.map (· + 1) }
  | .read => { t with held? := some 0 }
  | .stored => { behind := t.held?.getD t.behind, held? := none }
  | _ => t

/-- What is counted of a log. -/
def tally (log : List Deed) : Tally :=
  log.foldl Tally.add {}

theorem foldl_behind {log : List Deed} (hstored : .stored ∉ log) (t : Tally) :
    (log.foldl Tally.add t).behind = t.behind + interruptions log := by
  induction log generalizing t with
  | nil => rfl
  | cons deed log ih =>
    obtain ⟨hdeed, hlog⟩ := not_or.1 (mt List.mem_cons.2 hstored)
    have hsum : interruptions (deed :: log) = interruptions [deed] + interruptions log :=
      interruptions_append [deed] log
    rw [List.foldl_cons, ih hlog, hsum, ← Nat.add_assoc]
    congr 1
    cases deed with
    | stored => exact absurd rfl hdeed
    | _ => rfl

theorem add_held {deed : Deed} (hread : deed ≠ .read) (hstored : deed ≠ .stored) (t : Tally) :
    (t.add deed).held? = t.held?.map (· + interruptions [deed]) := by
  cases deed with
  | read => exact absurd rfl hread
  | stored => exact absurd rfl hstored
  | interrupted => rfl
  | replied | sent | answered => exact Option.map_id_apply.symm

theorem foldl_held {log : List Deed} (hread : .read ∉ log) (hstored : .stored ∉ log) (t : Tally) :
    (log.foldl Tally.add t).held? = t.held?.map (· + interruptions log) := by
  induction log generalizing t with
  | nil => exact Option.map_id_apply.symm
  | cons deed log ih =>
    obtain ⟨hread, hread'⟩ := not_or.1 (mt List.mem_cons.2 hread)
    obtain ⟨hstored, hstored'⟩ := not_or.1 (mt List.mem_cons.2 hstored)
    have hsum : interruptions (deed :: log) = interruptions [deed] + interruptions log :=
      interruptions_append [deed] log
    rw [List.foldl_cons, ih hread' hstored', add_held (Ne.symm hread) (Ne.symm hstored), Option.map_map,
      hsum]
    exact congrArg (Option.map · t.held?) (funext fun n => Nat.add_assoc n _ _)

/-- The last clear that was completed: what happened between its steps, and what happened since. -/
structure LastClear (log during after : List Deed) : Prop where
  steps : ∃ before, log = before ++ .read :: (during ++ .stored :: after)
  /-- What is stored was read by the same clear. -/
  own : .read ∉ during ∧ .stored ∉ during
  last : .stored ∉ after

theorem LastClear.tally_behind {log during after : List Deed} (h : LastClear log during after) :
    (tally log).behind = interruptions (during ++ after) := by
  obtain ⟨⟨before, rfl⟩, ⟨hread, hstored⟩, hlast⟩ := h
  have hheld := foldl_held hread hstored ((tally before).add .read)
  have hbehind := foldl_behind hlast ((during.foldl Tally.add ((tally before).add .read)).add .stored)
  unfold tally at hheld hbehind ⊢
  rw [List.foldl_append, List.foldl_cons, List.foldl_append, List.foldl_cons, hbehind,
    interruptions_append, Tally.add.eq_3, hheld]
  simp [Tally.add]

theorem tally_behind {log : List Deed} (h : .stored ∉ log) : (tally log).behind = interruptions log :=
  (foldl_behind h {}).trans (Nat.zero_add _)

/-! ## What every step keeps -/

/-- The counts of the driver are those of the log. -/
structure Counted (d : Nat) (t : Tally) (race : Race) : Prop where
  count : ∃ i, race.state.interrupts? d = some i ∧ i.requested = i.cleared + UInt64.ofNat t.behind ∧
    ∀ n ∈ race.held?, ∃ k ∈ t.held?, i.requested = n + UInt64.ofNat k
  /-- The request under way is given up if it finds an interrupt. -/
  flight : ∀ flight ∈ race.flight?,
    (∀ answer st, (flight.conclude answer st).2.interrupts? d = st.interrupts? d) ∧
    ∀ st : State, st.isInterrupted flight.server = true →
      ∃ reply, State.interruptedReply? flight.call = some reply ∧
        ∀ answer, flight.conclude answer st = (reply, st)

theorem Counted.does {d : Nat} {t : Tally} {race race' : Race} {deed : Deed} (h : Counted d t race)
    (hdoes : Does d race deed race') : Counted d (t.add deed) race' := by
  obtain ⟨⟨i, hi, hcount, hheld⟩, hflight⟩ := h
  cases hdoes with
  | interrupt hhits hbegin =>
    obtain ⟨reply, st, hbegin', hafter⟩ := State.begin_of_hits hhits
    rw [hbegin'] at hbegin
    cases hbegin
    rw [hi] at hafter
    refine ⟨⟨i.interrupt, hafter, i.requested_interrupt hcount, fun n hn => ?_⟩, hflight⟩
    obtain ⟨k, hk, hrequested⟩ := hheld n hn
    exact ⟨k + 1, by simp [Tally.add, Option.mem_def.1 hk], i.requested_interrupt hrequested⟩
  | read hidle hread =>
    rw [hi] at hread
    cases hread
    refine ⟨⟨i, hi, hcount, fun n hn => ⟨0, rfl, ?_⟩⟩, hflight⟩
    obtain rfl : i.requested = n := Option.some.inj hn
    exact (UInt64.add_zero _).symm
  | @store count hstore =>
    obtain ⟨k, hk, hrequested⟩ := hheld count hstore
    have hafter : (race.state.store d count).interrupts? d = some (i.clearTo count) := by
      rw [State.store, State.interrupts?_onServer _ d (g := (·.clearTo count)) (fun _ => rfl), if_pos rfl,
        hi]
      rfl
    refine ⟨⟨i.clearTo count, hafter, ?_, nofun⟩, hflight⟩
    rw [Tally.add, Option.mem_def.1 hk]
    exact hrequested
  | reply hidle hhits hclear hbegin =>
    have hheeds := State.heeds_begin hhits hclear
    rw [hbegin] at hheeds
    cases hheeds with
    | replied hkeeps => exact ⟨⟨i, hkeeps i hi, hcount, hheld⟩, hflight⟩
  | send hidle hhits hasked hbegin =>
    have hheeds := State.heeds_begin hhits (fun heq => by subst heq; cases hbegin)
    rw [hbegin] at hheeds
    cases hheeds with
    | exchange hasked' hkeeps hgivesUp =>
      obtain rfl := Option.some.inj (hasked.symm.trans hasked')
      refine ⟨⟨i, hi, hcount, hheld⟩, fun flight hflying => ?_⟩
      cases hflying
      exact ⟨hkeeps, hgivesUp⟩
  | @answer flight answer reply st hflying hconclude =>
    have hkeeps := (hflight flight hflying).1 answer race.state
    rw [hconclude, hi] at hkeeps
    exact ⟨⟨i, hkeeps, hcount, hheld⟩, nofun⟩

theorem Reached.counted {d : Nat} {start race : Race} {log : List Deed} (h : Reached d start log race)
    (hstart : Counted d {} start) : Counted d (tally log) race := by
  induction h with
  | start => exact hstart
  | step _ hdoes ih =>
    rw [tally, List.foldl_append]
    exact ih.does hdoes

/-- A clear that is under way has read its count, and nothing else was read or stored since. -/
def Clearing (log : List Deed) : Prop :=
  ∃ before during, log = before ++ .read :: during ∧ .read ∉ during ∧ .stored ∉ during

/-- What is stored was read before. -/
structure Ordered (log : List Deed) (race : Race) : Prop where
  clearing : race.held? ≠ none → Clearing log
  completed : .stored ∈ log → ∃ during after, LastClear log during after

theorem Ordered.does {d : Nat} {log : List Deed} {race race' : Race} {deed : Deed}
    (h : Ordered log race) (hdoes : Does d race deed race') : Ordered (log ++ [deed]) race' := by
  -- a deed that is no step of a clear is added to what happened since
  have hother (hread : deed ≠ .read) (hstored : deed ≠ .stored) (hheld : race'.held? = race.held?) :
      Ordered (log ++ [deed]) race' := by
    constructor
    · intro hclearing
      obtain ⟨before, during, rfl, hread', hstored'⟩ := h.clearing (hheld ▸ hclearing)
      exact ⟨before, during ++ [deed], by simp, by simp [hread', Ne.symm hread],
        by simp [hstored', Ne.symm hstored]⟩
    · intro hmem
      have hmem : .stored ∈ log := by simpa [Ne.symm hstored] using hmem
      obtain ⟨during, after, ⟨before, rfl⟩, hown, hlast⟩ := h.completed hmem
      exact ⟨during, after ++ [deed], ⟨before, by simp⟩, hown, by simp [hlast, Ne.symm hstored]⟩
  cases hdoes with
  | read hidle hread =>
    constructor
    · exact fun _ => ⟨log, [], rfl, List.not_mem_nil, List.not_mem_nil⟩
    · intro hmem
      have hmem : .stored ∈ log := by simpa using hmem
      obtain ⟨during, after, ⟨before, rfl⟩, hown, hlast⟩ := h.completed hmem
      exact ⟨during, after ++ [.read], ⟨before, by simp⟩, hown, by simp [hlast]⟩
  | store hstore =>
    obtain ⟨before, during, rfl, hown⟩ := h.clearing (by simp [hstore])
    exact ⟨fun hheld => absurd rfl hheld,
      fun _ => ⟨during, [], ⟨before, by simp⟩, hown, List.not_mem_nil⟩⟩
  | interrupt | reply | send | answer => exact hother nofun nofun rfl

theorem Reached.ordered {d : Nat} {start race : Race} {log : List Deed} (h : Reached d start log race)
    (hstart : start.held? = none) : Ordered log race := by
  induction h with
  | start => exact ⟨fun hheld => absurd hstart hheld, nofun⟩
  | step _ hdoes ih => exact ih.does hdoes

/-! ## Interrupts are neither lost nor found again -/

/-- What interrupts mean after everything that was done. -/
structure Remembers (d : Nat) (log : List Deed) (race : Race) : Prop where
  /-- Before the first clear is complete, every interrupt counts. -/
  unforgotten : .stored ∉ log → interruptions log < UInt64.size →
    (race.state.isInterrupted d = true ↔ .interrupted ∈ log)
  completed : .stored ∈ log → ∃ during after, LastClear log during after
  /-- From then on, those count that came behind the first step of the last complete clear. -/
  remembered : ∀ during after, LastClear log during after → interruptions (during ++ after) < UInt64.size →
    (race.state.isInterrupted d = true ↔ .interrupted ∈ during ++ after)
  /-- As long as an interrupt is pending, no request is sent. -/
  withheld : race.state.isInterrupted d = true → race.state.Withheld d
  /-- A request that was sent before fails for it too, and changes nothing. -/
  givenUp : race.state.isInterrupted d = true → ∀ flight ∈ race.flight?, flight.server = d →
    ∃ reply, State.interruptedReply? flight.call = some reply ∧
      ∀ answer, flight.conclude answer race.state = (reply, race.state)

/-- However the steps of all threads are interleaved, interrupts are neither lost nor found again. -/
theorem reached_remembers {d : Nat} {start race : Race} {log : List Deed} {i : Interrupts}
    (hstart : start.state.interrupts? d = some i) (hquiet : i.pending = false)
    (hheld : start.held? = none) (hflight : start.flight? = none) (h : Reached d start log race) :
    Remembers d log race := by
  have hsame : i.requested = i.cleared := by simpa [Interrupts.pending] using hquiet
  have hfirst : Counted d {} start := by
    refine ⟨⟨i, hstart, hsame.trans (UInt64.add_zero _).symm, ?_⟩, ?_⟩
    · rw [hheld]
      exact nofun
    · rw [hflight]
      exact nofun
  obtain ⟨⟨j, hj, hcount, -⟩, hflights⟩ := h.counted hfirst
  have hpending {n : Nat} (hbehind : (tally log).behind = n) (hn : n < UInt64.size) :
      race.state.isInterrupted d = true ↔ 0 < n := by
    rw [State.isInterrupted_eq hj]
    exact Interrupts.pending_iff (hbehind ▸ hcount) hn
  constructor
  case unforgotten =>
    intro hstored hfew
    rw [hpending (tally_behind hstored) hfew, interruptions_pos_iff]
  case completed => exact (h.ordered hheld).completed
  case remembered =>
    intro during after hlast hfew
    rw [hpending hlast.tally_behind hfew, interruptions_pos_iff]
  case withheld => exact State.withheld
  case givenUp =>
    rintro hinterrupted flight hflying rfl
    exact (hflights flight hflying).2 race.state hinterrupted

/-- The interrupt between the two steps of a clear is kept, and the one before them is not. -/
theorem reached_remembers_between :
    let server : Server :=
      { base := ⟨"http".toList, "localhost".toList, none, [[]], none, none⟩, username := "", password := "" }
    let start : Race := { state := { servers := [server] } }
    let log : List Deed := [.interrupted, .read, .interrupted, .stored]
    (start.state.interrupts? 0 = some {} ∧ ({} : Interrupts).pending = false ∧ start.held? = none ∧
      start.flight? = none) ∧
    ∃ race, Reached 0 start log race ∧ Remembers 0 log race ∧ LastClear log [.interrupted] [] ∧
      race.state.isInterrupted 0 = true := by
  intro server start log
  have hstart : Reached 0 start [] start := .start
  have hfirst := hstart.step (.interrupt (c := .interrupt ⟨0⟩) rfl rfl)
  have hread := hfirst.step (.read rfl rfl)
  have hsecond := hread.step (.interrupt (c := .interrupt ⟨0⟩) rfl rfl)
  have hreached := hsecond.step (.store rfl)
  have hremembers := reached_remembers (i := {}) rfl (by decide) rfl rfl hreached
  have hlast : LastClear log [.interrupted] [] :=
    ⟨⟨[.interrupted], rfl⟩, ⟨by simp, by simp⟩, List.not_mem_nil⟩
  refine ⟨⟨rfl, by decide, rfl, rfl⟩, _, hreached, hremembers, hlast, ?_⟩
  exact (hremembers.remembered _ _ hlast (by decide)).2 (by simp)

end QueryShell.Http
