import QueryShell.Proofs.Http.Chaining

/-
References are made only to what is there. A session is opened by the driver of its connection, which was
opened before, so in every run of a connection over a web each session belongs to a server that is known.
Servers and sessions are only added (`State.Grows`), and a reference that is known once stays known.
-/
namespace QueryShell.Http

/-! ## States -/

/-- Every session belongs to a server that is known. -/
def State.Founded (st : State) : Prop :=
  ∀ session ∈ st.sessions, session.server < st.servers.length

/-- Servers and sessions are only added, and sessions only on servers that are known. -/
structure State.Grows (st st' : State) : Prop where
  servers : st.servers.length ≤ st'.servers.length
  founded : st.Founded → st'.Founded

/-- What comes of a call lets a state grow, now or when the answer is there. -/
def Step.Grows {ρ : Type} (st : State) : Step ρ → Prop
  | .replied _ st' => st.Grows st'
  | .exchange _ conclude => ∀ (answer : Answer) (st' : State), st'.Grows (conclude answer st').2

/-- A call that opens a session does so on a server that is known. -/
def Refers (st : State) : Call → Prop
  | .driver (.openSession driver _) => driver.number < st.servers.length
  | _ => True

theorem State.Grows.refl (st : State) : st.Grows st :=
  ⟨Nat.le_refl _, id⟩

theorem grows_onServer (st : State) (i : Nat) (f : Server → Server) : st.Grows (st.onServer i f) := by
  have hlength : (st.onServer i f).servers.length = st.servers.length := List.length_modify ..
  refine ⟨Nat.le_of_eq hlength.symm, fun h session hsession => ?_⟩
  rw [hlength]
  exact h session hsession

/-- A session does not move to another server. -/
theorem grows_onSession (st : State) (i : Nat) {f : Session → Session}
    (hf : ∀ session, (f session).server = session.server) : st.Grows (st.onSession i f) := by
  refine ⟨Nat.le_refl _, fun h session hsession => ?_⟩
  obtain ⟨j, hj⟩ := List.mem_iff_getElem?.1 hsession
  unfold State.onSession at hj
  rw [List.getElem?_modify] at hj
  obtain ⟨before, hbefore, rfl⟩ := Option.map_eq_some_iff.1 hj
  have hserver : (if i = j then f before else before).server = before.server := by
    split
    · exact hf before
    · rfl
  rw [hserver]
  exact h before (List.mem_of_getElem? hbefore)

theorem grows_openDriver (st : State) (e : Endpoint) : st.Grows (st.openDriver e).2 := by
  unfold State.openDriver
  split
  · exact .refl st
  split
  · refine ⟨by simp, fun h session hsession => ?_⟩
    exact Nat.lt_of_lt_of_le (h session hsession) (by simp)
  · refine ⟨by simp, fun h session hsession => ?_⟩
    exact Nat.lt_of_lt_of_le (h session hsession) (by simp)
  · exact .refl st

/-- A driver that was opened is known. -/
theorem openDriver_known {st : State} {e : Endpoint} {driver : Driver.Ref}
    (h : (st.openDriver e).1 = .ok driver) : driver.number < (st.openDriver e).2.servers.length := by
  revert h
  unfold State.openDriver
  split
  · nofun
  split
  · rintro ⟨⟩
    simp
  · rintro ⟨⟩
    simp
  · nofun

theorem grows_openSession {st : State} {driver : Driver.Ref} (config : SessionConfig)
    (hdriver : driver.number < st.servers.length) : st.Grows (st.openSession driver config).2 := by
  refine ⟨Nat.le_refl _, fun h => List.forall_mem_append.2 ⟨h, List.forall_mem_singleton.2 hdriver⟩⟩

theorem grows_verify (st : State) (i : Nat) : (st.verify i).Grows st := by
  unfold State.verify
  cases st.servers[i]? with
  | none => exact .refl st
  | some server =>
    dsimp only
    unfold State.sendUnlessInterrupted
    split
    · exact .refl st
    split
    · exact .refl st
    intro answer st'
    dsimp only
    split
    · exact .refl st'
    · cases readDiscovery server.base answer with
      | error fault => exact .refl st'
      | ok discovery => exact grows_onServer st' i _

theorem grows_concludeCommit (i : Nat) (session : Session) (url : Url) (answer : Answer) (st : State) :
    st.Grows (concludeCommit i session url answer st).2 := by
  unfold concludeCommit
  split
  · exact .refl st
  split
  · exact .refl st
  · dsimp only
    split
    · exact .refl st
    · exact grows_onSession st i fun _ => rfl

theorem grows_commit (st : State) (i : Nat) (queries : List Query) :
    (st.commit i queries).Grows st := by
  have hstep := commit_step st i queries
  generalize st.commit i queries = step at hstep ⊢
  cases hstep with
  | unknown | closed | interrupted | unsendable => exact .refl st
  | sent _ _ _ _ _ hconclude =>
    intro answer st'
    rw [hconclude]
    exact grows_concludeCommit ..

theorem Step.Grows.map {ρ ρ' : Type} {st : State} {step : Step ρ} (h : step.Grows st) (f : ρ → ρ') :
    (step.map f).Grows st := by
  cases step <;> exact h

/-- Every call lets the state grow. -/
theorem grows_begin {st : State} {c : Driver.Call} (hrefers : Refers st (.driver c)) :
    (st.begin c).Grows st := by
  cases c with
  | openDriver e => exact grows_openDriver st e
  | verify driver => exact grows_verify st driver.number
  | openSession driver config => exact grows_openSession config hrefers
  | run session query => exact (grows_commit st session.number [query]).map State.single
  | write session queries =>
    cases queries with
    | nil => exact .refl st
    | cons query queries => exact grows_commit st session.number (query :: queries)
  | resetSession session =>
    unfold State.begin
    dsimp only
    cases st.sessions[session.number]? with
    | none => exact .refl st
    | some s => exact grows_onServer st s.server _
  | closeSession session => exact grows_onSession st session.number fun _ => rfl
  | interrupt driver => exact grows_onServer st driver.number _
  | clearInterrupt driver => exact grows_onServer st driver.number _
  | _ => exact .refl st

end QueryShell.Http

namespace QueryShell.Connection

open Program Http

variable {ω : Type} {web : Web ω} {rest : Environment ω} {depth n : Nat} {s s' : Scene ω}

/-! ## Scenes -/

/-- The driver and all sessions refer to servers that are known, of which there are `n` at least. -/
structure Founded (n : Nat) (s : Scene ω) : Prop where
  grown : n ≤ s.2.1.servers.length
  driver : ∀ driver, s.1.link.driver? = some driver → driver.number < s.2.1.servers.length
  sessions : s.2.1.Founded

theorem Founded.mono {m : Nat} (h : Founded n s) (hle : m ≤ n) : Founded m s :=
  ⟨Nat.le_trans hle h.grown, h.driver, h.sessions⟩

/-- A driver in the link is known from then on. -/
theorem Founded.known (h : Founded n s) {driver : Driver.Ref} (hdriver : s.1.link.driver? = some driver) :
    Founded (max n (driver.number + 1)) s :=
  ⟨Nat.max_le.2 ⟨h.grown, h.driver driver hdriver⟩, h.driver, h.sessions⟩

/-- No driver is made up. -/
theorem Founded.note (h : Founded n s) {c : Connection}
    (hdriver : ∀ driver, c.link.driver? = some driver → s.1.link.driver? = some driver) :
    Founded n (c, s.2) :=
  ⟨h.grown, fun driver hc => h.driver driver (hdriver driver hc), h.sessions⟩

theorem Founded.grows (h : Founded n s) {world : State × List Exchange × ω}
    (hgrows : s.2.1.Grows world.1) : Founded n (s.1, world) :=
  ⟨Nat.le_trans h.grown hgrows.servers,
    fun driver hdriver => Nat.lt_of_lt_of_le (h.driver driver hdriver) hgrows.servers,
    hgrows.founded h.sessions⟩

/-! ### Calls -/

/-- A call lets the state grow, both when it starts and when it ends. -/
theorem recorded_grows (web : Web ω) (rest : Environment ω) {call : Call} {world : State × List Exchange × ω}
    (hrefers : Refers world.1 call) : world.1.Grows (recorded web rest call world).world.1 ∧
      ∀ world' : State × List Exchange × ω,
        world'.1.Grows ((recorded web rest call world).finish world').2.1 := by
  cases call with
  | driver c =>
    obtain ⟨st, log, w⟩ := world
    have hgrows := grows_begin hrefers
    show st.Grows (recordCall web c (st, log, w)).world.1 ∧
      ∀ world' : State × List Exchange × ω,
        world'.1.Grows ((recordCall web c (st, log, w)).finish world').2.1
    cases hbegin : st.begin c with
    | replied reply st' =>
      rw [hbegin] at hgrows
      rw [recordCall_replied web hbegin]
      exact ⟨hgrows, fun _ => .refl _⟩
    | exchange request conclude =>
      rw [hbegin] at hgrows
      rw [recordCall_exchange web hbegin]
      exact ⟨.refl st, fun world' => hgrows _ _⟩
  | _ => exact ⟨.refl _, fun _ => .refl _⟩

theorem refers_of_byHandle {call : Call} (h : ByHandle call) (st : State) : Refers st call := by
  unfold ByHandle at h
  split at h
  · trivial
  · trivial
  · trivial
  · trivial
  · cases h

theorem Founded.interrupts (depth : Nat) (s : Scene ω) (h : Founded n s) :
    Ensures (overWeb web rest depth) interrupt (fun _ => Founded n) s := by
  refine ensures_interrupts (fun call s hcall h => ?_) (fun s h => h.note fun driver => ?_) depth s h
  · obtain ⟨hstarted, hfinish⟩ := recorded_grows web rest (refers_of_byHandle hcall s.2.1)
    exact ⟨h.grows hstarted, fun m hm => hm.grows (hfinish m.2)⟩
  · unfold Link.requestDiscard
    split <;> exact id

theorem Founded.call (h : Founded n s) {c : Call} (hrefers : Refers s.2.1 c) {reply : c.Reply}
    (hover : overWeb web rest depth c s reply s') : Founded n s' := by
  obtain ⟨hstarted, hfinish⟩ := recorded_grows web rest hrefers
  obtain ⟨m, hm, hreply, hstate⟩ := Environment.performs_cases (fun d _ => Founded.interrupts d) hover
    (h.grows hstarted)
  have hfinished := hm.grows (hfinish m.2)
  rw [← hreply, ← hstate] at hfinished
  exact hfinished

/-- A driver that was opened is known. -/
theorem Founded.opened (h : Founded n s) {endpoint : Endpoint} {driver : Driver.Ref}
    (hover : overWeb web rest depth (.driver (.openDriver endpoint)) s (.ok driver) s') :
    Founded (max n (driver.number + 1)) s' := by
  have hbegin : s.2.1.begin (.openDriver endpoint) =
      .replied ((s.2.1.openDriver endpoint).1.mapError Fault.toError) (s.2.1.openDriver endpoint).2 := rfl
  have hreply := (overWeb_replied hbegin hover).1
  have hdriver : (s.2.1.openDriver endpoint).1 = .ok driver := by
    cases hresult : (s.2.1.openDriver endpoint).1 with
    | error fault =>
      rw [hresult] at hreply
      cases hreply
    | ok opened =>
      rw [hresult] at hreply
      cases hreply
      rfl
  have hstart : Founded n (s.1, (s.2.1.openDriver endpoint).2, s.2.2) :=
    h.grows (grows_openDriver s.2.1 endpoint)
  exact (overWeb_replied_keeps Founded.interrupts hbegin
    ⟨Nat.max_le.2 ⟨hstart.grown, openDriver_known hdriver⟩, hstart.driver, hstart.sessions⟩ hover).2

/-! ## Operations -/

end QueryShell.Connection
