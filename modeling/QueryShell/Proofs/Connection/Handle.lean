import QueryShell.Proofs.Connection.Keeping
import QueryShell.Proofs.Program.Ensures

/-
The reset handle of a connection, which others may use at any time: between two operations, and while
a call of an operation is under way. Using it may reset the connection or let the driver serve
requests again. It makes four kinds of calls and changes nothing itself, but for the request to
discard an open transaction; `asks_undergoes` puts this into the rules for the calls of an operation.
-/
namespace QueryShell.Connection

open Program

/-! ## What the handle asks for -/

/-- The calls that are made for the handle. -/
def ByHandle : Call → Prop
  | .driver (.resetSession _) => True
  | .driver (.interrupt _) => True
  | .driver (.clearInterrupt _) => True
  | .console (.warn _ _) => True
  | _ => False

/-- The calls that are made for the handle of a connection as it is: what they ask is in its link. -/
def MadeFor (c : Connection) : Call → Prop
  | .driver (.resetSession session) => c.link.session? = some session
  | .driver (.interrupt driver) => c.link.driver? = some driver
  | .driver (.clearInterrupt driver) => c.link.driver? = some driver
  | .console (.warn _ _) => True
  | _ => False

theorem MadeFor.byHandle {c : Connection} {call : Call} (h : MadeFor c call) : ByHandle call := by
  unfold MadeFor at h
  split at h
  · trivial
  · trivial
  · trivial
  · trivial
  · cases h

section Calls

variable {ω : Type} {answers : Answers Connection ω} {holds : Connection × ω → Prop}
  (hcalls : ∀ call sw, MadeFor sw.1 call → holds sw → ∀ reply sw', answers call sw reply sw' →
    holds sw')

include hcalls

theorem ensures_madeFor (call : Call) {sw : Connection × ω} (h : holds sw)
    (hcall : MadeFor sw.1 call) : Ensures answers (Program.call call) (fun _ => holds) sw :=
  (ensures_call call _ sw).2 (hcalls call sw hcall h)

theorem ensures_interruptDriver {sw : Connection × ω} (h : holds sw) :
    Ensures answers (onLink do
      if let some driver := (← get).driver? then
        Program.driver (.interrupt driver)) (fun _ => holds) sw := by
  unfold onLink
  rw [zoom_bind, ensures_bind, ensures_zoom_get]
  cases hdriver : sw.1.link.driver? with
  | none => exact h
  | some driver => exact ensures_madeFor hcalls (.driver (.interrupt driver)) h hdriver

theorem ensures_clearInterrupt {sw : Connection × ω} (h : holds sw) :
    Ensures answers clearInterrupt (fun _ => holds) sw := by
  unfold clearInterrupt onLink Link.clear
  rw [zoom_bind, ensures_bind, ensures_zoom_get]
  cases hdriver : sw.1.link.driver? with
  | none => exact h
  | some driver => exact ensures_madeFor hcalls (.driver (.clearInterrupt driver)) h hdriver

/-- A reset keeps what its request and the calls of the handle keep. -/
theorem ensures_interrupt {sw : Connection × ω}
    (h : holds ({ sw.1 with link := sw.1.link.requestDiscard }, sw.2)) :
    Ensures answers interrupt (fun _ => holds) sw := by
  have hdriver := fun sw h => @ensures_interruptDriver ω answers holds hcalls sw h
  unfold onLink at hdriver
  unfold interrupt onLink Link.reset
  rw [zoom_bind, ensures_bind, ensures_zoom_modify, zoom_bind, ensures_bind, ensures_zoom_get]
  cases hsession : sw.1.link.requestDiscard.session? with
  | none => exact hdriver _ h
  | some session =>
    rw [zoom_bind, ensures_bind]
    refine (ensures_madeFor hcalls (.driver (.resetSession session)) h hsession).weaken ?_
    intro reply sw' h'
    cases reply with
    | ok => exact hdriver _ h'
    | error e =>
      rw [zoom_bind, ensures_bind]
      exact (ensures_madeFor hcalls (.console (.warn .reset _)) h' trivial).weaken
        fun _ sw'' => hdriver sw''

end Calls

/-- Behind `settle` an operation goes on from the settled connection. -/
theorem ensures_settle_bind {ω α : Type} {answers : Answers Connection ω}
    (f : Unit → Attempt Connection Failure α) (post : Except Failure α → Connection × ω → Prop)
    (sw : Connection × ω) : Ensures answers (settle >>= f).run post sw ↔
      Ensures answers (f ()).run post (sw.1.applyDiscard, sw.2) :=
  Attempt.ensures_lift_bind (modify applyDiscard) f post sw

/-! ## Uses of the handle -/

/-- Any number of uses one after the other, to reset the connection or to clear the interrupt. -/
inductive Uses (between : Interference Connection) : Interference Connection where
  | none {c : Connection} : Uses between c [] c
  | reset {c d c' : Connection} {first rest : List Event} : Runs between interrupt c first () d →
      Uses between d rest c' → Uses between c (.interrupted :: first ++ rest) c'
  | clear {c d c' : Connection} {first rest : List Event} : Runs between clearInterrupt c first () d →
      Uses between d rest c' → Uses between c (first ++ rest) c'

/-- Uses of the handle inside any call, `depth` of them inside each other. -/
def handleUses : Nat → Interference Connection
  | 0 => fun c events c' => events = [] ∧ c' = c
  | depth + 1 => Uses (handleUses depth)

theorem handleUses_quiet (depth : Nat) (c : Connection) : handleUses depth c [] c := by
  cases depth with
  | zero => exact ⟨rfl, rfl⟩
  | succ depth => exact .none

/-- An event that comes from a use of the handle. -/
def OfHandle : Event → Prop
  | .asked call => ByHandle call
  | .answered call _ => ByHandle call
  | .interrupted => True

/-- What uses of the handle may do to a connection. -/
structure Undergoes (c : Connection) (events : List Event) (c' : Connection) : Prop where
  pending : c'.pending? = c.pending?
  transactionOpen : c'.link.transactionOpen = c.link.transactionOpen
  active : c'.active = c.active
  driver : c'.link.driver? = c.link.driver?
  session : c'.link.session? = c.link.session?
  requested : c'.link.discardRequested = true →
    c.link.discardRequested = true ∨ c.link.transactionOpen = true
  calm : .interrupted ∉ events → c'.link.discardRequested = c.link.discardRequested
  ofHandle : ∀ e ∈ events, OfHandle e

theorem Undergoes.refl (c : Connection) : Undergoes c [] c :=
  ⟨rfl, rfl, rfl, rfl, rfl, .inl, fun _ => rfl, fun _ h => by cases h⟩

theorem Undergoes.trans {c d c' : Connection} {first second : List Event}
    (h₁ : Undergoes c first d) (h₂ : Undergoes d second c') : Undergoes c (first ++ second) c' := by
  refine ⟨h₂.pending.trans h₁.pending, h₂.transactionOpen.trans h₁.transactionOpen,
    h₂.active.trans h₁.active, h₂.driver.trans h₁.driver, h₂.session.trans h₁.session, ?_, ?_,
    List.forall_mem_append.2 ⟨h₁.ofHandle, h₂.ofHandle⟩⟩
  · intro h
    rcases h₂.requested h with h | h
    · exact h₁.requested h
    · exact .inr (h₁.transactionOpen ▸ h)
  · intro h
    rw [List.mem_append, not_or] at h
    exact (h₂.calm h.2).trans (h₁.calm h.1)

theorem Undergoes.of_event {c : Connection} {e : Event} (h : OfHandle e) : Undergoes c [e] c :=
  ⟨rfl, rfl, rfl, rfl, rfl, .inl, fun _ => rfl, List.forall_mem_singleton.2 h⟩

/-- A request to discard an open transaction. -/
theorem Undergoes.requestDiscard (c : Connection) :
    Undergoes c [.interrupted] { c with link := c.link.requestDiscard } := by
  unfold Link.requestDiscard
  split
  · rename_i hopen
    exact ⟨rfl, rfl, rfl, rfl, rfl, fun _ => .inr hopen, by simp, by simp [OfHandle]⟩
  · exact ⟨rfl, rfl, rfl, rfl, rfl, .inl, by simp, by simp [OfHandle]⟩

/-- Whatever requests to discard and the calls of the handle stay inside of, all its uses stay inside
of. -/
theorem Uses.holds {between holds : Interference Connection} (hframe : Frame holds)
    (hrequest : ∀ c, holds c [.interrupted] { c with link := c.link.requestDiscard })
    (hasked : ∀ c call, MadeFor c call → holds c [.asked call] c)
    (hanswered : ∀ c call reply, ByHandle call → holds c [.answered call reply] c)
    (hbetween : ∀ c events c', between c events c' → holds c events c') {c c' : Connection}
    {events : List Event} (h : Uses between c events c') : holds c events c' := by
  have hcalls : ∀ c first call (s : Connection × List Event), MadeFor s.1 call →
      holds c (first ++ s.2) s.1 → ∀ reply s', asks between call s reply s' →
      holds c (first ++ s'.2) s'.1 := by
    rintro c first call ⟨d, log⟩ hcall h reply ⟨d', log'⟩ ⟨during, hduring, rfl⟩
    have hmeanwhile := hframe.trans (hasked d call hcall) (hbetween _ _ _ hduring)
    have hcalled := hframe.trans hmeanwhile (hanswered d' call reply hcall.byHandle)
    simpa using hframe.trans h hcalled
  induction h with
  | none => exact hframe.refl _
  | @reset c d c' first rest hrun _ ih =>
    have hensures : Ensures (asks between) interrupt
        (fun _ s => holds c ([.interrupted] ++ s.2) s.1) (c, []) :=
      ensures_interrupt (hcalls c [.interrupted]) (hrequest c)
    have hreset : holds c (.interrupted :: first) d := ensures_of_runs hensures hrun
    exact hframe.trans hreset ih
  | @clear c d c' first rest hrun _ ih =>
    have hensures : Ensures (asks between) clearInterrupt
        (fun _ s => holds c ([] ++ s.2) s.1) (c, []) :=
      ensures_clearInterrupt (hcalls c []) (hframe.refl c)
    have hclear : holds c first d := ensures_of_runs hensures hrun
    exact hframe.trans hclear ih

theorem handleUses_holds {holds : Interference Connection} (hframe : Frame holds)
    (hrequest : ∀ c, holds c [.interrupted] { c with link := c.link.requestDiscard })
    (hasked : ∀ c call, MadeFor c call → holds c [.asked call] c)
    (hanswered : ∀ c call reply, ByHandle call → holds c [.answered call reply] c) {depth : Nat}
    {c c' : Connection} {events : List Event} (h : handleUses depth c events c') :
    holds c events c' := by
  induction depth generalizing c events c' with
  | zero =>
    obtain ⟨rfl, rfl⟩ := h
    exact hframe.refl c'
  | succ depth ih => exact Uses.holds hframe hrequest hasked hanswered (fun _ _ _ => ih) h

theorem Undergoes.frame : Frame Undergoes :=
  ⟨Undergoes.refl, Undergoes.trans⟩

theorem Uses.undergoes {between : Interference Connection}
    (hbetween : ∀ c events c', between c events c' → Undergoes c events c') {c c' : Connection}
    {events : List Event} (h : Uses between c events c') : Undergoes c events c' :=
  h.holds Undergoes.frame .requestDiscard (fun _ _ hcall => .of_event hcall.byHandle)
    (fun _ _ _ hcall => .of_event hcall) hbetween

theorem handleUses_undergoes {depth : Nat} {c c' : Connection} {events : List Event}
    (h : handleUses depth c events c') : Undergoes c events c' :=
  handleUses_holds Undergoes.frame .requestDiscard (fun _ _ hcall => .of_event hcall.byHandle)
    (fun _ _ _ hcall => .of_event hcall) h

/-- An event that comes from a use of the handle of a connection. -/
def FromHandle (c : Connection) : Event → Prop
  | .asked call => MadeFor c call
  | .answered call _ => ByHandle call
  | .interrupted => True

/-- What uses of the handle do: they ask what is in the link, and change nothing but the request. -/
structure Attends (c : Connection) (events : List Event) (c' : Connection) : Prop where
  rest : c' = { c with link := { c.link with discardRequested := c'.link.discardRequested } }
  fromHandle : ∀ e ∈ events, FromHandle c e

theorem Attends.refl (c : Connection) : Attends c [] c :=
  ⟨rfl, fun _ h => by cases h⟩

theorem Attends.of_event {c : Connection} {e : Event} (h : FromHandle c e) : Attends c [e] c :=
  ⟨rfl, List.forall_mem_singleton.2 h⟩

theorem Attends.trans {c d c' : Connection} {first second : List Event} (h₁ : Attends c first d)
    (h₂ : Attends d second c') : Attends c (first ++ second) c' := by
  have hd := h₁.rest
  refine ⟨?_, List.forall_mem_append.2 ⟨h₁.fromHandle, fun e he => ?_⟩⟩
  · rw [h₂.rest, hd]
  · have hfrom := h₂.fromHandle e he
    rw [hd] at hfrom
    exact hfrom

theorem Attends.requestDiscard (c : Connection) :
    Attends c [.interrupted] { c with link := c.link.requestDiscard } := by
  refine ⟨?_, List.forall_mem_singleton.2 trivial⟩
  unfold Link.requestDiscard
  split <;> rfl

theorem handleUses_attends {depth : Nat} {c c' : Connection} {events : List Event}
    (h : handleUses depth c events c') : Attends c events c' :=
  handleUses_holds ⟨Attends.refl, Attends.trans⟩ .requestDiscard (fun _ _ hcall => .of_event hcall)
    (fun _ _ _ hcall => .of_event hcall) h

theorem ByHandle.harmless {call : Call} (h : ByHandle call) {own? : Option Query} :
    Harmless own? call := by
  unfold ByHandle at h
  split at h
  · trivial
  · trivial
  · trivial
  · trivial
  · cases h

/-- Uses of the handle do no more to an open transaction than to ask that it be discarded. -/
theorem handleUses_keeps {own? : Option Query} {depth : Nat} {c c' : Connection}
    {events : List Event} (h : handleUses depth c events c') : Keeps own? c events c' := by
  refine handleUses_holds (keepsFrame own?) (fun c => ?_) (fun c call hcall => ?_)
    (fun c call reply hcall => ?_) h
  · refine ⟨rfl, requestDiscard_transactionOpen c.link, ?_, rfl, nofun⟩
    rw [requestDiscard_discardRequested]
    simp
  · have hharmless : Harmless own? call := hcall.byHandle.harmless
    exact .of_event (by simp) hharmless.transaction?_eq hharmless.single?_expected
  · exact .of_event (by simp) rfl nofun

end QueryShell.Connection
